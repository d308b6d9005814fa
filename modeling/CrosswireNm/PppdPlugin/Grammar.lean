import CrosswireNm.PppdPlugin.Netparams
import Mathlib.Data.List.Forall2
import Mathlib.Data.List.ReduceOption

/-!
# The entries of the environment contract
-/

namespace CrosswireNm.PppdPlugin

open Library

/-- An entry as the contract has it: a dotted quad, a slash, and a prefix of digits only. -/
def ContractEntry (order : ByteOrder) (entry : List Char) (route : NmoRoute) : Prop :=
  ∃ network digits, entry = dotted network ++ '/' :: digits ∧ digits ≠ [] ∧
    (∀ c ∈ digits, c.isDigit = true) ∧ Nat.ofDigitChars 10 digits 0 ≤ 32 ∧
    route =
      { networkBe := network.sAddr order
        prefixLength := .ofNat (Nat.ofDigitChars 10 digits 0) }

/-- Blanks or a sign in front of the digits, and a value in range behind them. -/
def PaddedEntry (entry : List Char) : Prop :=
  ∃ network number blanks sign digits, entry = dotted network ++ '/' :: number ∧
    Numeral number blanks sign digits ∧ (blanks ≠ [] ∨ sign ≠ []) ∧
    Nat.ofDigitChars 10 digits 0 ≤ 32 ∧ (sign = ['-'] → Nat.ofDigitChars 10 digits 0 = 0)

private theorem checkedPrefix_value {number : List Char} {value : UInt32}
    (h : checkedPrefix number = some value) : value = .ofNat (strtol number).value.toNat := by
  unfold checkedPrefix at h
  dsimp only at h
  split at h
  · cases h
  · exact (Option.some.inj h).symm

section Prefix

variable {number blanks sign digits : List Char} (h : Numeral number blanks sign digits)
include h

private theorem strtol_range :
    (0 ≤ (strtol number).value ∧ (strtol number).value ≤ 32 ↔
      Nat.ofDigitChars 10 digits 0 ≤ 32 ∧ (sign = ['-'] → Nat.ofDigitChars 10 digits 0 = 0)) ∧
    (0 ≤ (strtol number).value → (strtol number).value ≤ 32 →
      (strtol number).value.toNat = Nat.ofDigitChars 10 digits 0) := by
  have hmax : longMax = 9223372036854775807 := rfl
  rw [h.strtol_eq]
  dsimp only
  by_cases hsign : sign = ['-']
  · rw [if_pos hsign]
    simp only [hsign, true_implies]
    omega
  · rw [if_neg hsign]
    simp only [hsign, false_implies, and_true]
    omega

end Prefix

private theorem checkedPrefix_eq_some {number : List Char} {value : UInt32} :
    checkedPrefix number = some value ↔
      ∃ blanks sign digits, Numeral number blanks sign digits ∧
        Nat.ofDigitChars 10 digits 0 ≤ 32 ∧ (sign = ['-'] → Nat.ofDigitChars 10 digits 0 = 0) ∧
        value = .ofNat (Nat.ofDigitChars 10 digits 0) := by
  constructor
  · intro h
    have hsome : (checkedPrefix number).isSome := by rw [h]; rfl
    obtain ⟨hne, hrest, hlow, hhigh⟩ := checkedPrefix_isSome.mp hsome
    obtain ⟨blanks, sign, digits, hnumeral⟩ := exists_numeral hne hrest
    obtain ⟨hrange, hvalue⟩ := strtol_range hnumeral
    obtain ⟨hle, hminus⟩ := hrange.mp ⟨hlow, hhigh⟩
    refine ⟨blanks, sign, digits, hnumeral, hle, hminus, ?_⟩
    rw [checkedPrefix_value h, hvalue hlow hhigh]
  · rintro ⟨blanks, sign, digits, hnumeral, hle, hminus, rfl⟩
    have hne : number ≠ [] := by
      rw [hnumeral.split]
      simp [hnumeral.nonempty]
    have hrest : (strtol number).rest = [] := by rw [hnumeral.strtol_eq]
    obtain ⟨hrange, hvalue⟩ := strtol_range hnumeral
    obtain ⟨hlow, hhigh⟩ := hrange.mpr ⟨hle, hminus⟩
    obtain ⟨value, h⟩ :=
      Option.isSome_iff_exists.mp (checkedPrefix_isSome.mpr ⟨hne, hrest, hlow, hhigh⟩)
    rw [h, checkedPrefix_value h, hvalue hlow hhigh]

private theorem routeOf_of_contract {order : ByteOrder} {entry : List Char} {route : NmoRoute}
    (h : ContractEntry order entry route) : routeOf order entry = some route := by
  obtain ⟨network, digits, hentry, hne, hdigits, hrange, hroute⟩ := h
  apply (routeOf_eq_some order).mpr
  refine ⟨network, digits, _, hentry, checkedPrefix_eq_some.mpr ?_, hroute⟩
  have hnumeral : Numeral digits [] [] digits :=
    ⟨rfl, fun _ hc => absurd hc List.not_mem_nil, Or.inl rfl, hne, hdigits⟩
  exact ⟨[], [], digits, hnumeral, hrange, fun hsign => absurd hsign (by decide), rfl⟩

private theorem routeOf_of_padded (order : ByteOrder) {entry : List Char}
    (h : PaddedEntry entry) : ∃ route, routeOf order entry = some route := by
  obtain ⟨network, number, blanks, sign, digits, hentry, hnumeral, _, hrange, hminus⟩ := h
  exact ⟨_, (routeOf_eq_some order).mpr ⟨network, number, _, hentry,
    checkedPrefix_eq_some.mpr ⟨blanks, sign, digits, hnumeral, hrange, hminus, rfl⟩, rfl⟩⟩

/-- What is read as a route is an entry of the contract, or one with padding. -/
private theorem contract_or_padded {order : ByteOrder} {entry : List Char} {route : NmoRoute}
    (h : routeOf order entry = some route) :
    ContractEntry order entry route ∨ PaddedEntry entry := by
  obtain ⟨network, number, value, hentry, hvalue, hroute⟩ := (routeOf_eq_some order).mp h
  obtain ⟨blanks, sign, digits, hnumeral, hrange, hminus, rfl⟩ := checkedPrefix_eq_some.mp hvalue
  by_cases hpadding : blanks = [] ∧ sign = []
  · left
    obtain ⟨rfl, rfl⟩ := hpadding
    have hnumber : number = digits := hnumeral.split
    exact ⟨network, digits, hnumber ▸ hentry, hnumeral.nonempty, hnumeral.decimal, hrange, hroute⟩
  · right
    exact ⟨network, number, blanks, sign, digits, hentry, hnumeral,
      not_and_or.mp hpadding, hrange, hminus⟩

/-- The first slash ends the address, so that an entry is read in one way only. -/
private theorem slash_unique {network network' : IPv4} {number number' : List Char}
    (h : dotted network ++ '/' :: number = dotted network' ++ '/' :: number') :
    number = number' := by
  have hslash : ∀ ip number, strchr (dotted ip ++ '/' :: number) '/' = some (dotted ip).length :=
    fun ip number => strchr_append_cons number (dotted_clean ip (isDigit_of_beq rfl) rfl)
  have hlength : (dotted network).length = (dotted network').length := by
    have hfirst := hslash network number
    rw [h, hslash network' number'] at hfirst
    exact (Option.some.inj hfirst).symm
  exact (List.cons.inj (List.append_inj_right h hlength)).2

private theorem not_padded_of_contract {order : ByteOrder} {entry : List Char} {route : NmoRoute}
    (h : ContractEntry order entry route) : ¬ PaddedEntry entry := by
  obtain ⟨network, digits, rfl, _, hdigits, _⟩ := h
  rintro ⟨network', number, blanks, sign, digits', hentry, hnumeral, hpadding, _⟩
  have hall : ∀ c ∈ blanks ++ (sign ++ digits'), c.isDigit = true := by
    rw [← hnumeral.split, ← slash_unique hentry]
    exact hdigits
  have hblanks : blanks = [] := by
    apply List.eq_nil_iff_forall_not_mem.mpr
    intro c hc
    have hdigit := hall c (List.mem_append_left _ hc)
    rw [isDigit_of_isSpace (hnumeral.spaces c hc)] at hdigit
    cases hdigit
  have hsign : sign = [] := by
    rcases hnumeral.signed with rfl | rfl | rfl
    · rfl
    · exact absurd (hall '+' (by simp)) (by decide)
    · exact absurd (hall '-' (by simp)) (by decide)
  rcases hpadding with hne | hne
  · exact hne hblanks
  · exact hne hsign

section Marks

variable {α β : Type} {f : α → Option β} {entries : List α} {marks : List (Option β)}

private theorem reduceOption_length_le
    (h : List.Forall₂ (fun entry mark => ∀ b, mark = some b → f entry = some b) entries marks) :
    marks.reduceOption.length ≤ (entries.filterMap f).length := by
  induction h with
  | nil => exact Nat.le_refl _
  | @cons entry mark entries marks hmark _ ih =>
    cases mark with
    | none =>
      rw [List.reduceOption_cons_of_none]
      exact Nat.le_trans ih (List.Sublist.length_le ((List.sublist_cons_self _ _).filterMap f))
    | some b =>
      rw [List.reduceOption_cons_of_some, List.filterMap_cons_some (hmark b rfl)]
      exact Nat.succ_le_succ ih

private theorem marks_eq_map
    (h : List.Forall₂ (fun entry mark => ∀ b, mark = some b → f entry = some b) entries marks)
    (hlength : (entries.filterMap f).length ≤ marks.reduceOption.length) :
    marks = entries.map f := by
  induction h with
  | nil => rfl
  | @cons entry mark entries marks hmark hrest ih =>
    cases mark with
    | none =>
      rw [List.reduceOption_cons_of_none] at hlength
      cases hentry : f entry with
      | none =>
        rw [List.filterMap_cons_none hentry] at hlength
        rw [List.map_cons, hentry, ih hlength]
      | some b =>
        have hle := reduceOption_length_le hrest
        rw [List.filterMap_cons_some hentry, List.length_cons] at hlength
        omega
    | some b =>
      rw [List.reduceOption_cons_of_some, List.filterMap_cons_some (hmark b rfl)] at hlength
      rw [List.map_cons, hmark b rfl, ih (Nat.le_of_succ_le_succ hlength)]

end Marks

/-- Each entry is marked with its route if the contract has it, and with nothing otherwise; the
marks are what is read, up to the bound. -/
def AcceptsContract (order : ByteOrder) (s : CStr) : Prop :=
  ∃ marks : List (Option NmoRoute),
    List.Forall₂ (fun entry mark => ∀ route, mark = some route ↔ ContractEntry order entry route)
      (tokens isComma s.text) marks ∧
    ∀ max, nmoParseRoutes order (some s) max = marks.reduceOption.take max.toNat

private theorem contract_of_accepts {order : ByteOrder} {s : CStr} (h : AcceptsContract order s)
    {entry : List Char} (hentry : entry ∈ tokens isComma s.text) {route : NmoRoute}
    (hroute : routeOf order entry = some route) : ContractEntry order entry route := by
  obtain ⟨marks, hmarks, hparse⟩ := h
  have hlength : ((tokens isComma s.text).filterMap (routeOf order)).length ≤
      marks.reduceOption.length := by
    have hall := congrArg List.length
      (hparse ((tokens isComma s.text).filterMap (routeOf order)).length)
    rw [nmoParseRoutes_eq, Int.toNat_natCast, List.take_length, List.length_take] at hall
    omega
  have hsome : List.Forall₂ (fun entry mark => ∀ route, mark = some route →
      routeOf order entry = some route) (tokens isComma s.text) marks := by
    apply hmarks.imp
    intro entry mark hmark route hsome
    exact routeOf_of_contract ((hmark route).mp hsome)
  rw [marks_eq_map hsome hlength, List.forall₂_map_right_iff, List.forall₂_same] at hmarks
  exact (hmarks entry hentry route).mp hroute

private theorem not_accepts_of_padded {order : ByteOrder} {s : CStr} {entry : List Char}
    (hentry : entry ∈ tokens isComma s.text) (hpadded : PaddedEntry entry) :
    ¬ AcceptsContract order s := by
  intro h
  obtain ⟨route, hroute⟩ := routeOf_of_padded order hpadded
  exact not_padded_of_contract (contract_of_accepts h hentry hroute) hpadded

/-- The parser accepts the contract's grammar unless an entry has padding. -/
theorem acceptsContract_iff (order : ByteOrder) (s : CStr) :
    AcceptsContract order s ↔ ∀ entry ∈ tokens isComma s.text, ¬ PaddedEntry entry := by
  constructor
  · intro h entry hentry hpadded
    exact not_accepts_of_padded hentry hpadded h
  · intro h
    refine ⟨(tokens isComma s.text).map (routeOf order), ?_, ?_⟩
    · rw [List.forall₂_map_right_iff, List.forall₂_same]
      intro entry hentry route
      constructor
      · intro hroute
        exact (contract_or_padded hroute).resolve_right (h entry hentry)
      · exact routeOf_of_contract
    · intro max
      rw [nmoParseRoutes_eq]
      unfold List.reduceOption
      rw [List.filterMap_map]
      rfl

theorem not_acceptsContract_plus :
    ¬ AcceptsContract .little ⟨"10.0.0.0/+8".toList, by decide⟩ := by
  have hclean : Clean isComma "10.0.0.0/+8".toList := by
    have hall : "10.0.0.0/+8".toList.all (fun c => !isComma c) = true := by decide
    intro c hc
    simpa using List.all_eq_true.mp hall c hc
  have hentry : "10.0.0.0/+8".toList ∈ tokens isComma "10.0.0.0/+8".toList := by
    rw [tokens_clean hclean]
    exact List.mem_singleton_self _
  have hnumeral : Numeral "+8".toList [] ['+'] ['8'] :=
    ⟨rfl, fun _ hc => absurd hc List.not_mem_nil, Or.inr (Or.inl rfl), by decide,
      List.all_eq_true.mp rfl⟩
  exact not_accepts_of_padded hentry ⟨⟨10, 0, 0, 0⟩, "+8".toList, [], ['+'], ['8'], by decide,
    hnumeral, Or.inr (by decide), by decide, by decide⟩

end CrosswireNm.PppdPlugin
