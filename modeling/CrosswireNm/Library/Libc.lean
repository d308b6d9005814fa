import CrosswireNm.Library.Tokens

/-!
# Numbers and addresses as the C library reads them
-/

namespace CrosswireNm.Library

inductive ByteOrder
  | little
  | big
  deriving DecidableEq, Repr

structure IPv4 where
  a : UInt8
  b : UInt8
  c : UInt8
  d : UInt8
  deriving DecidableEq, Repr

def nativeWord (order : ByteOrder) (b₀ b₁ b₂ b₃ : UInt8) : UInt32 :=
  match order with
  | .little => .ofNat (b₀.toNat + 256 * (b₁.toNat + 256 * (b₂.toNat + 256 * b₃.toNat)))
  | .big => .ofNat (b₃.toNat + 256 * (b₂.toNat + 256 * (b₁.toNat + 256 * b₀.toNat)))

/-- `s_addr`: the address lies in memory in network order, whatever the machine's is. -/
def IPv4.sAddr (order : ByteOrder) (ip : IPv4) : UInt32 := nativeWord order ip.a ip.b ip.c ip.d

private theorem toNat_nativeWord (b₀ b₁ b₂ b₃ : UInt8) :
    (nativeWord .little b₀ b₁ b₂ b₃).toNat =
      b₀.toNat + 256 * (b₁.toNat + 256 * (b₂.toNat + 256 * b₃.toNat)) := by
  have h₀ := b₀.toNat_lt
  have h₁ := b₁.toNat_lt
  have h₂ := b₂.toNat_lt
  have h₃ := b₃.toNat_lt
  unfold nativeWord
  rw [UInt32.toNat_ofNat']
  omega

private theorem nativeWord_inj {b₀ b₁ b₂ b₃ c₀ c₁ c₂ c₃ : UInt8}
    (h : nativeWord .little b₀ b₁ b₂ b₃ = nativeWord .little c₀ c₁ c₂ c₃) :
    b₀ = c₀ ∧ b₁ = c₁ ∧ b₂ = c₂ ∧ b₃ = c₃ := by
  have hnat := congrArg UInt32.toNat h
  rw [toNat_nativeWord, toNat_nativeWord] at hnat
  have hb₀ := b₀.toNat_lt
  have hb₁ := b₁.toNat_lt
  have hb₂ := b₂.toNat_lt
  have hc₀ := c₀.toNat_lt
  have hc₁ := c₁.toNat_lt
  have hc₂ := c₂.toNat_lt
  simp only [← UInt8.toNat_inj]
  omega

theorem IPv4.sAddr_injective (order : ByteOrder) : Function.Injective (IPv4.sAddr order) := by
  rintro ⟨a, b, c, d⟩ ⟨a', b', c', d'⟩ h
  cases order with
  | little =>
    obtain ⟨rfl, rfl, rfl, rfl⟩ := nativeWord_inj h
    rfl
  | big =>
    have hreversed : nativeWord .little d c b a = nativeWord .little d' c' b' a' := h
    obtain ⟨rfl, rfl, rfl, rfl⟩ := nativeWord_inj hreversed
    rfl

def decimal (n : Nat) : List Char := Nat.toDigits 10 n

theorem decimal_isDigit {n : Nat} : ∀ c ∈ decimal n, c.isDigit = true :=
  fun _ hc => Nat.isDigit_of_mem_toDigits (by decide) (by decide) hc

theorem decimal_ne_nil (n : Nat) : decimal n ≠ [] := Nat.toDigits_ne_nil

theorem decimal_clean (n : Nat) {sep : Char → Bool} (hsep : ∀ c, sep c = true → c.isDigit = false) :
    Clean sep (decimal n) := by
  intro c hc
  apply Bool.eq_false_iff.mpr
  intro htrue
  have hdigit := decimal_isDigit c hc
  rw [hsep c htrue] at hdigit
  cases hdigit

theorem isDigit_of_beq {d : Char} (hd : d.isDigit = false) (c : Char) (h : (c == d) = true) :
    c.isDigit = false := by
  rw [beq_iff_eq.mp h]
  exact hd

private theorem digitChar_of_isDigit {c : Char} (hc : c.isDigit = true) :
    c.toNat - '0'.toNat < 10 ∧ (c.toNat - '0'.toNat).digitChar = c := by
  have hbounds := Char.isDigit_iff_toNat.mp hc
  have hlow : '0'.toNat = 48 := rfl
  have hhigh : '9'.toNat = 57 := rfl
  have hlt : c.toNat - '0'.toNat < 10 := by omega
  refine ⟨hlt, Char.toNat_inj.mp ?_⟩
  rw [Nat.toNat_digitChar_of_lt_ten hlt]
  omega

private theorem decimal_append {digits : List Char} (hdigits : ∀ c ∈ digits, c.isDigit = true)
    {n : Nat} (hn : 0 < n) : decimal (Nat.ofDigitChars 10 digits n) = decimal n ++ digits := by
  induction digits generalizing n with
  | nil => rw [Nat.ofDigitChars_nil, List.append_nil]
  | cons c digits ih =>
    obtain ⟨hlt, hchar⟩ := digitChar_of_isDigit (hdigits c List.mem_cons_self)
    have hrest := fun b hb => hdigits b (List.mem_cons_of_mem c hb)
    have hstep : decimal (10 * n + (c.toNat - '0'.toNat)) = decimal n ++ [c] := by
      unfold decimal
      rw [← Nat.toDigits_append_toDigits (by decide) hn hlt, Nat.toDigits_of_lt_base hlt, hchar]
    rw [Nat.ofDigitChars_cons, ih hrest (by omega), hstep, List.append_assoc]
    rfl

theorem decimal_ofDigitChars {first : Char} {digits : List Char}
    (hdigits : ∀ c ∈ first :: digits, c.isDigit = true) (hzero : first = '0' → digits = []) :
    decimal (Nat.ofDigitChars 10 (first :: digits) 0) = first :: digits := by
  obtain ⟨hlt, hchar⟩ := digitChar_of_isDigit (hdigits first List.mem_cons_self)
  have hfirst : decimal (first.toNat - '0'.toNat) = [first] := by
    unfold decimal
    rw [Nat.toDigits_of_lt_base hlt, hchar]
  rw [Nat.ofDigitChars_cons, Nat.mul_zero, Nat.zero_add]
  by_cases hvalue : first.toNat - '0'.toNat = 0
  · have hfirstZero : first = '0' := by
      rw [← hchar, hvalue]
      rfl
    rw [hzero hfirstZero, Nat.ofDigitChars_nil, hfirst]
  · rw [decimal_append (fun c hc => hdigits c (List.mem_cons_of_mem _ hc)) (by omega), hfirst]
    rfl

section Address

def octet (part : List Char) : Option UInt8 :=
  if part.isEmpty || !part.all Char.isDigit || (part.head? = some '0' && 1 < part.length) then none
  else if Nat.ofDigitChars 10 part 0 ≤ 255 then some (.ofNat (Nat.ofDigitChars 10 part 0))
  else none

def inetPton (text : List Char) : Option IPv4 :=
  match text.splitOnP (· == '.') with
  | [a, b, c, d] =>
    (octet a).bind fun a => (octet b).bind fun b => (octet c).bind fun c =>
      (octet d).map fun d => ⟨a, b, c, d⟩
  | _ => none

def dotted (ip : IPv4) : List Char :=
  decimal ip.a.toNat ++ '.' :: (decimal ip.b.toNat ++ '.' ::
    (decimal ip.c.toNat ++ '.' :: decimal ip.d.toNat))

private theorem octet_decimal (byte : UInt8) : octet (decimal byte.toNat) = some byte := by
  have hall : ∀ n < 256, octet (decimal n) = some (.ofNat n) := by decide +kernel
  rw [hall _ byte.toNat_lt, UInt8.ofNat_toNat]

theorem inetPton_dotted (ip : IPv4) : inetPton (dotted ip) = some ip := by
  have hdot : ('.' == '.') = true := rfl
  have hsplit : (dotted ip).splitOnP (· == '.') =
      [decimal ip.a.toNat, decimal ip.b.toNat, decimal ip.c.toNat, decimal ip.d.toNat] := by
    unfold dotted
    rw [List.splitOnP_append_cons_of_forall_mem (decimal_clean _ (isDigit_of_beq rfl)) _ hdot,
      List.splitOnP_append_cons_of_forall_mem (decimal_clean _ (isDigit_of_beq rfl)) _ hdot,
      List.splitOnP_append_cons_of_forall_mem (decimal_clean _ (isDigit_of_beq rfl)) _ hdot,
      List.splitOnP_eq_singleton (decimal_clean _ (isDigit_of_beq rfl))]
  unfold inetPton
  rw [hsplit]
  simp [octet_decimal]

private theorem octet_eq_some {part : List Char} {byte : UInt8} :
    octet part = some byte ↔ part = decimal byte.toNat := by
  constructor
  · intro h
    unfold octet at h
    split at h
    · cases h
    · rename_i hform
      split at h
      · rename_i hfits
        cases part with
        | nil => simp at hform
        | cons first digits =>
          simp only [List.isEmpty_cons, Bool.false_or, List.head?_cons, Option.some.injEq,
            List.length_cons, Bool.or_eq_true, Bool.not_eq_true', Bool.and_eq_true,
            decide_eq_true_eq, not_or, Bool.not_eq_false, not_and] at hform
          obtain ⟨hall, hzero⟩ := hform
          have hdecimal := decimal_ofDigitChars (List.all_eq_true.mp hall) (by
            intro hfirst
            have hlength := hzero hfirst
            apply List.length_eq_zero_iff.mp
            omega)
          have hbyte : byte.toNat = Nat.ofDigitChars 10 (first :: digits) 0 := by
            rw [← Option.some.inj h, UInt8.toNat_ofNat']
            omega
          rw [hbyte, hdecimal]
      · cases h
  · rintro rfl
    exact octet_decimal byte

private theorem eq_cons_of_splitOnP {sep : Char} {text piece : List Char}
    {pieces : List (List Char)}
    (h : text.splitOnP (· == sep) = piece :: pieces) :
    (pieces = [] ∧ text = piece) ∨
      ∃ rest, text = piece ++ sep :: rest ∧ rest.splitOnP (· == sep) = pieces := by
  induction text using cut_induction (· == sep) with
  | clean text hclean =>
    left
    rw [List.splitOnP_eq_singleton hclean] at h
    cases h
    exact ⟨rfl, rfl⟩
  | cut tok c rest htok hc ih =>
    right
    rw [List.splitOnP_append_cons_of_forall_mem htok c hc] at h
    cases h
    rw [beq_iff_eq.mp hc]
    exact ⟨rest, rfl, rfl⟩

theorem inetPton_eq_some {text : List Char} {ip : IPv4} :
    inetPton text = some ip ↔ text = dotted ip := by
  constructor
  · intro h
    unfold inetPton at h
    split at h
    · rename_i a b c d hsplit
      simp only [Option.bind_eq_some_iff, Option.map_eq_some_iff, octet_eq_some] at h
      obtain ⟨a', rfl, b', rfl, c', rfl, d', rfl, rfl⟩ := h
      rcases eq_cons_of_splitOnP hsplit with ⟨hnil, _⟩ | ⟨rest₁, rfl, hrest₁⟩
      · cases hnil
      rcases eq_cons_of_splitOnP hrest₁ with ⟨hnil, _⟩ | ⟨rest₂, rfl, hrest₂⟩
      · cases hnil
      rcases eq_cons_of_splitOnP hrest₂ with ⟨hnil, _⟩ | ⟨rest₃, rfl, hrest₃⟩
      · cases hnil
      rcases eq_cons_of_splitOnP hrest₃ with ⟨_, rfl⟩ | ⟨rest₄, rfl, hrest₄⟩
      · rfl
      · exact absurd hrest₄ (List.splitOnP_ne_nil _ _)
    · cases h
  · rintro rfl
    exact inetPton_dotted ip

/-- An address is written with digits and dots. -/
private theorem dotted_mem {ip : IPv4} : ∀ c ∈ dotted ip, c = '.' ∨ c.isDigit = true := by
  intro c hc
  simp only [dotted, List.mem_append, List.mem_cons] at hc
  rcases hc with hc | rfl | hc | rfl | hc | rfl | hc
  · exact Or.inr (decimal_isDigit c hc)
  · exact Or.inl rfl
  · exact Or.inr (decimal_isDigit c hc)
  · exact Or.inl rfl
  · exact Or.inr (decimal_isDigit c hc)
  · exact Or.inl rfl
  · exact Or.inr (decimal_isDigit c hc)

theorem dotted_clean (ip : IPv4) {sep : Char → Bool} (hsep : ∀ c, sep c = true → c.isDigit = false)
    (hdot : sep '.' = false) : Clean sep (dotted ip) := by
  intro c hc
  rcases dotted_mem c hc with rfl | hdigit
  · exact hdot
  · apply Bool.eq_false_iff.mpr
    intro htrue
    rw [hsep c htrue] at hdigit
    cases hdigit

theorem dotted_ne_nil (ip : IPv4) : dotted ip ≠ [] := by
  simp [dotted]

end Address

section Number

def isSpace (c : Char) : Bool :=
  c = ' ' || c = '\t' || c = '\n' || c = Char.ofNat 11 || c = Char.ofNat 12 || c = '\r'

def longMax : Int := 9223372036854775807

structure Strtol where
  value : Int
  rest : List Char
  deriving DecidableEq, Repr

/-- `strtol(text, &end, 10)`: blanks, a sign, digits. Without digits the end is the start; a value
that does not fit is the nearest that does. -/
def strtol (text : List Char) : Strtol :=
  let signed := text.dropWhile isSpace
  let negative := signed.head? = some '-'
  let number := if signed.head? = some '-' ∨ signed.head? = some '+' then signed.tail else signed
  let digits := number.takeWhile Char.isDigit
  if digits = [] then { value := 0, rest := text }
  else
    let value : Int := Nat.ofDigitChars 10 digits 0
    { value := if negative then max (-value) (-longMax - 1) else min value longMax
      rest := number.dropWhile Char.isDigit }

/-- A text that `strtol` reads to its end: blanks, at most one sign, and digits. -/
structure Numeral (text blanks sign digits : List Char) : Prop where
  split : text = blanks ++ (sign ++ digits)
  spaces : ∀ c ∈ blanks, isSpace c = true
  signed : sign = [] ∨ sign = ['+'] ∨ sign = ['-']
  nonempty : digits ≠ []
  decimal : ∀ c ∈ digits, c.isDigit = true

theorem isDigit_of_isSpace {c : Char} (hc : isSpace c = true) : c.isDigit = false := by
  simp only [isSpace, Bool.or_eq_true, decide_eq_true_eq] at hc
  rcases hc with ((((rfl | rfl) | rfl) | rfl) | rfl) | rfl <;> rfl

namespace Numeral

variable {text blanks sign digits : List Char} (h : Numeral text blanks sign digits)
include h

private theorem dropWhile_isSpace : text.dropWhile isSpace = sign ++ digits := by
  have hstop : (sign ++ digits).dropWhile isSpace = sign ++ digits := by
    rcases h.signed with rfl | rfl | rfl
    · obtain ⟨first, others, rfl⟩ := List.exists_cons_of_ne_nil h.nonempty
      have hfirst : ¬ isSpace first = true := by
        intro hblank
        have hdigit := h.decimal first List.mem_cons_self
        rw [isDigit_of_isSpace hblank] at hdigit
        cases hdigit
      rw [List.nil_append, List.dropWhile_cons_of_neg hfirst]
    · rw [List.singleton_append, List.dropWhile_cons_of_neg (by decide)]
    · rw [List.singleton_append, List.dropWhile_cons_of_neg (by decide)]
  rw [h.split, List.dropWhile_append_of_pos h.spaces, hstop]

private theorem cut_sign :
    (if (sign ++ digits).head? = some '-' ∨ (sign ++ digits).head? = some '+' then
      (sign ++ digits).tail else sign ++ digits) = digits ∧
    ((sign ++ digits).head? = some '-' ↔ sign = ['-']) := by
  rcases h.signed with rfl | rfl | rfl
  · obtain ⟨first, others, rfl⟩ := List.exists_cons_of_ne_nil h.nonempty
    have hfirst := h.decimal first List.mem_cons_self
    have hdigit : ∀ c, c.isDigit = false → ¬ ([] ++ first :: others).head? = some c := by
      intro c hc hhead
      obtain rfl : first = c := Option.some.inj hhead
      rw [hc] at hfirst
      cases hfirst
    have hminus := hdigit '-' rfl
    have hplus := hdigit '+' rfl
    rw [if_neg (not_or.mpr ⟨hminus, hplus⟩)]
    exact ⟨rfl, iff_of_false hminus (by decide)⟩
  · have hplus : (['+'] ++ digits).head? = some '+' := rfl
    have hminus : ¬ (['+'] ++ digits).head? = some '-' := by
      rw [hplus]
      decide
    rw [if_pos (Or.inr hplus)]
    exact ⟨rfl, iff_of_false hminus (by decide)⟩
  · have hminus : (['-'] ++ digits).head? = some '-' := rfl
    rw [if_pos (Or.inl hminus)]
    exact ⟨rfl, iff_of_true hminus rfl⟩

/-- The digits are read to the end, and what does not fit is cut to the nearest value. -/
theorem strtol_eq : strtol text =
    { value := if sign = ['-'] then max (-(Nat.ofDigitChars 10 digits 0 : Int)) (-longMax - 1)
        else min (Nat.ofDigitChars 10 digits 0 : Int) longMax
      rest := [] } := by
  have htake : digits.takeWhile Char.isDigit = digits := List.takeWhile_eq_self_iff.mpr h.decimal
  have hdrop : digits.dropWhile Char.isDigit = [] := List.dropWhile_eq_nil_iff.mpr h.decimal
  obtain ⟨hnumber, hnegative⟩ := h.cut_sign
  unfold strtol
  rw [h.dropWhile_isSpace]
  dsimp only
  rw [hnumber, htake, if_neg h.nonempty, hdrop]
  simp only [hnegative]

end Numeral

theorem exists_numeral {text : List Char} (hne : text ≠ []) (hrest : (strtol text).rest = []) :
    ∃ blanks sign digits, Numeral text blanks sign digits := by
  have hsplit : text = text.takeWhile isSpace ++ text.dropWhile isSpace :=
    List.takeWhile_append_dropWhile.symm
  have hspaces : ∀ c ∈ text.takeWhile isSpace, isSpace c = true :=
    fun c hc => List.mem_takeWhile_imp hc
  have hread : ∀ (sign number : List Char) (value : Int), text.dropWhile isSpace = sign ++ number →
      (sign = [] ∨ sign = ['+'] ∨ sign = ['-']) →
      (if number.takeWhile Char.isDigit = [] then ({ value := 0, rest := text } : Strtol)
        else { value := value, rest := number.dropWhile Char.isDigit }).rest = [] →
      ∃ blanks sign digits, Numeral text blanks sign digits := by
    intro sign number value hcut hsign hend
    split at hend
    · exact absurd hend hne
    · rename_i hdigits
      have hall : ∀ c ∈ number, c.isDigit = true := List.dropWhile_eq_nil_iff.mp hend
      rw [List.takeWhile_eq_self_iff.mpr hall] at hdigits
      exact ⟨_, sign, number, by rw [← hcut]; exact hsplit, hspaces, hsign, hdigits, hall⟩
  unfold strtol at hrest
  dsimp only at hrest
  by_cases hsign : (text.dropWhile isSpace).head? = some '-' ∨
      (text.dropWhile isSpace).head? = some '+'
  · rw [if_pos hsign] at hrest
    cases hcut : text.dropWhile isSpace with
    | nil => simp [hcut] at hsign
    | cons first number =>
      rw [hcut] at hsign hrest
      have hfirst : [first] = ['-'] ∨ [first] = ['+'] := by simpa using hsign
      exact hread [first] number _ hcut (Or.inr hfirst.symm) hrest
  · rw [if_neg hsign] at hrest
    exact hread [] _ _ (List.nil_append _).symm (Or.inl rfl) hrest

theorem numeral_decimal (n : Nat) : Numeral (decimal n) [] [] (decimal n) where
  split := rfl
  spaces := fun _ hc => absurd hc List.not_mem_nil
  signed := Or.inl rfl
  nonempty := decimal_ne_nil n
  decimal := decimal_isDigit

theorem strtol_decimal {n : Nat} (hn : (n : Int) ≤ longMax) :
    strtol (decimal n) = { value := n, rest := [] } := by
  have hsign : ¬ ([] : List Char) = ['-'] := by decide
  have hvalue : Nat.ofDigitChars 10 (decimal n) 0 = n := Nat.ofDigitChars_ten_toDigits
  rw [(numeral_decimal n).strtol_eq, if_neg hsign, hvalue, Int.min_eq_left hn]

end Number

section Memory

def nul : Char := Char.ofNat 0

structure CStr where
  text : List Char
  noNul : nul ∉ text
  deriving DecidableEq, Repr

/-- The string that starts at an offset of a buffer and ends at the next NUL; the buffer itself
ends with one. -/
def cString (buf : List Char) (pos : Nat) : List Char := (buf.drop pos).takeWhile (· != nul)

theorem cString_zero (s : CStr) : cString s.text 0 = s.text := by
  unfold cString
  rw [List.drop_zero, List.takeWhile_eq_self_iff]
  intro c hc
  apply bne_iff_ne.mpr
  rintro rfl
  exact s.noNul hc

private theorem drop_eq_cString (buf : List Char) (pos : Nat) :
    ∃ tail, buf.drop pos = cString buf pos ++ tail ∧ tail.takeWhile (· != nul) = [] := by
  refine ⟨(buf.drop pos).dropWhile (· != nul), List.takeWhile_append_dropWhile.symm, ?_⟩
  cases htail : (buf.drop pos).dropWhile (· != nul) with
  | nil => rfl
  | cons c tail =>
    have hstop := List.head_dropWhile_not (fun c => c != nul)
      (show (buf.drop pos).dropWhile (fun c => c != nul) ≠ [] by simp [htail])
    simp only [htail, List.head_cons] at hstop
    rw [List.takeWhile_cons_of_neg (by simp [hstop])]

private theorem cString_no_nul (buf : List Char) (pos : Nat) :
    ∀ c ∈ cString buf pos, (c != nul) = true := by
  intro c hc
  unfold cString at hc
  have hpass := List.mem_takeWhile_imp hc
  exact hpass

private theorem cString_length (buf : List Char) (pos : Nat) :
    (cString buf pos).length ≤ buf.length - pos := by
  rw [← List.length_drop]
  exact (List.takeWhile_prefix _).length_le

theorem cString_add {buf : List Char} {pos k : Nat} (hk : k ≤ (cString buf pos).length) :
    cString buf (pos + k) = (cString buf pos).drop k := by
  obtain ⟨tail, hdrop, htail⟩ := drop_eq_cString buf pos
  have hfrom : buf.drop (pos + k) = (cString buf pos).drop k ++ tail := by
    rw [← List.drop_drop, hdrop, List.drop_append_of_le_length hk]
  conv_lhs => unfold cString
  rw [hfrom, List.takeWhile_append_of_pos, htail, List.append_nil]
  intro c hc
  exact cString_no_nul buf pos c (List.mem_of_mem_drop hc)

/-- A byte written in front of the string is not seen. -/
theorem cString_set_of_lt (buf : List Char) {k pos : Nat} (c : Char) (hk : k < pos) :
    cString (buf.set k c) pos = cString buf pos := by
  unfold cString
  rw [List.drop_set_of_lt hk]

theorem cString_set_nul {buf : List Char} {pos k : Nat} (hk : k < (cString buf pos).length) :
    cString (buf.set (pos + k) nul) pos = (cString buf pos).take k := by
  obtain ⟨tail, hdrop, _⟩ := drop_eq_cString buf pos
  have hset : (buf.set (pos + k) nul).drop pos = (cString buf pos ++ tail).set k nul := by
    rw [← hdrop, List.drop_set, if_neg (by omega)]
    congr 1
    omega
  conv_lhs => unfold cString
  rw [hset, List.set_append_left _ _ hk, List.set_eq_take_append_cons_drop, if_pos hk,
    List.append_assoc, List.takeWhile_append_of_pos]
  · simp
  · intro c hc
    exact cString_no_nul buf pos c (List.mem_of_mem_take hc)

def strchr (text : List Char) (c : Char) : Option Nat := text.findIdx? (· == c)

theorem strchr_some {text : List Char} {c : Char} {k : Nat} (h : strchr text c = some k) :
    ∃ hk : k < text.length, text[k] = c := by
  obtain ⟨hk, hpass, _⟩ := List.findIdx?_eq_some_iff_getElem.mp h
  exact ⟨hk, beq_iff_eq.mp hpass⟩

theorem strchr_append_cons {before : List Char} (after : List Char) {c : Char}
    (h : Clean (· == c) before) : strchr (before ++ c :: after) c = some before.length := by
  unfold strchr
  rw [List.findIdx?_append, List.findIdx?_eq_none_iff.mpr h, List.findIdx?_cons]
  simp

structure Token where
  buf : List Char
  start : Nat
  save : Nat
  deriving DecidableEq, Repr

/-- The token at an offset: a NUL is written over the delimiter that ends it, if one does. -/
def tokenAt (delim : Char → Bool) (buf : List Char) (start : Nat) : Token :=
  let text := cString buf start
  let stop := start + (text.takeWhile (fun c => !delim c)).length
  if stop = start + text.length then { buf := buf, start := start, save := stop }
  else { buf := buf.set stop nul, start := start, save := stop + 1 }

/-- `strtok_r`: skip delimiters, and take the token there. -/
def strtokR (delim : Char → Bool) (buf : List Char) (save : Nat) : Option Token :=
  let start := save + ((cString buf save).takeWhile delim).length
  if cString buf start = [] then none else some (tokenAt delim buf start)

private theorem drop_takeWhile_length (p : Char → Bool) (l : List Char) :
    l.drop (l.takeWhile p).length = l.dropWhile p := by
  have hcut := congrArg (List.drop (l.takeWhile p).length)
    (List.takeWhile_append_dropWhile (p := p) (l := l))
  rw [List.drop_left] at hcut
  exact hcut.symm

private theorem take_takeWhile_length (p : Char → Bool) (l : List Char) :
    l.take (l.takeWhile p).length = l.takeWhile p :=
  (List.prefix_iff_eq_take.mp (List.takeWhile_prefix p)).symm

private theorem cString_skip (p : Char → Bool) (buf : List Char) (pos : Nat) :
    cString buf (pos + ((cString buf pos).takeWhile p).length) = (cString buf pos).dropWhile p := by
  rw [cString_add (List.takeWhile_prefix p).length_le, drop_takeWhile_length]

section TokenAt

variable (delim : Char → Bool) (buf : List Char) (start : Nat)

private theorem tokenAt_start : (tokenAt delim buf start).start = start := by
  unfold tokenAt
  dsimp only
  split <;> rfl

private theorem tokenAt_length : (tokenAt delim buf start).buf.length = buf.length := by
  unfold tokenAt
  dsimp only
  split <;> simp

private theorem tokenAt_text : cString (tokenAt delim buf start).buf start =
    (cString buf start).takeWhile (fun c => !delim c) := by
  have htake := take_takeWhile_length (fun c => !delim c) (cString buf start)
  have hle := (List.takeWhile_prefix (fun c => !delim c) (l := cString buf start)).length_le
  unfold tokenAt
  dsimp only
  split
  · rename_i hend
    have hall := Nat.add_left_cancel hend
    rw [hall, List.take_length] at htake
    exact htake
  · rename_i hend
    rw [cString_set_nul (by omega), htake]

private theorem tokenAt_rest :
    cString (tokenAt delim buf start).buf (tokenAt delim buf start).save =
    ((cString buf start).dropWhile (fun c => !delim c)).tail := by
  have hdrop := drop_takeWhile_length (fun c => !delim c) (cString buf start)
  have hle := (List.takeWhile_prefix (fun c => !delim c) (l := cString buf start)).length_le
  unfold tokenAt
  dsimp only
  split
  · rename_i hend
    have hall := Nat.add_left_cancel hend
    rw [hall, List.drop_length] at hdrop
    dsimp only
    rw [cString_skip, ← hdrop]
    rfl
  · rename_i hend
    dsimp only
    rw [cString_set_of_lt _ _ (by omega), Nat.add_assoc, cString_add (by omega), ← List.drop_drop,
      hdrop, List.drop_one]

private theorem tokenAt_save :
    start + ((cString buf start).takeWhile (fun c => !delim c)).length ≤
      (tokenAt delim buf start).save := by
  unfold tokenAt
  dsimp only
  split
  · exact Nat.le_refl _
  · exact Nat.le_succ _

end TokenAt

private theorem strtokR_some {delim : Char → Bool} {buf : List Char} {save : Nat} {t : Token}
    (h : strtokR delim buf save = some t) : ∃ start first more,
      save ≤ start ∧ (cString buf save).dropWhile delim = first :: more ∧
        cString buf start = first :: more ∧ delim first = false ∧ t = tokenAt delim buf start := by
  unfold strtokR at h
  dsimp only at h
  split at h
  · cases h
  · rename_i hsome
    rw [cString_skip] at hsome
    obtain ⟨first, more, hcases⟩ := List.exists_cons_of_ne_nil hsome
    have hstop := List.head_dropWhile_not delim hsome
    simp only [hcases, List.head_cons] at hstop
    refine ⟨_, first, more, Nat.le_add_right _ _, hcases, ?_, hstop, (Option.some.inj h).symm⟩
    rw [cString_skip, hcases]

private theorem strtokR_none {delim : Char → Bool} {buf : List Char} {save : Nat}
    (h : strtokR delim buf save = none) : (cString buf save).dropWhile delim = [] := by
  unfold strtokR at h
  dsimp only at h
  split at h
  · rename_i hnil
    rwa [cString_skip] at hnil
  · cases h

/-- On the strings in the buffer, `strtok_r` is the tokenizer. -/
theorem strtokR_nextToken (delim : Char → Bool) (buf : List Char) (save : Nat) :
    nextToken delim (cString buf save) =
      (strtokR delim buf save).map fun t => (cString t.buf t.start, cString t.buf t.save) := by
  unfold nextToken
  cases hcall : strtokR delim buf save with
  | none =>
    rw [strtokR_none hcall]
    rfl
  | some t =>
    obtain ⟨start, first, more, _, hcases, htext, hfirst, rfl⟩ := strtokR_some hcall
    rw [hcases, Option.map_some, tokenAt_start, tokenAt_text, tokenAt_rest, htext]
    simp [hfirst]

theorem strtokR_le {delim : Char → Bool} {buf : List Char} {save : Nat} {t : Token}
    (h : strtokR delim buf save = some t) :
    t.start + (cString t.buf t.start).length ≤ t.save := by
  obtain ⟨start, _, _, _, _, _, _, rfl⟩ := strtokR_some h
  rw [tokenAt_start, tokenAt_text]
  exact tokenAt_save delim buf start

theorem strtokR_length {delim : Char → Bool} {buf : List Char} {save : Nat} {t : Token}
    (h : strtokR delim buf save = some t) : t.buf.length - t.save < buf.length - save := by
  obtain ⟨start, first, more, hstart, _, htext, hfirst, rfl⟩ := strtokR_some h
  have hlength := cString_length buf start
  have hsave := tokenAt_save delim buf start
  rw [htext] at hlength hsave
  simp only [List.length_cons] at hlength
  rw [List.takeWhile_cons_of_pos (by simp [hfirst]), List.length_cons] at hsave
  rw [tokenAt_length]
  omega

end Memory

end CrosswireNm.Library
