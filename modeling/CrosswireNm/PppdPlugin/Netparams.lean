import CrosswireNm.Library.Libc

/-!
# Routes and servers from the environment

Entries between commas, read out of a copy that is cut up in place.
-/

namespace CrosswireNm.PppdPlugin

open Library

structure NmoRoute where
  networkBe : UInt32
  prefixLength : UInt32
  deriving DecidableEq, Repr

def isComma (c : Char) : Bool := c == ','

section Loop

variable {β : Type}

/-- What the body of the loop does to a token: where it writes a NUL, and what it stores. -/
structure Entry (β : Type) where
  wrote : Option Nat
  value : Option β
  deriving DecidableEq, Repr

def Entry.written (entry : Entry β) (buf : List Char) : List Char :=
  match entry.wrote with
  | none => buf
  | some i => buf.set i nul

@[simp]
theorem Entry.written_length (entry : Entry β) (buf : List Char) :
    (entry.written buf).length = buf.length := by
  unfold Entry.written
  cases entry.wrote <;> simp

/-- The loop over the tokens. `more` is its test of how many are stored. -/
def parseLoop (entryAt : List Char → Nat → Entry β) (more : Nat → Bool) (buf : List Char)
    (save : Nat) (out : List β) : List β :=
  match _h : strtokR isComma buf save with
  | none => out
  | some t =>
    if more out.length then
      let entry := entryAt t.buf t.start
      parseLoop entryAt more (entry.written t.buf) t.save (out ++ entry.value.toList)
    else out
termination_by buf.length - save
decreasing_by
  rw [Entry.written_length]
  exact strtokR_length _h

/-- The frame of both parsers: nothing for no string, an empty one, or no room. -/
def parseEnv (entryAt : List Char → Nat → Entry β) (env : Option CStr) (max : Int) : List β :=
  match env with
  | none => []
  | some s =>
    if s.text = [] ∨ max ≤ 0 then []
    else parseLoop entryAt (fun n => decide ((n : Int) < max)) s.text 0 []

def parseAll (entryAt : List Char → Nat → Entry β) (s : CStr) : List β :=
  parseLoop entryAt (fun _ => true) s.text 0 []

/-- The body reads the token as `entryOf` reads a text, and writes nowhere else. -/
structure Reads (entryAt : List Char → Nat → Entry β) (entryOf : List Char → Option β) : Prop where
  value : ∀ buf start, (entryAt buf start).value = entryOf (cString buf start)
  wrote : ∀ buf start i, (entryAt buf start).wrote = some i →
    i < start + (cString buf start).length

variable {entryAt : List Char → Nat → Entry β} {entryOf : List Char → Option β}

private theorem Reads.cString_written (h : Reads entryAt entryOf) {buf : List Char}
    {start pos : Nat}
    (hpos : start + (cString buf start).length ≤ pos) :
    cString ((entryAt buf start).written buf) pos = cString buf pos := by
  unfold Entry.written
  cases hwrote : (entryAt buf start).wrote with
  | none => rfl
  | some i =>
    have hi := h.wrote buf start i hwrote
    exact cString_set_of_lt buf nul (by omega)

private def storeAll (more : Nat → Bool) : List β → List β → List β
  | out, [] => out
  | out, value :: values =>
    if more out.length then storeAll more (out ++ [value]) values else out

private theorem storeAll_true (out values : List β) :
    storeAll (fun _ => true) out values = out ++ values := by
  induction values generalizing out with
  | nil => simp [storeAll]
  | cons value values ih => simp [storeAll, ih]

private theorem storeAll_lt {max : Int} {out values : List β} (hout : (out.length : Int) ≤ max) :
    storeAll (fun n => decide ((n : Int) < max)) out values =
      out ++ values.take (max.toNat - out.length) := by
  induction values generalizing out with
  | nil => simp [storeAll]
  | cons value values ih =>
    by_cases hroom : (out.length : Int) < max
    · have hnext : ((out ++ [value]).length : Int) ≤ max := by
        simp only [List.length_append, List.length_singleton]
        omega
      have hsub : max.toNat - out.length = max.toNat - (out ++ [value]).length + 1 := by
        simp only [List.length_append, List.length_singleton]
        omega
      simp only [storeAll, hroom, decide_true, if_true]
      rw [ih hnext, hsub, List.take_succ_cons, List.append_assoc]
      rfl
    · have hfull : max.toNat - out.length = 0 := by omega
      simp [storeAll, hroom, hfull]

private theorem parseLoop_none {more : Nat → Bool} {buf : List Char} {save : Nat} (out : List β)
    (h : strtokR isComma buf save = none) : parseLoop entryAt more buf save out = out := by
  rw [parseLoop]
  split
  · rfl
  · rename_i t hsome
    rw [h] at hsome
    cases hsome

private theorem parseLoop_some {more : Nat → Bool} {buf : List Char} {save : Nat} (out : List β)
    {t : Token} (h : strtokR isComma buf save = some t) :
    parseLoop entryAt more buf save out =
      if more out.length then
        parseLoop entryAt more ((entryAt t.buf t.start).written t.buf) t.save
          (out ++ (entryAt t.buf t.start).value.toList)
      else out := by
  conv_lhs => rw [parseLoop]
  split
  · rename_i hnone
    rw [h] at hnone
    cases hnone
  · rename_i t' hsome
    obtain rfl : t = t' := Option.some.inj (h.symm.trans hsome)
    rfl

private theorem storeAll_stop {more : Nat → Bool} {out : List β} (h : ¬ more out.length = true)
    (values : List β) : storeAll more out values = out := by
  cases values <;> simp [storeAll, h]

private theorem parseLoop_eq (h : Reads entryAt entryOf) (more : Nat → Bool) (buf : List Char)
    (save : Nat) (out : List β) :
    parseLoop entryAt more buf save out =
      storeAll more out ((tokens isComma (cString buf save)).filterMap entryOf) := by
  induction buf, save, out using parseLoop.induct entryAt more with
  | case1 buf save out hnone =>
    rw [parseLoop_none out hnone, tokens_nextToken, strtokR_nextToken, hnone]
    rfl
  | case2 buf save out t hsome hmore entry ih =>
    have hread : entry.value = entryOf (cString t.buf t.start) := h.value t.buf t.start
    have hframe : cString (entry.written t.buf) t.save = cString t.buf t.save :=
      h.cString_written (strtokR_le hsome)
    rw [hframe] at ih
    rw [parseLoop_some out hsome, if_pos hmore, ih, tokens_nextToken (cString buf save),
      strtokR_nextToken, hsome]
    simp only [Option.map_some, List.filterMap_cons, ← hread]
    cases entry.value with
    | none => simp
    | some value => simp [storeAll, hmore]
  | case3 buf save out t hsome hmore =>
    rw [parseLoop_some out hsome, if_neg hmore, storeAll_stop hmore]

theorem parseAll_eq (h : Reads entryAt entryOf) (s : CStr) :
    parseAll entryAt s = (tokens isComma s.text).filterMap entryOf := by
  unfold parseAll
  rw [parseLoop_eq h, storeAll_true, cString_zero, List.nil_append]

/-- The bound keeps the first values. -/
theorem parseEnv_eq (h : Reads entryAt entryOf) (s : CStr) (max : Int) :
    parseEnv entryAt (some s) max = (parseAll entryAt s).take max.toNat := by
  unfold parseEnv
  dsimp only
  split
  · rename_i hnone
    rw [parseAll_eq h]
    rcases hnone with hempty | hmax
    · simp [hempty, tokens]
    · rw [Int.toNat_of_nonpos hmax, List.take_zero]
  · rename_i hsome
    have hout : ((([] : List β).length : Nat) : Int) ≤ max := by
      simp only [List.length_nil]
      omega
    rw [parseLoop_eq h, storeAll_lt hout, cString_zero, parseAll_eq h]
    simp

end Loop

section Entries

def checkedPrefix (text : List Char) : Option UInt32 :=
  let number := strtol text
  if number.rest = text ∨ number.rest ≠ [] ∨ number.value < 0 ∨ number.value > 32 then none
  else some (.ofNat number.value.toNat)

/-- A route: the slash is overwritten, so that the address in front of it is a string. -/
def routeAt (order : ByteOrder) (buf : List Char) (start : Nat) : Entry NmoRoute :=
  match strchr (cString buf start) '/' with
  | none => { wrote := none, value := none }
  | some k =>
    let slash := start + k
    let written := buf.set slash nul
    { wrote := some slash
      value :=
        (inetPton (cString written start)).bind fun net =>
          (checkedPrefix (cString written (slash + 1))).map fun prefixLength =>
            { networkBe := net.sAddr order, prefixLength := prefixLength } }

def dnsAt (order : ByteOrder) (buf : List Char) (start : Nat) : Entry UInt32 :=
  { wrote := none, value := (inetPton (cString buf start)).map (IPv4.sAddr order) }

def nmoParseRoutes (order : ByteOrder) (env : Option CStr) (max : Int) : List NmoRoute :=
  parseEnv (routeAt order) env max

def nmoParseDns (order : ByteOrder) (env : Option CStr) (max : Int) : List UInt32 :=
  parseEnv (dnsAt order) env max

def routeOf (order : ByteOrder) (text : List Char) : Option NmoRoute :=
  (strchr text '/').bind fun k =>
    (inetPton (text.take k)).bind fun net =>
      (checkedPrefix (text.drop (k + 1))).map fun prefixLength =>
        { networkBe := net.sAddr order, prefixLength := prefixLength }

theorem routeAt_reads (order : ByteOrder) : Reads (routeAt order) (routeOf order) where
  value := by
    intro buf start
    unfold routeAt routeOf
    cases hslash : strchr (cString buf start) '/' with
    | none => rfl
    | some k =>
      obtain ⟨hk, _⟩ := strchr_some hslash
      have hnext : k + 1 ≤ (cString buf start).length := hk
      have hafter : cString (buf.set (start + k) nul) (start + k + 1) =
          (cString buf start).drop (k + 1) := by
        rw [cString_set_of_lt _ _ (by omega), Nat.add_assoc, cString_add hnext]
      simp [cString_set_nul hk, hafter]
  wrote := by
    intro buf start i hi
    unfold routeAt at hi
    cases hslash : strchr (cString buf start) '/' with
    | none => simp [hslash] at hi
    | some k =>
      obtain ⟨hk, _⟩ := strchr_some hslash
      simp only [hslash, Option.some.injEq] at hi
      omega

theorem dnsAt_reads (order : ByteOrder) :
    Reads (dnsAt order) (fun text => (inetPton text).map (IPv4.sAddr order)) where
  value _ _ := rfl
  wrote := by
    intro buf start i hi
    simp [dnsAt] at hi

def RouteEntry (entry : List Char) : Prop :=
  ∃ address number, entry = address ++ '/' :: number ∧ (inetPton address).isSome ∧ number ≠ [] ∧
    (strtol number).rest = [] ∧ 0 ≤ (strtol number).value ∧ (strtol number).value ≤ 32

theorem checkedPrefix_isSome {text : List Char} :
    (checkedPrefix text).isSome ↔ text ≠ [] ∧ (strtol text).rest = [] ∧
      0 ≤ (strtol text).value ∧ (strtol text).value ≤ 32 := by
  unfold checkedPrefix
  dsimp only
  split
  · rename_i hbad
    simp only [Option.isSome_none, Bool.false_eq_true, false_iff]
    rintro ⟨hne, hrest, hlow, hhigh⟩
    rcases hbad with hsame | hmore | hneg | hbig
    · exact hne (hsame.symm.trans hrest)
    · exact hmore hrest
    · omega
    · omega
  · rename_i hgood
    simp only [not_or, not_not] at hgood
    obtain ⟨hsame, hrest, hlow, hhigh⟩ := hgood
    simp only [Option.isSome_some, true_iff]
    exact ⟨fun hnil => hsame (hrest.trans hnil.symm), hrest, Int.not_lt.mp hlow,
      Int.not_lt.mp hhigh⟩

/-- The slash of a route is the first one, because an address has none. -/
theorem routeOf_eq_some (order : ByteOrder) {entry : List Char} {route : NmoRoute} :
    routeOf order entry = some route ↔
      ∃ network number value, entry = dotted network ++ '/' :: number ∧
        checkedPrefix number = some value ∧
        route = { networkBe := network.sAddr order, prefixLength := value } := by
  constructor
  · intro h
    simp only [routeOf, Option.bind_eq_some_iff, Option.map_eq_some_iff] at h
    obtain ⟨k, hk, network, hnetwork, value, hvalue, hroute⟩ := h
    obtain ⟨hlt, hslash⟩ := strchr_some hk
    refine ⟨network, entry.drop (k + 1), value, ?_, hvalue, hroute.symm⟩
    rw [← inetPton_eq_some.mp hnetwork, ← hslash, List.getElem_cons_drop, List.take_append_drop]
  · rintro ⟨network, number, value, rfl, hvalue, rfl⟩
    unfold routeOf
    rw [strchr_append_cons number (dotted_clean network (isDigit_of_beq rfl) rfl),
      Option.bind_some, List.take_left, inetPton_dotted, ← List.drop_drop, List.drop_left]
    simp [hvalue]

theorem routeOf_isSome (order : ByteOrder) {entry : List Char} :
    (routeOf order entry).isSome ↔ RouteEntry entry := by
  rw [Option.isSome_iff_exists]
  simp only [routeOf_eq_some]
  constructor
  · rintro ⟨_, network, number, value, rfl, hvalue, _⟩
    refine ⟨dotted network, number, rfl, by rw [inetPton_dotted]; rfl, ?_⟩
    exact checkedPrefix_isSome.mp (by rw [hvalue]; rfl)
  · rintro ⟨address, number, rfl, haddress, hnumber⟩
    obtain ⟨network, hnetwork⟩ := Option.isSome_iff_exists.mp haddress
    obtain ⟨value, hvalue⟩ := Option.isSome_iff_exists.mp (checkedPrefix_isSome.mpr hnumber)
    rw [inetPton_eq_some.mp hnetwork]
    exact ⟨_, network, number, value, rfl, hvalue, rfl⟩

end Entries

section Encoding

def commaAppend (a b : CStr) : CStr where
  text := a.text ++ ',' :: b.text
  noNul := by
    simp only [List.mem_append, List.mem_cons, a.noNul, b.noNul, or_false, false_or]
    decide

def commaJoin (pieces : List CStr) : CStr where
  text := [','].intercalate (pieces.map CStr.text)
  noNul := by
    have hcomma : nul ≠ ',' := by decide
    induction pieces with
    | nil => exact List.not_mem_nil
    | cons piece pieces ih =>
      cases pieces with
      | nil => simpa [List.intercalate] using piece.noNul
      | cons next pieces => simpa [List.intercalate, piece.noNul, hcomma] using ih

/-- A split route as the contract has it. -/
structure Route where
  network : IPv4
  length : Fin 33
  deriving DecidableEq, Repr

def Route.nmo (order : ByteOrder) (route : Route) : NmoRoute :=
  { networkBe := route.network.sAddr order, prefixLength := .ofNat route.length }

theorem Route.nmo_injective (order : ByteOrder) : Function.Injective (Route.nmo order) := by
  rintro ⟨network, length⟩ ⟨network', length'⟩ h
  simp only [Route.nmo, NmoRoute.mk.injEq] at h
  obtain rfl := IPv4.sAddr_injective order h.1
  have hnat := congrArg UInt32.toNat h.2
  have hlt := length.isLt
  have hlt' := length'.isLt
  simp only [UInt32.toNat_ofNat'] at hnat
  have hlength : length = length' := Fin.ext (by omega)
  rw [hlength]

private theorem not_mem_of_clean {text : List Char} (h : Clean (· == nul) text) : nul ∉ text :=
  fun hmem => absurd (h nul hmem) (by decide)

def Route.encode (route : Route) : CStr where
  text := dotted route.network ++ '/' :: decimal route.length
  noNul := by
    apply not_mem_of_clean
    apply (dotted_clean _ (isDigit_of_beq rfl) rfl).append
    intro c hc
    rcases List.mem_cons.mp hc with rfl | hc
    · rfl
    · exact decimal_clean _ (isDigit_of_beq rfl) c hc

def encodeServer (server : IPv4) : CStr where
  text := dotted server
  noNul := not_mem_of_clean (dotted_clean _ (isDigit_of_beq rfl) rfl)

private theorem checkedPrefix_decimal (length : Fin 33) :
    checkedPrefix (decimal length) = some (.ofNat length) := by
  have hfits : ((length : Nat) : Int) ≤ longMax := by
    have hlt := length.isLt
    unfold longMax
    omega
  have hgood : ¬ ([] = decimal length ∨ ([] : List Char) ≠ [] ∨ ((length : Nat) : Int) < 0 ∨
      ((length : Nat) : Int) > 32) := by
    have hlt := length.isLt
    rintro (hnil | hne | hneg | hbig)
    · exact decimal_ne_nil _ hnil.symm
    · exact hne rfl
    · omega
    · omega
  unfold checkedPrefix
  rw [strtol_decimal hfits]
  dsimp only
  rw [if_neg hgood, Int.toNat_natCast]

theorem routeOf_encode (order : ByteOrder) (route : Route) :
    routeOf order route.encode.text = some (route.nmo order) := by
  apply (routeOf_eq_some order).mpr
  exact ⟨route.network, decimal route.length, _, rfl, checkedPrefix_decimal route.length, rfl⟩

private theorem encode_clean (route : Route) : Clean isComma route.encode.text := by
  apply (dotted_clean _ (isDigit_of_beq rfl) rfl).append
  intro c hc
  rcases List.mem_cons.mp hc with rfl | hc
  · rfl
  · exact decimal_clean _ (isDigit_of_beq rfl) c hc

private theorem encode_ne_nil (route : Route) : route.encode.text ≠ [] := by
  simp [Route.encode]

end Encoding

section Laws

variable {β γ : Type}

/-- A parser of lists with commas, where `whole` is the parser without its bound and `encode`
writes the item that is read as `value`, another one for every item. -/
structure CommaList (parse : Option CStr → Int → List β) (whole : CStr → List β)
    (encode : γ → CStr) (value : γ → β) : Prop where
  append : ∀ (a b : CStr) (max : Int), 0 < max →
    parse (some (commaAppend a b)) max = (whole a ++ whole b).take max.toNat
  inverse : ∀ (items : List γ) (max : Int), (items.length : Int) ≤ max →
    parse (some (commaJoin (items.map encode))) max = items.map value
  injective : Function.Injective value

private theorem parseAll_commaAppend {entryAt : List Char → Nat → Entry β}
    {entryOf : List Char → Option β} (h : Reads entryAt entryOf) (a b : CStr) :
    parseAll entryAt (commaAppend a b) = parseAll entryAt a ++ parseAll entryAt b := by
  rw [parseAll_eq h, parseAll_eq h, parseAll_eq h]
  unfold commaAppend
  rw [tokens_append_cons _ _ rfl, List.filterMap_append]

theorem parseAll_commaJoin {entryAt : List Char → Nat → Entry β}
    {entryOf : List Char → Option β} (h : Reads entryAt entryOf) {encode : γ → CStr} {value : γ → β}
    (hclean : ∀ item, Clean isComma (encode item).text)
    (hread : ∀ item, entryOf (encode item).text = some (value item))
    (hne : ∀ item, (encode item).text ≠ []) (items : List γ) :
    parseAll entryAt (commaJoin (items.map encode)) = items.map value := by
  have htokens : tokens isComma (commaJoin (items.map encode)).text =
      items.map fun item => (encode item).text := by
    change tokens isComma ([','].intercalate ((items.map encode).map CStr.text)) = _
    rw [List.map_map]
    apply tokens_intercalate rfl
    · intro piece hpiece
      obtain ⟨item, _, rfl⟩ := List.mem_map.mp hpiece
      exact hclean item
    · intro piece hpiece
      obtain ⟨item, _, rfl⟩ := List.mem_map.mp hpiece
      exact hne item
  rw [parseAll_eq h, htokens, List.filterMap_map]
  have hall : entryOf ∘ (fun item => (encode item).text) = some ∘ value := funext hread
  rw [hall, List.filterMap_eq_map]

private theorem commaList {entryAt : List Char → Nat → Entry β}
    {entryOf : List Char → Option β} (h : Reads entryAt entryOf) {encode : γ → CStr} {value : γ → β}
    (hclean : ∀ item, Clean isComma (encode item).text)
    (hread : ∀ item, entryOf (encode item).text = some (value item))
    (hne : ∀ item, (encode item).text ≠ []) (hvalue : Function.Injective value) :
    CommaList (parseEnv entryAt) (parseAll entryAt) encode value where
  append := by
    intro a b max _
    rw [parseEnv_eq h, parseAll_commaAppend h]
  inverse := by
    intro items max hmax
    rw [parseEnv_eq h, parseAll_commaJoin h hclean hread hne, List.take_of_length_le]
    rw [List.length_map]
    omega
  injective := hvalue

theorem nmoParseRoutes_eq (order : ByteOrder) (s : CStr) (max : Int) :
    nmoParseRoutes order (some s) max =
      ((tokens isComma s.text).filterMap (routeOf order)).take max.toNat := by
  unfold nmoParseRoutes
  rw [parseEnv_eq (routeAt_reads order), parseAll_eq (routeAt_reads order)]

example : (nmoParseRoutes .little
    (some ⟨"bad,10.0.0.0/8,10.0.0.0/99,10.0.0.0/x,1.2.3.4".toList, by decide⟩) 16).length = 1 := by
  rw [nmoParseRoutes_eq]
  decide

theorem nmoParseRoutes_commaJoin (order : ByteOrder) (routes : List Route) (max : Int) :
    nmoParseRoutes order (some (commaJoin (routes.map Route.encode))) max =
      (routes.map (Route.nmo order)).take max.toNat := by
  unfold nmoParseRoutes
  rw [parseEnv_eq (routeAt_reads order),
    parseAll_commaJoin (routeAt_reads order) encode_clean (routeOf_encode order) encode_ne_nil]

/-- Both parsers treat the entries one by one, and invert the contract's encoding. -/
theorem nmoParse_commaList (order : ByteOrder) :
    CommaList (nmoParseRoutes order) (parseAll (routeAt order)) Route.encode (Route.nmo order) ∧
      CommaList (nmoParseDns order) (parseAll (dnsAt order)) encodeServer (IPv4.sAddr order) := by
  constructor
  · exact commaList (routeAt_reads order) encode_clean (routeOf_encode order) encode_ne_nil
      (Route.nmo_injective order)
  · apply commaList (dnsAt_reads order)
    · exact fun server => dotted_clean server (isDigit_of_beq rfl) rfl
    · exact fun server => by simp [encodeServer, inetPton_dotted]
    · exact fun server => dotted_ne_nil server
    · exact IPv4.sAddr_injective order

end Laws

end CrosswireNm.PppdPlugin
