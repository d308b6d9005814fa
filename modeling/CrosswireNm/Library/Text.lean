import CrosswireNm.Library.Tokens

/-!
# Text as Rust's `str` takes it apart
-/

namespace CrosswireNm.Library

def isWhitespace (c : Char) : Bool :=
  let n := c.toNat
  (9 ≤ n && n ≤ 13) || n = 32 || n = 0x85 || n = 0xa0 || n = 0x1680 || (0x2000 ≤ n && n ≤ 0x200a) ||
    n = 0x2028 || n = 0x2029 || n = 0x202f || n = 0x205f || n = 0x3000

/-- A carriage return in front of a line feed belongs to the line's end. -/
def dropCr (line : List Char) : List Char :=
  if line.getLast? = some '\r' then line.dropLast else line

/-- `lines()`: the text behind the last line feed is a line if it is not empty. -/
def lines (text : List Char) : List (List Char) :=
  let pieces := text.splitOnP (· == '\n')
  pieces.dropLast.map dropCr ++ pieces.getLast?.toList.filter (fun last => !last.isEmpty)

def splitOnce (sep : Char) (text : List Char) : Option (List Char × List Char) :=
  match text.dropWhile (· != sep) with
  | [] => none
  | _ :: after => some (text.takeWhile (· != sep), after)

def trim (text : List Char) : List Char :=
  ((text.dropWhile isWhitespace).reverse.dropWhile isWhitespace).reverse

def firstWord (text : List Char) : Option (List Char) := (tokens isWhitespace text).head?

/-- `parse::<u32>()`: digits, behind at most one plus sign. -/
def parseU32 (text : List Char) : Option Nat :=
  let digits := if text.head? = some '+' then text.tail else text
  if digits ≠ [] && digits.all Char.isDigit && Nat.ofDigitChars 10 digits 0 ≤ 4294967295 then
    some (Nat.ofDigitChars 10 digits 0)
  else none

section LastValue

variable {α β : Type*} [DecidableEq α]

def lastValue (pairs : List (α × β)) (key : α) : Option β := pairs.reverse.lookup key

theorem lastValue_append (pairs : List (α × β)) (name key : α) (value : β) :
    lastValue (pairs ++ [(name, value)]) key =
      if name = key then some value else lastValue pairs key := by
  unfold lastValue
  rw [List.reverse_append, List.reverse_singleton, List.singleton_append, List.lookup_cons]
  by_cases hname : name = key
  · rw [if_pos hname, beq_iff_eq.mpr hname.symm]
  · rw [if_neg hname, beq_eq_false_iff_ne.mpr (Ne.symm hname)]

theorem lastValue_eq_some {pairs : List (α × β)} {key : α} {value : β} :
    lastValue pairs key = some value ↔ ∃ before after,
      pairs = before ++ (key, value) :: after ∧ ∀ pair ∈ after, pair.1 ≠ key := by
  unfold lastValue
  rw [List.lookup_eq_some_iff]
  constructor
  · rintro ⟨after, before, hsplit, hafter⟩
    refine ⟨before.reverse, after.reverse, ?_, ?_⟩
    · rw [← List.reverse_reverse pairs, hsplit]
      simp
    · intro pair hpair
      exact Ne.symm (bne_iff_ne.mp (hafter pair (List.mem_reverse.mp hpair)))
  · rintro ⟨before, after, rfl, hafter⟩
    refine ⟨after.reverse, before.reverse, by simp, ?_⟩
    intro pair hpair
    exact bne_iff_ne.mpr (Ne.symm (hafter pair (List.mem_reverse.mp hpair)))

theorem lastValue_eq_some_of_nodup {pairs : List (α × β)} (hkeys : (pairs.map Prod.fst).Nodup)
    {key : α} {value : β} : lastValue pairs key = some value ↔ (key, value) ∈ pairs := by
  rw [lastValue_eq_some]
  constructor
  · rintro ⟨before, after, rfl, _⟩
    simp
  · intro hmem
    obtain ⟨before, after, rfl⟩ := List.append_of_mem hmem
    refine ⟨before, after, rfl, ?_⟩
    intro pair hpair hkey
    rw [List.map_append, List.map_cons] at hkeys
    have htail := (List.nodup_cons.mp (List.nodup_append.mp hkeys).2.1).1
    exact htail (List.mem_map.mpr ⟨pair, hpair, hkey⟩)

theorem lastValue_perm {pairs pairs' : List (α × β)} (h : pairs.Perm pairs')
    (hkeys : (pairs.map Prod.fst).Nodup) (key : α) :
    lastValue pairs key = lastValue pairs' key := by
  have hkeys' : (pairs'.map Prod.fst).Nodup := (h.map Prod.fst).nodup_iff.mp hkeys
  apply Option.ext
  intro value
  rw [lastValue_eq_some_of_nodup hkeys, lastValue_eq_some_of_nodup hkeys', h.mem_iff]

end LastValue

end CrosswireNm.Library
