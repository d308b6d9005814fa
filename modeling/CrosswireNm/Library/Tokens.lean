import Mathlib.Data.List.Basic
import Mathlib.Data.List.TakeWhile

/-!
# Splitting at separators

A list is cut at the letters a test marks as separators. The pieces are its maximal runs of other
letters; the tokens are the pieces that are not empty.
-/

namespace CrosswireNm.Library

variable {α : Type*} {sep : α → Bool}

def Clean (sep : α → Bool) (l : List α) : Prop := ∀ a ∈ l, sep a = false

theorem Clean.append {l l' : List α} (h : Clean sep l) (h' : Clean sep l') :
    Clean sep (l ++ l') := by
  intro a ha
  rcases List.mem_append.mp ha with ha | ha
  · exact h a ha
  · exact h' a ha

/-- Induction over the separators of a list. -/
theorem cut_induction (sep : α → Bool) {motive : List α → Prop}
    (clean : ∀ l, Clean sep l → motive l)
    (cut : ∀ tok a rest, Clean sep tok → sep a = true → motive rest → motive (tok ++ a :: rest))
    (l : List α) : motive l := by
  have hgo : ∀ l tok, Clean sep tok → motive (tok ++ l) := by
    intro l
    induction l with
    | nil =>
      intro tok htok
      rw [List.append_nil]
      exact clean tok htok
    | cons a l ih =>
      intro tok htok
      cases ha : sep a with
      | true => exact cut tok a l htok ha (ih [] fun _ h => absurd h List.not_mem_nil)
      | false =>
        have hnext : Clean sep (tok ++ [a]) :=
          htok.append fun b hb => List.mem_singleton.mp hb ▸ ha
        simpa using ih (tok ++ [a]) hnext
  exact hgo l [] fun _ h => absurd h List.not_mem_nil

/-- `run` stands in the list between `before` and `after`, has no separator in it, and cannot be
made longer on either side. -/
structure MaximalRun (sep : α → Bool) (l before run after : List α) : Prop where
  split : l = before ++ run ++ after
  clean : Clean sep run
  left : ∀ a, before.getLast? = some a → sep a = true
  right : ∀ a, after.head? = some a → sep a = true

private theorem nil_of_last {l : List α} (hl : Clean sep l)
    (hlast : ∀ a, l.getLast? = some a → sep a = true) : l = [] := by
  by_contra hne
  have hsep := hlast _ (List.getLast?_eq_some_getLast hne)
  rw [hl _ (List.getLast_mem hne)] at hsep
  cases hsep

private theorem nil_of_head {l : List α} (hl : Clean sep l)
    (hhead : ∀ a, l.head? = some a → sep a = true) : l = [] := by
  cases l with
  | nil => rfl
  | cons a l =>
    have hsep := hhead a rfl
    rw [hl a List.mem_cons_self] at hsep
    cases hsep

theorem MaximalRun.of_clean {l before run after : List α} (h : MaximalRun sep l before run after)
    (hl : Clean sep l) : before = [] ∧ run = l ∧ after = [] := by
  have hpart : ∀ a, a ∈ before ∨ a ∈ after → sep a = false := by
    intro a ha
    apply hl a
    rw [h.split]
    rcases ha with ha | ha <;> simp [ha]
  have hbefore : before = [] := nil_of_last (fun a ha => hpart a (Or.inl ha)) h.left
  have hafter : after = [] := nil_of_head (fun a ha => hpart a (Or.inr ha)) h.right
  refine ⟨hbefore, ?_, hafter⟩
  simpa [hbefore, hafter] using h.split.symm

theorem maximalRun_self {l : List α} (hl : Clean sep l) : MaximalRun sep l [] l [] :=
  ⟨by simp, hl, by simp, by simp⟩

section Cut

variable {tok rest : List α} {a : α} (htok : Clean sep tok) (ha : sep a = true)
include htok ha

theorem maximalRun_cut {before run after : List α} :
    MaximalRun sep (tok ++ a :: rest) before run after ↔
      (before = [] ∧ run = tok ∧ after = a :: rest) ∨
        ∃ before', before = tok ++ a :: before' ∧ MaximalRun sep rest before' run after := by
  constructor
  · intro h
    have hsplit := h.split
    rw [List.append_assoc] at hsplit
    have hnot : ∀ {l : List α}, Clean sep l → a ∉ l := fun hl hmem => by
      simp [hl a hmem] at ha
    rcases List.append_eq_append_iff.mp hsplit with ⟨mid, hbefore, hmid⟩ | ⟨mid, hmid, htail⟩
    · cases mid with
      | nil =>
        left
        have hrun : run = [] := by
          cases run with
          | nil => rfl
          | cons b run =>
            obtain rfl : a = b := (List.cons.inj hmid).1
            exact absurd List.mem_cons_self (hnot h.clean)
        have htok' : tok = [] := by
          apply nil_of_last htok
          rw [← List.append_nil tok, ← hbefore]
          exact h.left
        subst hrun
        subst htok'
        exact ⟨by simpa using hbefore, rfl, by simpa using hmid.symm⟩
      | cons b mid =>
        right
        obtain ⟨rfl, hrest⟩ := List.cons.inj hmid
        refine ⟨mid, hbefore, by rw [List.append_assoc]; exact hrest, h.clean, ?_, h.right⟩
        intro c hc
        apply h.left c
        rw [hbefore, List.getLast?_append]
        cases mid with
        | nil => simp at hc
        | cons d mid => simpa using hc
    · left
      have hbefore : before = [] := by
        apply nil_of_last _ h.left
        intro b hb
        apply htok b
        rw [hmid]
        exact List.mem_append_left _ hb
      subst hbefore
      rw [List.nil_append] at hmid
      subst hmid
      rcases List.append_eq_append_iff.mp htail with ⟨mid', hrun, hafter⟩ | ⟨mid', hrun, hafter⟩
      · cases mid' with
        | nil => exact ⟨rfl, by simpa using hrun.symm, by simpa using hafter⟩
        | cons b mid' =>
          have hmem : b ∈ tok := by simp [hrun]
          exact absurd (h.right b (by simp [hafter])) (by simp [htok b hmem])
      · cases mid' with
        | nil => exact ⟨rfl, by simpa using hrun, by simpa using hafter.symm⟩
        | cons b mid' =>
          obtain rfl : a = b := (List.cons.inj hafter).1
          exact absurd (by simp [hrun]) (hnot h.clean)
  · rintro (⟨rfl, rfl, rfl⟩ | ⟨before', rfl, h⟩)
    · exact ⟨by simp, htok, by simp, by simpa using ha⟩
    · refine ⟨by simp [h.split], h.clean, ?_, h.right⟩
      intro c hc
      cases before' with
      | nil =>
        have hlast : a = c := by simpa using hc
        exact hlast ▸ ha
      | cons d before' =>
        apply h.left c
        simpa [List.getLast?_append] using hc

end Cut

/-- The pieces between separators are the maximal runs. -/
theorem mem_splitOnP {l run : List α} :
    run ∈ l.splitOnP sep ↔ ∃ before after, MaximalRun sep l before run after := by
  induction l using cut_induction sep with
  | clean l hl =>
    rw [List.splitOnP_eq_singleton hl, List.mem_singleton]
    constructor
    · rintro rfl
      exact ⟨[], [], maximalRun_self hl⟩
    · rintro ⟨before, after, h⟩
      exact (h.of_clean hl).2.1
  | cut tok a rest htok ha ih =>
    rw [List.splitOnP_append_cons_of_forall_mem htok a ha, List.mem_cons, ih]
    simp only [maximalRun_cut htok ha]
    constructor
    · rintro (rfl | ⟨before, after, h⟩)
      · exact ⟨[], a :: rest, Or.inl ⟨rfl, rfl, rfl⟩⟩
      · exact ⟨tok ++ a :: before, after, Or.inr ⟨before, rfl, h⟩⟩
    · rintro ⟨before, after, ⟨_, hrun, _⟩ | ⟨before', _, h⟩⟩
      · exact Or.inl hrun
      · exact Or.inr ⟨before', after, h⟩

structure FirstRun (sep : α → Bool) (test : List α → Bool) (l before run after : List α) :
    Prop where
  maximal : MaximalRun sep l before run after
  passes : test run = true
  first : ∀ before' run' after', MaximalRun sep l before' run' after' → test run' = true →
    before.length ≤ before'.length

theorem FirstRun.congr {test test' : List α → Bool}
    (htest : ∀ run, Clean sep run → test run = test' run) {l before run after : List α} :
    FirstRun sep test l before run after ↔ FirstRun sep test' l before run after := by
  constructor
  · intro h
    refine ⟨h.maximal, by rw [← htest run h.maximal.clean]; exact h.passes, ?_⟩
    intro before' run' after' hrun' hpass'
    exact h.first before' run' after' hrun' (by rw [htest run' hrun'.clean]; exact hpass')
  · intro h
    refine ⟨h.maximal, by rw [htest run h.maximal.clean]; exact h.passes, ?_⟩
    intro before' run' after' hrun' hpass'
    exact h.first before' run' after' hrun' (by rw [← htest run' hrun'.clean]; exact hpass')

/-- The first piece that passes a test is the leftmost maximal run that does. -/
theorem find_splitOnP {test : List α → Bool} {l run : List α} :
    (l.splitOnP sep).find? test = some run ↔
      ∃ before after, FirstRun sep test l before run after := by
  induction l using cut_induction sep with
  | clean l hl =>
    rw [List.splitOnP_eq_singleton hl]
    constructor
    · intro h
      obtain ⟨hpass, rfl⟩ : test l = true ∧ l = run := by
        simpa [List.find?_singleton] using h
      exact ⟨[], [], maximalRun_self hl, hpass, by simp⟩
    · rintro ⟨before, after, h⟩
      obtain ⟨_, rfl, _⟩ := h.maximal.of_clean hl
      simp [h.passes]
  | cut tok a rest htok ha ih =>
    rw [List.splitOnP_append_cons_of_forall_mem htok a ha]
    cases hpass : test tok with
    | true =>
      rw [List.find?_cons_of_pos hpass]
      constructor
      · intro h
        obtain rfl : tok = run := Option.some.inj h
        exact ⟨[], a :: rest, (maximalRun_cut htok ha).mpr (Or.inl ⟨rfl, rfl, rfl⟩), hpass,
          by simp⟩
      · rintro ⟨before, after, h⟩
        have hle := h.first [] tok (a :: rest)
          ((maximalRun_cut htok ha).mpr (Or.inl ⟨rfl, rfl, rfl⟩)) hpass
        rcases (maximalRun_cut htok ha).mp h.maximal with ⟨_, rfl, _⟩ | ⟨before', rfl, _⟩
        · rfl
        · simp at hle
    | false =>
      rw [List.find?_cons_of_neg (by simp [hpass]), ih]
      constructor
      · rintro ⟨before, after, h⟩
        refine ⟨tok ++ a :: before, after,
          (maximalRun_cut htok ha).mpr (Or.inr ⟨before, rfl, h.maximal⟩), h.passes, ?_⟩
        intro before' run' after' hrun' hpass'
        rcases (maximalRun_cut htok ha).mp hrun' with ⟨_, rfl, _⟩ | ⟨behind, rfl, hbehind⟩
        · simp [hpass] at hpass'
        · have hle := h.first behind run' after' hbehind hpass'
          simpa using hle
      · rintro ⟨before, after, h⟩
        rcases (maximalRun_cut htok ha).mp h.maximal with ⟨_, rfl, _⟩ | ⟨before', rfl, hmax⟩
        · have := h.passes
          simp [hpass] at this
        · refine ⟨before', after, hmax, h.passes, ?_⟩
          intro behind run' after' hbehind hpass'
          have hle := h.first (tok ++ a :: behind) run' after'
            ((maximalRun_cut htok ha).mpr (Or.inr ⟨behind, rfl, hbehind⟩)) hpass'
          simpa using hle

def tokens (sep : α → Bool) (l : List α) : List (List α) :=
  (l.splitOnP sep).filter (fun tok => !tok.isEmpty)

theorem tokens_clean {l : List α} (hl : Clean sep l) :
    tokens sep l = if l.isEmpty then [] else [l] := by
  unfold tokens
  rw [List.splitOnP_eq_singleton hl]
  cases l <;> rfl

theorem tokens_append_cons (l l' : List α) {a : α} (ha : sep a = true) :
    tokens sep (l ++ a :: l') = tokens sep l ++ tokens sep l' := by
  unfold tokens
  rw [List.splitOnP_append_cons l l' ha, List.filter_append]

theorem tokens_cons_sep (l : List α) {a : α} (ha : sep a = true) :
    tokens sep (a :: l) = tokens sep l :=
  tokens_append_cons [] l ha

theorem tokens_intercalate {pieces : List (List α)} {a : α} (ha : sep a = true)
    (hclean : ∀ piece ∈ pieces, Clean sep piece) (hne : ∀ piece ∈ pieces, piece ≠ []) :
    tokens sep ([a].intercalate pieces) = pieces := by
  induction pieces with
  | nil => rfl
  | cons piece pieces ih =>
    have hpiece : tokens sep piece = [piece] := by
      rw [tokens_clean (hclean piece List.mem_cons_self)]
      cases hcases : piece with
      | nil => exact absurd hcases (hne piece List.mem_cons_self)
      | cons b rest => rfl
    have htail := ih (fun p hp => hclean p (List.mem_cons_of_mem _ hp))
      (fun p hp => hne p (List.mem_cons_of_mem _ hp))
    cases pieces with
    | nil => simpa [List.intercalate] using hpiece
    | cons next pieces =>
      have hjoin : [a].intercalate (piece :: next :: pieces) =
          piece ++ a :: [a].intercalate (next :: pieces) := by
        simp [List.intercalate]
      rw [hjoin, tokens_append_cons _ _ ha, hpiece, htail]
      rfl

/-- One call of a tokenizer: it skips separators, takes what stands before the next one, and
drops that one. -/
def nextToken (sep : α → Bool) (l : List α) : Option (List α × List α) :=
  match l.dropWhile sep with
  | [] => none
  | a :: rest =>
    some (a :: rest.takeWhile (fun b => !sep b), (rest.dropWhile (fun b => !sep b)).tail)

/-- Called until it finds nothing, the tokenizer yields the tokens. -/
theorem tokens_nextToken (l : List α) :
    tokens sep l = match nextToken sep l with
      | none => []
      | some (tok, rest) => tok :: tokens sep rest := by
  induction l using cut_induction sep with
  | clean l hl =>
    rw [tokens_clean hl]
    cases l with
    | nil => rfl
    | cons a l =>
      have ha : sep a = false := hl a List.mem_cons_self
      have htest : ∀ b ∈ l, (!sep b) = true := by
        intro b hb
        simp [hl b (List.mem_cons_of_mem _ hb)]
      have htake : l.takeWhile (fun b => !sep b) = l := List.takeWhile_eq_self_iff.mpr htest
      have hdrop : l.dropWhile (fun b => !sep b) = [] := List.dropWhile_eq_nil_iff.mpr htest
      simp [nextToken, ha, htake, hdrop, tokens]
  | cut tok a rest htok ha ih =>
    cases tok with
    | nil =>
      have hskip : nextToken sep (a :: rest) = nextToken sep rest := by
        simp [nextToken, ha]
      rw [List.nil_append, tokens_cons_sep rest ha, hskip]
      exact ih
    | cons b tok =>
      have hb : sep b = false := htok b List.mem_cons_self
      have htest : ∀ c ∈ tok, (!sep c) = true := by
        intro c hc
        simp [htok c (List.mem_cons_of_mem _ hc)]
      have hnext : nextToken sep (b :: tok ++ a :: rest) = some (b :: tok, rest) := by
        simp [nextToken, hb, List.takeWhile_append_of_pos htest,
          List.dropWhile_append_of_pos htest, ha]
      rw [tokens_append_cons _ _ ha, tokens_clean htok, hnext]
      rfl

end CrosswireNm.Library
