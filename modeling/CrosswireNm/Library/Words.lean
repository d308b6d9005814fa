import Mathlib.Computability.Language

/-!
# Words of a machine that keeps coming home

A partial automaton reads a word letter by letter. When every way round from a state `home` back
to it spells a word of a language `L`, what the automaton accepts so far is a prefix of `L∗`.
-/

namespace CrosswireNm.Library

open Computability

variable {κ α : Type*}

def accepts (next : κ → α → Option κ) (start : κ) (word : List α) : Option κ :=
  word.foldlM next start

@[simp] theorem accepts_nil (next : κ → α → Option κ) (start : κ) :
    accepts next start [] = some start := rfl

theorem accepts_append (next : κ → α → Option κ) (start : κ) (u v : List α) :
    accepts next start (u ++ v) = (accepts next start u).bind (accepts next · v) := by
  simp only [accepts, List.foldlM_append]
  rfl

theorem accepts_snoc {next : κ → α → Option κ} {start k k' : κ} {word : List α} {a : α}
    (h : accepts next start word = some k) (ha : next k a = some k') :
    accepts next start (word ++ [a]) = some k' := by
  rw [accepts_append, h]
  simp [accepts, ha]

theorem accepts_split {next : κ → α → Option κ} {start k : κ} {u v : List α} {a : α}
    (h : accepts next start (u ++ a :: v) = some k) :
    ∃ before after, accepts next start u = some before ∧ next before a = some after ∧
      accepts next after v = some k := by
  rw [accepts_append] at h
  obtain ⟨before, hu, h⟩ := Option.bind_eq_some_iff.mp h
  simp only [accepts, List.foldlM_cons, Option.bind_eq_bind] at h
  obtain ⟨after, ha, hv⟩ := Option.bind_eq_some_iff.mp h
  exact ⟨before, after, hu, ha, hv⟩

theorem accepts_last {next : κ → α → Option κ} {start k : κ} {word : List α}
    (h : accepts next start word = some k) (hk : k ≠ start) :
    ∃ u a before, word = u ++ [a] ∧ next before a = some k := by
  rcases List.eq_nil_or_concat word with rfl | ⟨u, a, rfl⟩
  · exact absurd (Option.some.inj h).symm hk
  · rw [List.concat_eq_append] at h
    obtain ⟨before, after, _, ha, hv⟩ := accepts_split h
    obtain rfl : after = k := Option.some.inj hv
    exact ⟨u, a, before, List.concat_eq_append, ha⟩

/-- `part k` holds the words that lead from `home` to `k` without coming home in between; the
words that do come home are in `L`, and each part can be completed to one. -/
structure Laps (next : κ → α → Option κ) (home : κ) (L : Language α) (part : κ → Language α) :
    Prop where
  home_mem : ∀ u, u ∈ part home ↔ u = []
  pass : ∀ {k a k' u}, next k a = some k' → k' ≠ home → u ∈ part k → u ++ [a] ∈ part k'
  close : ∀ {k a u}, next k a = some home → u ∈ part k → u ++ [a] ∈ L
  finish : ∀ {k u}, u ∈ part k → ∃ v, u ++ v ∈ L

variable {next : κ → α → Option κ} {home : κ} {L : Language α} {part : κ → Language α}

theorem append_mem_kstar {u v : List α} (hu : u ∈ L∗) (hv : v ∈ L) : u ++ v ∈ L∗ := by
  obtain ⟨words, rfl, hwords⟩ := Language.mem_kstar.mp hu
  refine Language.mem_kstar.mpr ⟨words ++ [v], by simp, ?_⟩
  intro y hy
  rcases List.mem_append.mp hy with hy | hy
  · exact hwords y hy
  · exact List.mem_singleton.mp hy ▸ hv

/-- What was read is a sequence of closed laps and one open part. -/
theorem Laps.split (laps : Laps next home L part) {word : List α} {k : κ}
    (h : accepts next home word = some k) :
    ∃ closed ∈ L∗, ∃ opened ∈ part k, word = closed ++ opened := by
  induction word using List.reverseRecOn generalizing k with
  | nil =>
    obtain rfl : home = k := Option.some.inj h
    exact ⟨[], Language.nil_mem_kstar L, [], (laps.home_mem []).mpr rfl, rfl⟩
  | append_singleton word a ih =>
    obtain ⟨before, after, hword, ha, hk⟩ := accepts_split h
    obtain rfl : after = k := Option.some.inj hk
    obtain ⟨closed, hclosed, opened, hopened, rfl⟩ := ih hword
    by_cases hafter : after = home
    · subst after
      refine ⟨closed ++ (opened ++ [a]), append_mem_kstar hclosed (laps.close ha hopened),
        [], (laps.home_mem []).mpr rfl, by simp⟩
    · exact ⟨closed, hclosed, opened ++ [a], laps.pass ha hafter hopened, by simp⟩

theorem Laps.isPrefix (laps : Laps next home L part) {word : List α} {k : κ}
    (h : accepts next home word = some k) : ∃ full ∈ L∗, word <+: full := by
  obtain ⟨closed, hclosed, opened, hopened, rfl⟩ := laps.split h
  obtain ⟨rest, hrest⟩ := laps.finish hopened
  refine ⟨closed ++ (opened ++ rest), append_mem_kstar hclosed hrest, rest, ?_⟩
  exact List.append_assoc closed opened rest

end CrosswireNm.Library
