import CrosswireNm.Library.Machine

/-!
# Machines that come to an end

A rank that no step raises and every step that counts lowers bounds how many such steps there
are; when moreover some step lowers it wherever the goal is not met, the goal is led to.
-/

namespace CrosswireNm.Library

variable {σ α ε : Type*} {step : Step σ α ε} {cost : σ → α → Nat}

/-- `Spends step cost s n t`: some steps lead from `s` to `t`, and what they cost adds up to `n`. -/
inductive Spends (step : Step σ α ε) (cost : σ → α → Nat) (s : σ) : Nat → σ → Prop
  | refl : Spends step cost s 0 s
  | tail {n : Nat} {t u : σ} {label : α} {out : List ε} : Spends step cost s n t →
      step t label = some (u, out) → Spends step cost s (n + cost t label) u

theorem Spends.head {n : Nat} {s t u : σ} {label : α} {out : List ε}
    (hmove : step s label = some (t, out)) (h : Spends step cost t n u) :
    Spends step cost s (cost s label + n) u := by
  induction h with
  | refl =>
    have hone : Spends step cost s (0 + cost s label) t := .tail .refl hmove
    rwa [Nat.zero_add] at hone
  | tail _ hnext ih =>
    rw [← Nat.add_assoc]
    exact .tail ih hnext

theorem Spends.bounded (rank : σ → Nat) (inv : σ → Prop)
    (hkeep : ∀ s label t out, inv s → step s label = some (t, out) → inv t)
    (hpay : ∀ s label t out, inv s → step s label = some (t, out) →
      cost s label + rank t ≤ rank s)
    {n : Nat} {s t : σ} (h : Spends step cost s n t) (hs : inv s) :
    inv t ∧ n + rank t ≤ rank s := by
  induction h with
  | refl => exact ⟨hs, by omega⟩
  | tail _ hmove ih =>
    obtain ⟨hinv, hpaid⟩ := ih
    have hnext := hpay _ _ _ _ hinv hmove
    exact ⟨hkeep _ _ _ _ hinv hmove, by omega⟩

def spend (step : Step σ α ε) (cost : σ → α → Nat) : σ → List α → Option (Nat × σ)
  | s, [] => some (0, s)
  | s, label :: labels =>
    match step s label with
    | none => none
    | some (t, _) => (spend step cost t labels).map fun (n, u) => (cost s label + n, u)

theorem spend_spends {labels : List α} {n : Nat} {s t : σ}
    (h : spend step cost s labels = some (n, t)) : Spends step cost s n t := by
  induction labels generalizing s n with
  | nil =>
    obtain ⟨rfl, rfl⟩ : 0 = n ∧ s = t := by simpa [spend] using h
    exact .refl
  | cons label labels ih =>
    simp only [spend] at h
    cases hmove : step s label with
    | none => simp [hmove] at h
    | some next =>
      rw [hmove] at h
      obtain ⟨⟨m, u⟩, hrest, hsum⟩ := Option.map_eq_some_iff.mp h
      obtain ⟨rfl, rfl⟩ := Prod.mk.inj hsum
      exact .head hmove (ih hrest)

variable {allowed : List ε → σ → α → Prop} {goal goal' : List ε → σ → Prop}

theorem Leads.mono {history : List ε} {s : σ} (h : Leads step allowed goal history s)
    (hgoal : ∀ history s, goal history s → goal' history s) :
    Leads step allowed goal' history s := by
  induction h with
  | here hmet => exact .here (hgoal _ _ hmet)
  | step label hallowed hmove _ ih => exact .step label hallowed hmove ih

theorem Leads.resolve {history : List ε} {s : σ}
    (h : Leads step allowed (fun history t => goal history t ∨ goal' history t) history s)
    (hnever : ∀ history t, ¬ goal' history t) : Leads step allowed goal history s :=
  h.mono fun history t hmet => hmet.resolve_right (hnever history t)

theorem Leads.bind {history : List ε} {s : σ} (h : Leads step allowed goal history s)
    (hnext : ∀ history s, goal history s → Leads step allowed goal' history s) :
    Leads step allowed goal' history s := by
  induction h with
  | here hmet => exact hnext _ _ hmet
  | step label hallowed hmove _ ih => exact .step label hallowed hmove ih

/-- When every state short of the goal leads to one of lower rank, the goal is led to. -/
theorem Leads.of_rank (inv : σ → Prop) (rank : σ → Nat)
    (hdown : ∀ history s, inv s → goal history s ∨
      Leads step allowed (fun history t => goal history t ∨ (inv t ∧ rank t < rank s)) history s)
    {history : List ε} {s : σ} (hs : inv s) : Leads step allowed goal history s := by
  induction hn : rank s using Nat.strongRecOn generalizing history s with
  | ind n ih =>
    subst hn
    rcases hdown history s hs with hgoal | hlower
    · exact .here hgoal
    · refine hlower.bind ?_
      rintro history' t (hgoal | ⟨ht, hless⟩)
      · exact .here hgoal
      · exact ih _ hless ht rfl

end CrosswireNm.Library
