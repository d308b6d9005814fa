import Mathlib.Data.List.Basic
import Mathlib.Logic.Function.Basic

/-!
# Machines that emit events

A machine refuses a label it cannot take in its present state, and otherwise moves and emits
events. All nondeterminism sits in the labels, so a run is fixed by the labels it takes.
-/

namespace CrosswireNm.Library

variable {σ α ε : Type*}

/-- One step: `none` when the label cannot be taken now, else the next state and the events. -/
abbrev Step (σ α ε : Type*) := σ → α → Option (σ × List ε)

/-- The histories and states a machine can reach from `start` when every label it takes is
allowed by the history and the state before it. -/
inductive Run (step : Step σ α ε) (allowed : List ε → σ → α → Prop) (start : σ) :
    List ε → σ → Prop
  | refl : Run step allowed start [] start
  | tail {history : List ε} {s t : σ} {label : α} {out : List ε} :
      Run step allowed start history s → allowed history s label →
      step s label = some (t, out) → Run step allowed start (history ++ out) t

def anyLabel : List ε → σ → α → Prop := fun _ _ _ => True

variable {step : Step σ α ε} {allowed allowed' : List ε → σ → α → Prop} {start : σ}

theorem Run.invariant {history : List ε} {s : σ} (run : Run step allowed start history s)
    (inv : List ε → σ → Prop) (hstart : inv [] start)
    (hstep : ∀ history s label t out, inv history s → allowed history s label →
      step s label = some (t, out) → inv (history ++ out) t) :
    inv history s := by
  induction run with
  | refl => exact hstart
  | tail _ hallowed hmove ih => exact hstep _ _ _ _ _ ih hallowed hmove

theorem Run.state_invariant {history : List ε} {s : σ} (run : Run step allowed start history s)
    (inv : σ → Prop) (hstart : inv start)
    (hstep : ∀ s label t out history, inv s → allowed history s label →
      step s label = some (t, out) → inv t) :
    inv s := by
  induction run with
  | refl => exact hstart
  | tail _ hallowed hmove ih => exact hstep _ _ _ _ _ ih hallowed hmove

theorem Run.mono {history : List ε} {s : σ} (run : Run step allowed start history s)
    (h : ∀ history s label, allowed history s label → allowed' history s label) :
    Run step allowed' start history s := by
  induction run with
  | refl => exact .refl
  | tail _ hallowed hmove ih => exact .tail ih (h _ _ _ hallowed) hmove

theorem Run.any {history : List ε} {s : σ} (run : Run step allowed start history s) :
    Run step anyLabel start history s :=
  run.mono (fun _ _ _ _ => trivial)

/-- A refinement: where each step is, in the view of another machine, one of its steps or none at
all, the view of a run is a run of the other machine. `inv` is an invariant of the runs at hand. -/
theorem Run.refines {τ β δ : Type*} {step' : Step τ β δ} {allowed' : List δ → τ → β → Prop}
    {history : List ε} {s : σ} (run : Run step allowed start history s)
    (inv : List ε → σ → Prop) (abs : σ → τ) (view : ε → Option δ)
    (hinv : ∀ {history s}, Run step allowed start history s → inv history s)
    (hstep : ∀ history s label t out, inv history s → allowed history s label →
      step s label = some (t, out) →
        (abs t = abs s ∧ out.filterMap view = []) ∨
        ∃ label', allowed' (history.filterMap view) (abs s) label' ∧
          step' (abs s) label' = some (abs t, out.filterMap view)) :
    Run step' allowed' (abs start) (history.filterMap view) (abs s) := by
  induction run with
  | refl => exact .refl
  | tail run hallowed hmove ih =>
    rw [List.filterMap_append]
    rcases hstep _ _ _ _ _ (hinv run) hallowed hmove with
      ⟨hsame, hout⟩ | ⟨label', hallowed', hmove'⟩
    · rw [hsame, hout, List.append_nil]
      exact ih
    · exact .tail ih hallowed' hmove'

/-- Every event of a history was emitted by a step of the run, between the events before it and
those after it. -/
theorem Run.emitted_between {history : List ε} {s : σ} (run : Run step allowed start history s)
    {before after : List ε} {e : ε} (hsplit : history = before ++ e :: after) :
    ∃ past t label u pre post later, Run step allowed start past t ∧ allowed past t label ∧
      step t label = some (u, pre ++ e :: post) ∧ before = past ++ pre ∧ after = post ++ later := by
  induction run generalizing after with
  | refl => simp at hsplit
  | @tail past t u label out run hallowed hmove ih =>
    rcases List.append_eq_append_iff.mp hsplit with ⟨pre, hbefore, rfl⟩ | ⟨mid, hpast, hmid⟩
    · exact ⟨past, t, label, u, pre, after, [], run, hallowed, hmove, hbefore,
        (List.append_nil _).symm⟩
    · cases mid with
      | nil =>
        obtain rfl : e :: after = out := hmid
        exact ⟨past, t, label, u, [], after, [], run, hallowed, hmove, by simpa using hpast.symm,
          (List.append_nil _).symm⟩
      | cons x mid =>
        obtain ⟨rfl, rfl⟩ : e = x ∧ after = mid ++ out := by simpa using hmid
        obtain ⟨past', t', label', u', pre, post, later, run', hallowed', hmove', hbefore, rfl⟩ :=
          ih hpast
        exact ⟨past', t', label', u', pre, post, later ++ out, run', hallowed', hmove', hbefore,
          List.append_assoc _ _ _⟩

theorem Run.emitted {history : List ε} {s : σ} (run : Run step allowed start history s)
    {before after : List ε} {e : ε} (hsplit : history = before ++ e :: after) :
    ∃ past t label u pre post, Run step allowed start past t ∧ allowed past t label ∧
      step t label = some (u, pre ++ e :: post) ∧ before = past ++ pre := by
  obtain ⟨past, t, label, u, pre, post, _, hpast, hallowed, hmove, hbefore, _⟩ :=
    run.emitted_between hsplit
  exact ⟨past, t, label, u, pre, post, hpast, hallowed, hmove, hbefore⟩

/-- What an event starts lasts: if emitting a marked event brings the machine into `quiet`, no
step leaves `quiet`, and steps taken there emit only `fine` events, then whatever follows a
marked event in a history is fine. An event is marked by what it is and by what came before it;
`inv` is an invariant of the runs at hand. -/
theorem Run.after {history : List ε} {s : σ} (run : Run step allowed start history s)
    (inv : List ε → σ → Prop) (marked : List ε → ε → Prop) (fine : ε → Prop) (quiet : σ → Prop)
    (hinv : ∀ {history s}, Run step allowed start history s → inv history s)
    (hmark : ∀ history s label t before e rest, inv history s → allowed history s label →
      step s label = some (t, before ++ e :: rest) → marked (history ++ before) e →
        quiet t ∧ ∀ x ∈ rest, fine x)
    (hkeep : ∀ history s label t out, inv history s → allowed history s label →
      step s label = some (t, out) → quiet s → quiet t ∧ ∀ x ∈ out, fine x)
    {before : List ε} {e : ε} {rest : List ε} (hsplit : history = before ++ e :: rest)
    (he : marked before e) : quiet s ∧ ∀ x ∈ rest, fine x := by
  induction run generalizing before e rest with
  | refl => simp at hsplit
  | @tail past s t label out run hallowed hmove ih =>
    rcases List.append_eq_append_iff.mp hsplit with ⟨mid, rfl, rfl⟩ | ⟨mid, hpast, hmid⟩
    · exact hmark _ _ _ _ _ _ _ (hinv run) hallowed hmove he
    · cases mid with
      | nil =>
        obtain rfl : e :: rest = out := hmid
        rw [List.append_nil] at hpast
        exact hmark _ _ _ _ [] _ _ (hinv run) hallowed hmove (by rwa [hpast, List.append_nil])
      | cons x mid =>
        obtain ⟨rfl, rfl⟩ : e = x ∧ rest = mid ++ out := by simpa using hmid
        obtain ⟨hquiet, hfine⟩ := ih hpast he
        obtain ⟨hquiet', hfine'⟩ := hkeep _ _ _ _ _ (hinv run) hallowed hmove hquiet
        refine ⟨hquiet', ?_⟩
        intro y hy
        rcases List.mem_append.mp hy with hy | hy
        · exact hfine y hy
        · exact hfine' y hy

/-- From here on the goal can be reached by labels that are allowed. -/
inductive Leads (step : Step σ α ε) (allowed : List ε → σ → α → Prop) (goal : List ε → σ → Prop) :
    List ε → σ → Prop
  | here {history : List ε} {s : σ} : goal history s → Leads step allowed goal history s
  | step {history : List ε} {s t : σ} {out : List ε} (label : α) : allowed history s label →
      step s label = some (t, out) → Leads step allowed goal (history ++ out) t →
      Leads step allowed goal history s

theorem Leads.run {goal : List ε → σ → Prop} {history : List ε} {s : σ}
    (h : Leads step allowed goal history s) (run : Run step allowed start history s) :
    ∃ history' s', Run step allowed start history' s' ∧ goal history' s' := by
  induction h with
  | here hgoal => exact ⟨_, _, run, hgoal⟩
  | step label hallowed hmove _ ih => exact ih (.tail run hallowed hmove)

/-- Takes the labels in turn, stopping when one is refused or fails the test `ok`. -/
def exec (step : Step σ α ε) (ok : List ε → σ → α → Bool) :
    List ε → σ → List α → Option (List ε × σ)
  | history, s, [] => some (history, s)
  | history, s, label :: labels =>
    if ok history s label then
      match step s label with
      | none => none
      | some (t, out) => exec step ok (history ++ out) t labels
    else none

theorem exec_run {ok : List ε → σ → α → Bool}
    (hok : ∀ history s label, ok history s label = true → allowed history s label)
    {labels : List α} {past history : List ε} {s t : σ} (run : Run step allowed start past s)
    (h : exec step ok past s labels = some (history, t)) :
    Run step allowed start history t := by
  induction labels generalizing past s with
  | nil =>
    obtain ⟨rfl, rfl⟩ : past = history ∧ s = t := by simpa [exec] using h
    exact run
  | cons label labels ih =>
    simp only [exec] at h
    split at h
    · rename_i hlabel
      cases hmove : step s label with
      | none => simp [hmove] at h
      | some next =>
        rw [hmove] at h
        exact ih (.tail run (hok _ _ _ hlabel) hmove) h
    · simp at h

theorem exec_run_mem {labels : List α} {past history : List ε} {s t : σ}
    (hallowed : ∀ label ∈ labels, ∀ history s, allowed history s label)
    (run : Run step allowed start past s)
    (h : exec step (fun _ _ _ => true) past s labels = some (history, t)) :
    Run step allowed start history t := by
  induction labels generalizing past s with
  | nil =>
    obtain ⟨rfl, rfl⟩ : past = history ∧ s = t := by simpa [exec] using h
    exact run
  | cons label labels ih =>
    simp only [exec, if_true] at h
    cases hmove : step s label with
    | none => simp [hmove] at h
    | some next =>
      rw [hmove] at h
      have hlabel := hallowed label List.mem_cons_self past s
      exact ih (fun label hmem => hallowed label (List.mem_cons_of_mem _ hmem))
        (.tail run hlabel hmove) h

end CrosswireNm.Library
