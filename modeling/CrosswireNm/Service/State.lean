import CrosswireNm.Library.Machine
import CrosswireNm.Service.Nm

/-!
# The connection state machine

Every clone of `State` shares one `Inner` behind a mutex, so a call of `to` or `fail` runs alone.
`Inner.to` and `Inner.fail` are the whole calls; `mutexStep` runs them piece by piece.
-/

namespace CrosswireNm.Service

open Library

/-- What the mutex guards: the stored state and the last value sent on `active_tx`. -/
structure Inner where
  state : ServiceState
  activeTx : Bool
  deriving DecidableEq, Repr

def Inner.new : Inner := ⟨.stopped, false⟩

/-- The allowed edges of the state machine. -/
def legal (source target : ServiceState) : Bool :=
  match target with
  | .starting => source == .unknown || source == .init || source == .stopped
  | .started => source == .starting
  | .stopping => source == .starting || source == .started
  | .stopped => source == .starting || source == .started || source == .stopping
  | .init | .shutdown | .unknown => false

def activeIn (state : ServiceState) : Bool :=
  !(state == .stopped || state == .init || state == .shutdown || state == .unknown)

def failsIn (state : ServiceState) : Bool := state == .starting || state == .started

def Inner.set (_inner : Inner) (next : ServiceState) : Inner × List Signal :=
  (⟨next, activeIn next⟩, [.stateChanged next])

/-- Request a transition; an illegal or duplicate one is ignored. -/
def Inner.to (inner : Inner) (next : ServiceState) : Inner × List Signal :=
  if inner.state = next then (inner, [])
  else if legal inner.state next then inner.set next
  else (inner, [])

/-- Report a failure of the active connection: `Failure`, then `Stopped`. -/
def Inner.fail (inner : Inner) (reason : Failure) : Inner × List Signal :=
  if failsIn inner.state then
    ((inner.set .stopped).1, .failure reason :: (inner.set .stopped).2)
  else (inner, [])

inductive Call
  | to (next : ServiceState)
  | fail (reason : Failure)
  deriving DecidableEq, Repr

def Inner.call (inner : Inner) : Call → Inner × List Signal
  | .to next => inner.to next
  | .fail reason => inner.fail reason

inductive Instr
  | emitFailure (reason : Failure)
  | store (next : ServiceState)
  | publish (active : Bool)
  | emitState (next : ServiceState)
  deriving DecidableEq, Repr

def Instr.run (inner : Inner) : Instr → Inner × List Signal
  | .emitFailure reason => (inner, [.failure reason])
  | .store next => ({ inner with state := next }, [])
  | .publish active => ({ inner with activeTx := active }, [])
  | .emitState next => (inner, [.stateChanged next])

def setBody (next : ServiceState) : List Instr :=
  [.store next, .publish (activeIn next), .emitState next]

/-- What a call does once it has the mutex, after its own checks. -/
def Call.body (inner : Inner) : Call → List Instr
  | .to next =>
    if inner.state = next then []
    else if legal inner.state next then setBody next
    else []
  | .fail reason => if failsIn inner.state then .emitFailure reason :: setBody .stopped else []

/-- The shared state and the rest of the body of the call that holds the mutex; the mutex is
free when nothing is left. -/
structure Mutex where
  inner : Inner
  body : List Instr

/-- Either a waiting call gets the mutex, or the call that has it goes on. -/
inductive MutexLabel
  | lock (call : Call)
  | advance

def Mutex.new : Mutex := ⟨.new, []⟩

def mutexStep : Step Mutex MutexLabel Signal
  | ⟨inner, []⟩, .lock call => some (⟨inner, call.body inner⟩, [])
  | ⟨inner, instr :: body⟩, .advance => some (⟨(instr.run inner).1, body⟩, (instr.run inner).2)
  | ⟨_, []⟩, .advance => none
  | ⟨_, _ :: _⟩, .lock _ => none

def runBody (inner : Inner) : List Instr → Inner × List Signal
  | [] => (inner, [])
  | instr :: body =>
    ((runBody (instr.run inner).1 body).1,
      (instr.run inner).2 ++ (runBody (instr.run inner).1 body).2)

theorem runBody_call (inner : Inner) (call : Call) :
    runBody inner (call.body inner) = inner.call call := by
  match call with
  | .to next =>
    simp only [Call.body, Inner.call, Inner.to]
    split
    · rfl
    · split <;> rfl
  | .fail reason =>
    simp only [Call.body, Inner.call, Inner.fail]
    split <;> rfl

/-- A mutex whose holder is let go on reaches the free state its body computes. -/
theorem mutex_runs_body (inner : Inner) (body : List Instr) (history : List Signal)
    {start : Mutex} (run : Run mutexStep anyLabel start history ⟨inner, body⟩) :
    Run mutexStep anyLabel start (history ++ (runBody inner body).2)
      ⟨(runBody inner body).1, []⟩ := by
  induction body generalizing inner history with
  | nil => simpa [runBody] using run
  | cons instr body ih =>
    have hstep : mutexStep ⟨inner, instr :: body⟩ .advance =
        some (⟨(instr.run inner).1, body⟩, (instr.run inner).2) := rfl
    have h := ih _ _ (run.tail trivial hstep)
    simpa only [runBody, List.append_assoc] using h

/-- A whole call is one way to run the mutex: from free to free with the call's signals. -/
theorem mutex_runs_call (inner : Inner) (call : Call) (history : List Signal)
    {start : Mutex} (run : Run mutexStep anyLabel start history ⟨inner, []⟩) :
    Run mutexStep anyLabel start (history ++ (inner.call call).2) ⟨(inner.call call).1, []⟩ := by
  have hstep : mutexStep ⟨inner, []⟩ (.lock call) = some (⟨inner, call.body inner⟩, []) := rfl
  have h := mutex_runs_body _ _ _ (run.tail trivial hstep)
  simpa only [runBody_call, List.append_nil] using h

/-! ## What whole calls do -/

@[simp] theorem Inner.set_state (inner : Inner) (next : ServiceState) :
    (inner.set next).1.state = next := rfl

theorem Inner.to_cases (inner : Inner) (next : ServiceState) :
    (inner.to next = (inner, []) ∧ (inner.state = next ∨ legal inner.state next = false)) ∨
      (inner.to next = inner.set next ∧ inner.state ≠ next ∧ legal inner.state next = true) := by
  unfold Inner.to
  split
  · rename_i h
    exact Or.inl ⟨rfl, Or.inl h⟩
  · rename_i hne
    split
    · rename_i hlegal
      exact Or.inr ⟨rfl, hne, hlegal⟩
    · rename_i hlegal
      exact Or.inl ⟨rfl, Or.inr (by simpa using hlegal)⟩

theorem Inner.fail_cases (inner : Inner) (reason : Failure) :
    (inner.fail reason = (inner, []) ∧ failsIn inner.state = false) ∨
      (inner.fail reason = (⟨.stopped, false⟩, [.failure reason, .stateChanged .stopped]) ∧
        failsIn inner.state = true) := by
  unfold Inner.fail
  split
  · rename_i h
    exact Or.inr ⟨rfl, h⟩
  · rename_i h
    exact Or.inl ⟨rfl, by simpa using h⟩

theorem Inner.call_announces {inner : Inner} {call : Call} {next : ServiceState}
    {before after : List Signal} (h : (inner.call call).2 = before ++ .stateChanged next :: after)
    (hnext : next ≠ .stopped) :
    before = [] ∧ after = [] ∧ call = .to next ∧ legal inner.state next = true := by
  match call with
  | .to asked =>
    rcases inner.to_cases asked with ⟨hsame, _⟩ | ⟨hset, _, hlegal⟩
    · simp [Inner.call, hsame] at h
    · simp only [Inner.call, hset, Inner.set] at h
      cases before with
      | nil =>
        obtain ⟨rfl, rfl⟩ : asked = next ∧ after = [] := by simpa using h
        exact ⟨rfl, rfl, rfl, hlegal⟩
      | cons => simp at h
  | .fail reason =>
    rcases inner.fail_cases reason with ⟨hsame, _⟩ | ⟨hstopped, _⟩
    · simp [Inner.call, hsame] at h
    · rcases before with _ | ⟨_, _ | ⟨_, before⟩⟩ <;> simp [Inner.call, hstopped] at h
      exact absurd h.2.1.symm hnext

end CrosswireNm.Service
