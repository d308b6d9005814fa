import CrosswireNm.Library.Words
import CrosswireNm.Service.State

/-!
# What NetworkManager is told

The signals of a connection, seen from outside, go round a small automaton: nothing announced,
starting, up, stopping or failed. The state machine behind its mutex follows it.
-/

namespace CrosswireNm.Service

open Library Computability

/-- A connection as an observer of the signals knows it. -/
inductive Phase
  | down
  | starting
  | up
  | stopping
  | failed
  deriving DecidableEq, Repr

/-- Which signal may come next. After `Failure` or `Stopping` only `Stopped` may. -/
def Phase.next : Phase → Signal → Option Phase
  | .down, .stateChanged .starting => some .starting
  | .starting, .stateChanged .started => some .up
  | .starting, .failure _ | .up, .failure _ => some .failed
  | .starting, .stateChanged .stopping | .up, .stateChanged .stopping => some .stopping
  | .starting, .stateChanged .stopped | .up, .stateChanged .stopped
  | .stopping, .stateChanged .stopped | .failed, .stateChanged .stopped => some .down
  | _, _ => none

def announce (state : ServiceState) : Language Signal := {[.stateChanged state]}

def anyFailure : Language Signal := {word | ∃ reason, word = [.failure reason]}

/-- `Starting Started? (Failure | Stopping)? Stopped`. -/
def sessionWords : Language Signal :=
  announce .starting * (1 + announce .started) * (1 + (anyFailure + announce .stopping)) *
    announce .stopped

def lastAnnounced (history : List Signal) : ServiceState :=
  history.foldl (fun last signal =>
    match signal with
    | .stateChanged state => state
    | .failure _ => last) .stopped

@[simp] theorem lastAnnounced_stateChanged (history : List Signal) (state : ServiceState) :
    lastAnnounced (history ++ [.stateChanged state]) = state := by
  simp [lastAnnounced]

/-! ## The automaton spells session words -/

/-- The beginnings of a session that may still fail, stop or be stopped. -/
inductive Begun : Phase → List Signal → Prop
  | starting : Begun .starting [.stateChanged .starting]
  | up : Begun .up [.stateChanged .starting, .stateChanged .started]

/-- The words that lead to a phase without a finished session in them. -/
def openWords : Phase → Language Signal
  | .down => {word | word = []}
  | .starting => {word | Begun .starting word}
  | .up => {word | Begun .up word}
  | .stopping =>
    {word | ∃ phase begun, Begun phase begun ∧ word = begun ++ [.stateChanged .stopping]}
  | .failed => {word | ∃ phase begun reason, Begun phase begun ∧ word = begun ++ [.failure reason]}

private theorem begun_stopped {phase : Phase} {word turn : List Signal} (h : Begun phase word)
    (hturn : turn ∈ 1 + (anyFailure + announce .stopping)) :
    word ++ turn ++ [.stateChanged .stopped] ∈ sessionWords := by
  have hhead : [Signal.stateChanged .starting] ∈ announce .starting := rfl
  have hlast : [Signal.stateChanged .stopped] ∈ announce .stopped := rfl
  refine Language.append_mem_mul (Language.append_mem_mul ?_ hturn) hlast
  cases h with
  | starting =>
    have hnone : [] ∈ 1 + announce .started := Or.inl rfl
    exact Language.append_mem_mul hhead hnone
  | up =>
    have hsome : [Signal.stateChanged .started] ∈ 1 + announce .started := Or.inr rfl
    exact Language.append_mem_mul hhead hsome

/-- Every open word can be closed by `Stopped`, and from `down` by a whole session. -/
private theorem openWords_stopped {phase : Phase} {word : List Signal}
    (hword : word ∈ openWords phase) (hphase : phase ≠ .down) :
    word ++ [.stateChanged .stopped] ∈ sessionWords := by
  cases phase with
  | down => exact absurd rfl hphase
  | starting | up =>
    have hnone : [] ∈ 1 + (anyFailure + announce .stopping) := Or.inl rfl
    simpa using begun_stopped hword hnone
  | stopping =>
    obtain ⟨_, begun, hbegun, rfl⟩ := hword
    exact begun_stopped hbegun (Or.inr (Or.inr rfl))
  | failed =>
    obtain ⟨_, begun, reason, hbegun, rfl⟩ := hword
    exact begun_stopped hbegun (Or.inr (Or.inl ⟨reason, rfl⟩))

/-- The edges of the automaton: each letter opens, continues or closes a session. -/
theorem Phase.next_cases {phase after : Phase} {signal : Signal}
    (h : phase.next signal = some after) :
    (phase = .down ∧ signal = .stateChanged .starting ∧ after = .starting) ∨
      (phase = .starting ∧ signal = .stateChanged .started ∧ after = .up) ∨
      ((phase = .starting ∨ phase = .up) ∧ (∃ reason, signal = .failure reason) ∧ after = .failed) ∨
      ((phase = .starting ∨ phase = .up) ∧ signal = .stateChanged .stopping ∧ after = .stopping) ∨
      (phase ≠ .down ∧ signal = .stateChanged .stopped ∧ after = .down) := by
  rcases signal with state | reason
  · cases phase <;> cases state <;>
      simp only [Phase.next, Option.some.injEq, reduceCtorEq] at h <;> subst h <;> simp
  · cases phase <;> simp only [Phase.next, Option.some.injEq, reduceCtorEq] at h <;>
      subst h <;> simp

theorem phase_laps : Laps Phase.next .down sessionWords openWords where
  home_mem := fun _ => Iff.rfl
  pass := by
    intro phase signal after word hnext hne hword
    rcases Phase.next_cases hnext with ⟨rfl, rfl, rfl⟩ | ⟨rfl, rfl, rfl⟩ |
      ⟨hphase, ⟨reason, rfl⟩, rfl⟩ | ⟨hphase, rfl, rfl⟩ | ⟨_, _, rfl⟩
    · obtain rfl : word = [] := hword
      exact Begun.starting
    · obtain ⟨⟩ : Begun .starting word := hword
      exact Begun.up
    · rcases hphase with rfl | rfl <;> exact ⟨_, word, reason, hword, rfl⟩
    · rcases hphase with rfl | rfl <;> exact ⟨_, word, hword, rfl⟩
    · exact absurd rfl hne
  close := by
    intro phase signal word hnext hword
    rcases Phase.next_cases hnext with ⟨_, _, h⟩ | ⟨_, _, h⟩ | ⟨_, _, h⟩ | ⟨_, _, h⟩ |
      ⟨hphase, rfl, _⟩
    · cases h
    · cases h
    · cases h
    · cases h
    · exact openWords_stopped hword hphase
  finish := by
    intro phase word hword
    by_cases hphase : phase = .down
    · subst hphase
      obtain rfl : word = [] := hword
      have hstarting : [Signal.stateChanged .starting] ∈ openWords .starting := Begun.starting
      exact ⟨[.stateChanged .starting, .stateChanged .stopped],
        openWords_stopped hstarting (by decide)⟩
    · exact ⟨_, openWords_stopped hword hphase⟩

/-! ## What a word of the automaton excludes -/

theorem accepted_not_twice {history before after : List Signal} {phase : Phase}
    {state : ServiceState} (h : accepts Phase.next .down history = some phase) :
    history ≠ before ++ .stateChanged state :: .stateChanged state :: after := by
  rintro rfl
  obtain ⟨_, mid, _, hfirst, h⟩ := accepts_split h
  obtain ⟨mid', last, hstay, hsecond, _⟩ := accepts_split (u := []) h
  obtain rfl : mid = mid' := Option.some.inj hstay
  rcases Phase.next_cases hfirst with ⟨_, hs, rfl⟩ | ⟨_, hs, rfl⟩ | ⟨_, ⟨_, hs⟩, rfl⟩ |
    ⟨_, hs, rfl⟩ | ⟨_, hs, rfl⟩ <;> cases hs <;> cases hsecond

theorem accepted_started {before after : List Signal} {phase : Phase}
    (h : accepts Phase.next .down (before ++ .stateChanged .started :: after) = some phase) :
    ∃ rest, before = rest ++ [.stateChanged .starting] := by
  obtain ⟨mid, _, hbefore, hstarted, _⟩ := accepts_split h
  have hmid : mid = .starting := by
    cases mid <;> simp [Phase.next] at hstarted ⊢
  subst mid
  obtain ⟨rest, signal, _, rfl, hin⟩ := accepts_last hbefore (by decide)
  rcases Phase.next_cases hin with ⟨_, rfl, _⟩ | ⟨_, _, h⟩ | ⟨_, _, h⟩ | ⟨_, _, h⟩ | ⟨_, _, h⟩
  · exact ⟨rest, rfl⟩
  all_goals cases h

private theorem next_failure {phase after : Phase} {reason : Failure}
    (h : phase.next (.failure reason) = some after) :
    after = .failed ∧ (phase = .starting ∨ phase = .up) := by
  cases phase <;> simp only [Phase.next, Option.some.injEq, reduceCtorEq] at h <;> subst h <;> simp

private theorem next_failed {signal : Signal} {after : Phase}
    (h : Phase.failed.next signal = some after) :
    signal = .stateChanged .stopped ∧ after = .down := by
  rcases Phase.next_cases h with ⟨h, _⟩ | ⟨h, _⟩ | ⟨h | h, _⟩ | ⟨h | h, _⟩ | ⟨_, hsignal, hafter⟩
  all_goals first | cases h | exact ⟨hsignal, hafter⟩

theorem accepted_failure {before after : List Signal} {phase : Phase} {reason : Failure}
    (h : accepts Phase.next .down (before ++ .failure reason :: after) = some phase) :
    (after = [] ∧ phase = .failed) ∨ ∃ rest, after = .stateChanged .stopped :: rest := by
  obtain ⟨_, mid, _, hfailure, hafter⟩ := accepts_split h
  obtain ⟨rfl, _⟩ := next_failure hfailure
  cases after with
  | nil => exact Or.inl ⟨rfl, (Option.some.inj hafter).symm⟩
  | cons signal rest =>
    obtain ⟨mid, last, hstay, hlast, _⟩ := accepts_split (u := []) hafter
    obtain rfl : .failed = mid := Option.some.inj hstay
    exact Or.inr ⟨rest, by rw [(next_failed hlast).1]⟩

private theorem starting_mem {word : List Signal} {phase phase' : Phase}
    (h : accepts Phase.next phase word = some phase') (hphase : phase = .down ∨ phase = .failed)
    (hphase' : phase' = .starting ∨ phase' = .up) : .stateChanged .starting ∈ word := by
  induction word generalizing phase with
  | nil =>
    obtain rfl : phase = phase' := Option.some.inj h
    rcases hphase with rfl | rfl <;> rcases hphase' with h | h <;> cases h
  | cons signal word ih =>
    obtain ⟨mid, after, hstay, hsignal, hrest⟩ := accepts_split (u := []) h
    obtain rfl : phase = mid := Option.some.inj hstay
    rcases hphase with rfl | rfl
    · have hstart : signal = .stateChanged .starting := by
        rcases Phase.next_cases hsignal with ⟨_, h, _⟩ | ⟨h, _⟩ | ⟨h | h, _⟩ | ⟨h | h, _⟩ | ⟨h, _⟩
        all_goals first | exact h | cases h | exact absurd rfl h
      rw [hstart]
      exact List.mem_cons_self
    · obtain ⟨_, rfl⟩ := next_failed hsignal
      exact List.mem_cons_of_mem _ (ih hrest (Or.inl rfl))

/-- A `Starting` stands before every `Failure`, and between any two of them. -/
theorem accepted_failure_starting {before after : List Signal} {phase : Phase}
    {reason : Failure}
    (h : accepts Phase.next .down (before ++ .failure reason :: after) = some phase) :
    .stateChanged .starting ∈ before ∧
      ∀ reason' mid rest, after = mid ++ .failure reason' :: rest →
        .stateChanged .starting ∈ mid := by
  obtain ⟨begun, _, hbefore, hfailure, hafter⟩ := accepts_split h
  obtain ⟨rfl, hbegun⟩ := next_failure hfailure
  refine ⟨starting_mem hbefore (Or.inl rfl) hbegun, ?_⟩
  rintro reason' mid rest rfl
  obtain ⟨begun', _, hmid, hfailure', _⟩ := accepts_split hafter
  exact starting_mem hmid (Or.inr rfl) (next_failure hfailure').2

/-! ## The state machine follows the automaton -/

/-- The phase a stored state stands for; the machine never drives NM into the other states. -/
def phaseOf : ServiceState → Option Phase
  | .stopped => some .down
  | .starting => some .starting
  | .started => some .up
  | .stopping => some .stopping
  | .unknown | .init | .shutdown => none

private theorem phaseOf_next {phase after : Phase} {state : ServiceState}
    (h : phase.next (.stateChanged state) = some after) : phaseOf state = some after := by
  rcases Phase.next_cases h with ⟨_, hs, rfl⟩ | ⟨_, hs, rfl⟩ | ⟨_, ⟨_, hs⟩, rfl⟩ |
    ⟨_, hs, rfl⟩ | ⟨_, hs, rfl⟩ <;> cases hs <;> rfl

/-- What the observer's phase and the last announcement say about the guarded state, at each
point of the call that holds the mutex. -/
inductive Pending (phase : Phase) (announced : ServiceState) : Mutex → Prop
  | free {inner : Inner} : phaseOf inner.state = some phase → inner.state = announced →
      inner.activeTx = activeIn inner.state → Pending phase announced ⟨inner, []⟩
  | failing {inner : Inner} {reason : Failure} : phase = .starting ∨ phase = .up →
      Pending phase announced ⟨inner, .emitFailure reason :: setBody .stopped⟩
  | setting {inner : Inner} {next : ServiceState} {after : Phase} :
      phase.next (.stateChanged next) = some after → Pending phase announced ⟨inner, setBody next⟩
  | publishing {inner : Inner} {after : Phase} :
      phase.next (.stateChanged inner.state) = some after →
      Pending phase announced ⟨inner, [.publish (activeIn inner.state), .emitState inner.state]⟩
  | announcing {inner : Inner} {after : Phase} :
      phase.next (.stateChanged inner.state) = some after →
      inner.activeTx = activeIn inner.state →
      Pending phase announced ⟨inner, [.emitState inner.state]⟩

/-- The history so far is a word of the automaton, and the machine is where the word says. -/
def Follows (history : List Signal) (mutex : Mutex) : Prop :=
  ∃ phase, accepts Phase.next .down history = some phase ∧
    Pending phase (lastAnnounced history) mutex

private theorem legal_next {state next : ServiceState} {phase : Phase}
    (hphase : phaseOf state = some phase) (hlegal : legal state next = true) :
    ∃ after, phase.next (.stateChanged next) = some after := by
  cases state <;> simp only [phaseOf, Option.some.injEq, reduceCtorEq] at hphase <;>
    subst hphase <;> cases next <;> first | exact ⟨_, rfl⟩ | cases hlegal

private theorem failsIn_phase {state : ServiceState} {phase : Phase}
    (hphase : phaseOf state = some phase) (hfails : failsIn state = true) :
    phase = .starting ∨ phase = .up := by
  cases state <;> simp only [phaseOf, Option.some.injEq, reduceCtorEq] at hphase <;>
    subst hphase <;> first | exact Or.inl rfl | exact Or.inr rfl | cases hfails

private theorem body_pending {inner : Inner} {phase : Phase} {announced : ServiceState}
    (hphase : phaseOf inner.state = some phase) (hlast : inner.state = announced)
    (hactive : inner.activeTx = activeIn inner.state) (call : Call) :
    Pending phase announced ⟨inner, call.body inner⟩ := by
  match call with
  | .to next =>
    simp only [Call.body]
    split
    · exact .free hphase hlast hactive
    · split
      · rename_i hlegal
        exact .setting (legal_next hphase hlegal).choose_spec
      · exact .free hphase hlast hactive
  | .fail reason =>
    simp only [Call.body]
    split
    · rename_i hfails
      exact .failing (failsIn_phase hphase hfails)
    · exact .free hphase hlast hactive

theorem mutexStep_follows {history out : List Signal} {mutex next : Mutex} {label : MutexLabel}
    (h : Follows history mutex) (hstep : mutexStep mutex label = some (next, out)) :
    Follows (history ++ out) next := by
  obtain ⟨phase, hword, hpending⟩ := h
  cases label with
  | lock call =>
    cases hpending with
    | free hphase hlast hactive =>
      obtain ⟨rfl, rfl⟩ := Prod.mk.inj (Option.some.inj hstep)
      rw [List.append_nil]
      exact ⟨phase, hword, body_pending hphase hlast hactive call⟩
    | _ => cases hstep
  | advance =>
    cases hpending with
    | free => cases hstep
    | failing hphase =>
      obtain ⟨rfl, rfl⟩ := Prod.mk.inj (Option.some.inj hstep)
      refine ⟨.failed, accepts_snoc hword ?_, .setting rfl⟩
      rcases hphase with rfl | rfl <;> rfl
    | setting hnext =>
      obtain ⟨rfl, rfl⟩ := Prod.mk.inj (Option.some.inj hstep)
      rw [Instr.run, List.append_nil]
      exact ⟨phase, hword, .publishing hnext⟩
    | publishing hnext =>
      obtain ⟨rfl, rfl⟩ := Prod.mk.inj (Option.some.inj hstep)
      rw [Instr.run, List.append_nil]
      exact ⟨phase, hword, .announcing hnext rfl⟩
    | announcing hnext hactive =>
      obtain ⟨rfl, rfl⟩ := Prod.mk.inj (Option.some.inj hstep)
      refine ⟨_, accepts_snoc hword hnext, .free (phaseOf_next hnext) ?_ hactive⟩
      exact (lastAnnounced_stateChanged history _).symm

theorem mutex_follows {history : List Signal} {mutex : Mutex}
    (run : Run mutexStep anyLabel .new history mutex) : Follows history mutex :=
  run.invariant Follows ⟨.down, rfl, .free rfl rfl rfl⟩ (fun _ _ _ _ _ h _ => mutexStep_follows h)

private theorem pending_free {phase : Phase} {announced : ServiceState} {mutex : Mutex}
    (h : Pending phase announced mutex) (hfree : mutex.body = []) :
    phaseOf mutex.inner.state = some phase ∧ mutex.inner.state = announced ∧
      mutex.inner.activeTx = activeIn mutex.inner.state := by
  cases h with
  | free hphase hlast hactive => exact ⟨hphase, hlast, hactive⟩
  | _ => cases hfree

private theorem phaseOf_some {state : ServiceState} {phase : Phase}
    (h : phaseOf state = some phase) :
    phase ≠ .failed ∧ state ∉ [ServiceState.unknown, .init, .shutdown] ∧
      (activeIn state = true ↔ state ∈ [ServiceState.starting, .started, .stopping]) := by
  cases state <;> simp only [phaseOf, Option.some.injEq, reduceCtorEq] at h <;> subst h <;> decide

/-- In every interleaving of `to` and `fail` calls the signals are a prefix of a sequence of
sessions, and whenever the mutex is free the stored state and the activity flag agree with the
last state announced. -/
theorem state_histories {history : List Signal} {mutex : Mutex}
    (run : Run mutexStep anyLabel .new history mutex) :
    (∃ word ∈ sessionWords∗, history <+: word) ∧
      (∀ before after state,
        history ≠ before ++ .stateChanged state :: .stateChanged state :: after) ∧
      (∀ before after, history = before ++ .stateChanged .started :: after →
        ∃ rest, before = rest ++ [.stateChanged .starting]) ∧
      (∀ before reason after, history = before ++ .failure reason :: after →
        (after = [] ∧ mutex.body ≠ [] ∨ ∃ rest, after = .stateChanged .stopped :: rest) ∧
        .stateChanged .starting ∈ before ∧
        ∀ reason' mid rest, after = mid ++ .failure reason' :: rest →
          .stateChanged .starting ∈ mid) ∧
      (mutex.body = [] → mutex.inner.state = lastAnnounced history ∧
        mutex.inner.state ∉ [ServiceState.unknown, .init, .shutdown] ∧
        (mutex.inner.activeTx = true ↔
          mutex.inner.state ∈ [ServiceState.starting, .started, .stopping])) := by
  obtain ⟨phase, hword, hpending⟩ := mutex_follows run
  refine ⟨phase_laps.isPrefix hword, fun _ _ _ => accepted_not_twice hword, ?_, ?_, ?_⟩
  · rintro before after rfl
    exact accepted_started hword
  · rintro before reason after rfl
    refine ⟨?_, accepted_failure_starting hword⟩
    rcases accepted_failure hword with ⟨rfl, rfl⟩ | hstopped
    · refine Or.inl ⟨rfl, fun hfree => ?_⟩
      exact (phaseOf_some (pending_free hpending hfree).1).1 rfl
    · exact Or.inr hstopped
  · intro hfree
    obtain ⟨hphase, hlast, hactive⟩ := pending_free hpending hfree
    obtain ⟨_, hdriven, hiff⟩ := phaseOf_some hphase
    exact ⟨hlast, hdriven, by rw [hactive]; exact hiff⟩

def failedSession : List MutexLabel :=
  [.lock (.to .starting), .advance, .advance, .advance,
    .lock (.to .started), .advance, .advance, .advance,
    .lock (.fail .connectFailed), .advance, .advance, .advance, .advance,
    .lock (.fail .connectFailed)]

theorem state_histories_failedSession :
    ∃ word ∈ sessionWords∗, [.stateChanged .starting, .stateChanged .started,
      .failure .connectFailed, .stateChanged .stopped] <+: word := by
  have hexec : exec mutexStep (fun _ _ _ => true) [] .new failedSession =
      some ([.stateChanged .starting, .stateChanged .started, .failure .connectFailed,
        .stateChanged .stopped], ⟨⟨.stopped, false⟩, []⟩) := rfl
  exact (state_histories (exec_run (fun _ _ _ _ => trivial) .refl hexec)).1

end CrosswireNm.Service
