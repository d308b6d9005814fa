import CrosswireNm.Library.Machine
import CrosswireNm.Service.CertTrust
import CrosswireNm.Service.Nm

/-!
# The watcher of one crosswire session

The watcher task owns the child and goes round one loop. `Point` names the places where it can
be suspended, so that everything else may happen between two of its steps; a `select!` polls its
branches in the order written, one step each. Timers may end at any time. `wait()` returns only
for a child that has exited.
-/

namespace CrosswireNm.Service

open Library

def second : Nat := 1000000000

/-- A crosswire that dies within this time of its launch, while the connection is still
`Starting`, is worth retrying in place. -/
def fastFailureWindow : Nat := 10 * second

def maxRetries : Nat := 2

/-- Where the watcher is suspended. -/
inductive Point
  /-- the first `spawn_child` still writes the child's stdin, and there is no task yet -/
  | unwatched
  /-- `select!` at the top of the loop, about to poll `stop_rx` -/
  | stopPoll
  /-- the same `select!`, `stop_rx` was empty, about to poll `wait()` -/
  | childPoll
  /-- SIGTERM is sent, `wait()` has its 8 s -/
  | terminating (acks : Bool)
  /-- SIGKILL is sent, `wait()` has no limit -/
  | killing (acks : Bool)
  | draining
  /-- the verdict is read, `state.current()` is not -/
  | judging (verdict : Option String) (fast : Bool)
  | backoffStopPoll
  | backoffSleepPoll
  | respawning
  /-- the new child runs, its stdin is being written -/
  | feeding
  | prompting (digest : String)
  | reportStopped
  | reportFailure
  /-- about to return, the receiver is not dropped yet -/
  | returning
  | ended
  deriving DecidableEq, Repr

/-- The life of a stop request and its acknowledgement. -/
inductive Request
  | none
  | buffered
  | taken
  | acked
  | dropped
  deriving DecidableEq, Repr

structure Watcher where
  point : Point
  /-- `none` while the child lives, then whether `wait()` yields a successful status. -/
  exit : Option Bool
  scanner : CertScanner
  retries : Nat
  request : Request
  senderDropped : Bool
  deriving DecidableEq, Repr

def Watcher.spawned : Watcher := ⟨.unwatched, none, {}, 0, .none, false⟩

def Watcher.watched (w : Watcher) : Watcher := { w with point := .stopPoll }

inductive Recv
  | pending
  | request
  | closed
  deriving DecidableEq, Repr

/-- What polling `stop_rx.recv()` yields: a buffered request first, `None` once the sender is
gone. -/
def Watcher.recv (w : Watcher) : Recv :=
  if w.request = .buffered then .request
  else if w.senderDropped then .closed
  else .pending

def Watcher.send (w : Watcher) : Option Watcher :=
  if w.point = .ended then none else some { w with request := .buffered }

def Watcher.dropSender (w : Watcher) : Watcher := { w with senderDropped := true }

/-- `ack_rx` resolves: the acknowledgement came, or its sender was dropped. -/
def Watcher.answered (w : Watcher) : Bool := w.request == .acked || w.request == .dropped

/-- The watcher has been asked to tear down: by a request, or by a closed channel. -/
def Watcher.asked (w : Watcher) : Bool := w.request != .none || w.senderDropped

/-- What the world does to a session (`exits`, `line`) and what the watcher does next. -/
inductive Act
  | exits (success : Bool)
  | line (text : String)
  | pollStop
  | pollChild
  | termTimeout
  | reap
  | drain (elapsed : Nat)
  | judge (seen : ServiceState)
  | pollSleep (elapsed : Bool)
  | respawn (succeeds : Bool)
  | feed
  | prompt
  | report
  | finish
  deriving DecidableEq, Repr

inductive Report
  | stopped
  | failed
  deriving DecidableEq, Repr

inductive WatcherEvent
  | launch (succeeds : Bool)
  | exited (success : Bool)
  | judged (seen : ServiceState) (verdict : Option String)
  | dialog (digest : String)
  | report (report : Report)
  /-- the loop is left for a stop request, or for a closed channel -/
  | served (acks : Bool)
  deriving DecidableEq, Repr

def Watcher.judge (w : Watcher) (verdict : Option String) (fast : Bool) (seen : ServiceState) :
    Watcher × List WatcherEvent :=
  match classifyExit verdict fast (seen == .starting) w.retries maxRetries with
  | .retry =>
    ({ w with point := .backoffStopPoll, retries := w.retries + 1 }, [.judged seen verdict])
  | .promptCert digest =>
    ({ w with point := .prompting digest }, [.judged seen verdict, .dialog digest])
  | .fail => ({ w with point := .reportFailure }, [.judged seen verdict])

def Watcher.step : Step Watcher Act WatcherEvent := fun w act =>
  match act with
  | .exits success => if w.exit = none then some ({ w with exit := some success }, []) else none
  | .line text => some ({ w with scanner := w.scanner.observe text }, [])
  | .pollStop =>
    match w.point, w.recv with
    | .stopPoll, .pending => some ({ w with point := .childPoll }, [])
    | .stopPoll, .request =>
      some ({ w with point := .terminating true, request := .taken }, [.served true])
    | .stopPoll, .closed => some ({ w with point := .terminating false }, [.served false])
    | .backoffStopPoll, .pending => some ({ w with point := .backoffSleepPoll }, [])
    | .backoffStopPoll, .request =>
      some ({ w with point := .returning, request := .acked }, [.served true])
    | .backoffStopPoll, .closed => some ({ w with point := .returning }, [.served false])
    | _, _ => none
  | .pollChild =>
    match w.point, w.exit with
    | .childPoll, none => some ({ w with point := .stopPoll }, [])
    | .childPoll, some true => some ({ w with point := .reportStopped }, [.exited true])
    | .childPoll, some false => some ({ w with point := .draining }, [.exited false])
    | _, _ => none
  | .termTimeout =>
    match w.point with
    | .terminating acks => some ({ w with point := .killing acks }, [])
    | _ => none
  | .reap =>
    match w.point, w.exit with
    | .terminating acks, some _ | .killing acks, some _ =>
      some ({ w with point := .returning, request := if acks then .acked else w.request }, [])
    | _, _ => none
  | .drain elapsed =>
    match w.point with
    | .draining =>
      some ({ w with point := .judging w.scanner.certChange (elapsed < fastFailureWindow) }, [])
    | _ => none
  | .judge seen =>
    match w.point with
    | .judging verdict fast => some (w.judge verdict fast seen)
    | _ => none
  | .pollSleep elapsed =>
    match w.point with
    | .backoffSleepPoll =>
      some ({ w with point := if elapsed then .respawning else .backoffStopPoll }, [])
    | _ => none
  | .respawn succeeds =>
    match w.point, succeeds with
    | .respawning, true =>
      some ({ w with point := .feeding, exit := none, scanner := {} }, [.launch true])
    | .respawning, false => some ({ w with point := .reportFailure }, [.launch false])
    | _, _ => none
  | .feed =>
    match w.point with
    | .feeding => some ({ w with point := .stopPoll }, [])
    | _ => none
  | .prompt =>
    match w.point with
    | .prompting _ => some ({ w with point := .reportFailure }, [])
    | _ => none
  | .report =>
    match w.point with
    | .reportStopped => some ({ w with point := .returning }, [.report .stopped])
    | .reportFailure => some ({ w with point := .returning }, [.report .failed])
    | _ => none
  | .finish =>
    match w.point with
    | .returning =>
      some ({ w with
        point := .ended
        request := if w.request = .buffered then .dropped else w.request }, [])
    | _ => none

/-! ## The moves by name -/

inductive Watcher.Moves : Watcher → Act → Watcher → List WatcherEvent → Prop
  | exits {w : Watcher} {success : Bool} : w.exit = none →
      Moves w (.exits success) { w with exit := some success } []
  | line {w : Watcher} {text : String} :
      Moves w (.line text) { w with scanner := w.scanner.observe text } []
  | noStop {w : Watcher} : w.point = .stopPoll → w.recv = .pending →
      Moves w .pollStop { w with point := .childPoll } []
  | stop {w : Watcher} : w.point = .stopPoll → w.request = .buffered →
      Moves w .pollStop { w with point := .terminating true, request := .taken } [.served true]
  | closed {w : Watcher} : w.point = .stopPoll → w.recv = .closed →
      Moves w .pollStop { w with point := .terminating false } [.served false]
  | backoffNoStop {w : Watcher} : w.point = .backoffStopPoll → w.recv = .pending →
      Moves w .pollStop { w with point := .backoffSleepPoll } []
  | backoffStop {w : Watcher} : w.point = .backoffStopPoll → w.request = .buffered →
      Moves w .pollStop { w with point := .returning, request := .acked } [.served true]
  | backoffClosed {w : Watcher} : w.point = .backoffStopPoll → w.recv = .closed →
      Moves w .pollStop { w with point := .returning } [.served false]
  | childLives {w : Watcher} : w.point = .childPoll → w.exit = none →
      Moves w .pollChild { w with point := .stopPoll } []
  | cleanExit {w : Watcher} : w.point = .childPoll → w.exit = some true →
      Moves w .pollChild { w with point := .reportStopped } [.exited true]
  | badExit {w : Watcher} : w.point = .childPoll → w.exit = some false →
      Moves w .pollChild { w with point := .draining } [.exited false]
  | termTimeout {w : Watcher} {acks : Bool} : w.point = .terminating acks →
      Moves w .termTimeout { w with point := .killing acks } []
  | reap {w : Watcher} {acks : Bool} : w.point = .terminating acks ∨ w.point = .killing acks →
      w.exit ≠ none →
      Moves w .reap
        { w with point := .returning, request := if acks then .acked else w.request } []
  | drain {w : Watcher} {elapsed : Nat} : w.point = .draining →
      Moves w (.drain elapsed)
        { w with point := .judging w.scanner.certChange (elapsed < fastFailureWindow) } []
  | retry {w : Watcher} {seen : ServiceState} : w.point = .judging none true →
      seen = .starting → w.retries < maxRetries →
      Moves w (.judge seen) { w with point := .backoffStopPoll, retries := w.retries + 1 }
        [.judged seen none]
  | promptCert {w : Watcher} {seen : ServiceState} {digest : String} {fast : Bool} :
      w.point = .judging (some digest) fast → seen = .starting →
      Moves w (.judge seen) { w with point := .prompting digest }
        [.judged seen (some digest), .dialog digest]
  | fail {w : Watcher} {seen : ServiceState} {verdict : Option String} {fast : Bool} :
      w.point = .judging verdict fast →
      Moves w (.judge seen) { w with point := .reportFailure } [.judged seen verdict]
  | sleepOver {w : Watcher} : w.point = .backoffSleepPoll →
      Moves w (.pollSleep true) { w with point := .respawning } []
  | sleepOn {w : Watcher} : w.point = .backoffSleepPoll →
      Moves w (.pollSleep false) { w with point := .backoffStopPoll } []
  | respawn {w : Watcher} : w.point = .respawning →
      Moves w (.respawn true) { w with point := .feeding, exit := none, scanner := {} }
        [.launch true]
  | respawnFails {w : Watcher} : w.point = .respawning →
      Moves w (.respawn false) { w with point := .reportFailure } [.launch false]
  | feed {w : Watcher} : w.point = .feeding →
      Moves w .feed { w with point := .stopPoll } []
  | prompt {w : Watcher} {digest : String} : w.point = .prompting digest →
      Moves w .prompt { w with point := .reportFailure } []
  | reportStopped {w : Watcher} : w.point = .reportStopped →
      Moves w .report { w with point := .returning } [.report .stopped]
  | reportFailure {w : Watcher} : w.point = .reportFailure →
      Moves w .report { w with point := .returning } [.report .failed]
  | finish {w : Watcher} : w.point = .returning →
      Moves w .finish { w with
        point := .ended
        request := if w.request = .buffered then .dropped else w.request } []

theorem Watcher.recv_request {w : Watcher} (h : w.recv = .request) : w.request = .buffered := by
  unfold Watcher.recv at h
  split at h
  · assumption
  · split at h <;> cases h

theorem Watcher.recv_dropSender (w : Watcher) : w.dropSender.recv ≠ .pending := by
  simp only [Watcher.recv, Watcher.dropSender]
  split <;> simp

private theorem Watcher.judge_moves {w : Watcher} {verdict : Option String} {fast : Bool}
    (seen : ServiceState) (h : w.point = .judging verdict fast) :
    w.Moves (.judge seen) (w.judge verdict fast seen).1 (w.judge verdict fast seen).2 := by
  unfold Watcher.judge
  split
  · rename_i hretry
    obtain ⟨hseen, rfl, rfl, hretries⟩ := classifyExit_retry hretry
    exact .retry h (by simpa using hseen) hretries
  · rename_i digest hprompt
    obtain ⟨hseen, rfl⟩ := classifyExit_promptCert hprompt
    exact .promptCert h (by simpa using hseen)
  · exact .fail h

theorem Watcher.step_moves {w v : Watcher} {act : Act} {out : List WatcherEvent}
    (h : w.step act = some (v, out)) : w.Moves act v out := by
  cases act with
  | exits success =>
    simp only [Watcher.step] at h
    split at h
    · cases h
      exact .exits ‹_›
    · cases h
  | line text =>
    cases h
    exact .line
  | pollStop =>
    simp only [Watcher.step] at h
    split at h <;> cases h
    · exact .noStop ‹_› ‹_›
    · exact .stop ‹_› (recv_request ‹_›)
    · exact .closed ‹_› ‹_›
    · exact .backoffNoStop ‹_› ‹_›
    · exact .backoffStop ‹_› (recv_request ‹_›)
    · exact .backoffClosed ‹_› ‹_›
  | pollChild =>
    simp only [Watcher.step] at h
    split at h <;> cases h
    · exact .childLives ‹_› ‹_›
    · exact .cleanExit ‹_› ‹_›
    · exact .badExit ‹_› ‹_›
  | termTimeout =>
    simp only [Watcher.step] at h
    split at h <;> cases h
    exact .termTimeout ‹_›
  | reap =>
    simp only [Watcher.step] at h
    split at h <;> cases h
    · rename_i hpoint hexit
      exact .reap (Or.inl hpoint) (by simp [hexit])
    · rename_i hpoint hexit
      exact .reap (Or.inr hpoint) (by simp [hexit])
  | drain elapsed =>
    simp only [Watcher.step] at h
    split at h <;> cases h
    exact .drain ‹_›
  | judge seen =>
    simp only [Watcher.step] at h
    split at h
    · rename_i hpoint
      have hmoves := judge_moves seen hpoint
      rw [Option.some.inj h] at hmoves
      exact hmoves
    · cases h
  | pollSleep elapsed =>
    simp only [Watcher.step] at h
    split at h <;> cases h
    cases elapsed
    · exact .sleepOn ‹_›
    · exact .sleepOver ‹_›
  | respawn succeeds =>
    simp only [Watcher.step] at h
    split at h <;> cases h
    · exact .respawn ‹_›
    · exact .respawnFails ‹_›
  | feed =>
    simp only [Watcher.step] at h
    split at h <;> cases h
    exact .feed ‹_›
  | prompt =>
    simp only [Watcher.step] at h
    split at h <;> cases h
    exact .prompt ‹_›
  | report =>
    simp only [Watcher.step] at h
    split at h <;> cases h
    · exact .reportStopped ‹_›
    · exact .reportFailure ‹_›
  | finish =>
    simp only [Watcher.step] at h
    split at h <;> cases h
    exact .finish ‹_›

end CrosswireNm.Service
