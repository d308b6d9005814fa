import CrosswireNm.Service.Supervisor

/-!
# One watcher and its supervisor

What each move of a watcher may change, and from it what whole runs of one watcher and the
`Supervisor` that may stop it guarantee, whatever the child, the timers and the state do.
-/

namespace CrosswireNm.Service

open Library

/-! ## The child -/

def Point.reaped : Point → Bool
  | .draining | .judging _ _ | .backoffStopPoll | .backoffSleepPoll | .respawning
  | .prompting _ | .reportStopped | .reportFailure | .returning | .ended => true
  | .unwatched | .stopPoll | .childPoll | .terminating _ | .killing _ | .feeding => false

def Point.serving : Point → Bool
  | .terminating _ | .killing _ => true
  | _ => false

/-- The watcher is past its loop and past its report. -/
def Point.over : Point → Bool
  | .returning | .ended => true
  | _ => false

/-- What a watcher's point says about its child and about the stop request. -/
structure Watcher.Sound (w : Watcher) : Prop where
  reaped : w.point.reaped = true → w.exit ≠ none
  answered : w.answered = true → w.point.over = true
  serving : w.point.serving = true → w.asked = true

theorem Point.reaped_of_over {point : Point} (h : point.over = true) : point.reaped = true := by
  cases point <;> first | rfl | cases h

theorem Watcher.sound_spawned : Watcher.spawned.Sound := ⟨nofun, nofun, nofun⟩

theorem Watcher.sound_watched : Watcher.spawned.watched.Sound := ⟨nofun, nofun, nofun⟩

/-- A watcher that is over has lost its child. -/
theorem Watcher.Sound.dead {w : Watcher} (h : w.Sound) (hover : w.point.over = true) :
    w.exit ≠ none :=
  h.reaped (Point.reaped_of_over hover)

private theorem Watcher.Moves.answered {w v : Watcher} {act : Act} {out : List WatcherEvent}
    (h : w.Moves act v out) (hw : w.answered = true → w.point.over = true) :
    v.answered = true → v.point.over = true := by
  cases h with
  | backoffStop | backoffClosed | reap | reportStopped | reportFailure | finish => intro _; rfl
  | exits | line => exact hw
  | stop => nofun
  | _ =>
    intro hv
    have hover := hw hv
    simp_all [Point.over]

private theorem Watcher.Moves.reaped {w v : Watcher} {act : Act} {out : List WatcherEvent}
    (h : w.Moves act v out) (hw : w.point.reaped = true → w.exit ≠ none) :
    v.point.reaped = true → v.exit ≠ none := by
  cases h with
  | exits => intro _; nofun
  | line => exact hw
  | noStop | stop | closed | childLives | termTimeout | feed => nofun
  | respawn => nofun
  | cleanExit _ hexit | badExit _ hexit => intro _; simp [hexit]
  | reap _ hexit => exact fun _ => hexit
  | _ => intro _; apply hw; simp_all [Point.reaped]

/-- Nothing but its owner asks a watcher to tear down, and no request is forgotten. -/
theorem Watcher.Moves.asked {w v : Watcher} {act : Act} {out : List WatcherEvent}
    (h : w.Moves act v out) (hw : w.point.serving = true → w.asked = true) :
    v.asked = w.asked := by
  cases h with
  | stop _ hrequest | backoffStop _ hrequest =>
    simp only [Watcher.asked, hrequest]
    rfl
  | @reap acks hpoint =>
    have hserving : w.point.serving = true := by
      rcases hpoint with hpoint | hpoint <;> simp [hpoint, Point.serving]
    rw [hw hserving]
    cases acks
    · exact hw hserving
    · rfl
  | finish =>
    simp only [Watcher.asked]
    split
    · rename_i hrequest
      rw [hrequest]
      rfl
    · rfl
  | _ => rfl

theorem Watcher.recv_asked {w : Watcher} (h : w.recv = .closed) : w.asked = true := by
  unfold Watcher.recv at h
  split at h
  · cases h
  · split at h
    · rename_i hdropped
      simp [Watcher.asked, hdropped]
    · cases h

private theorem Watcher.Moves.serving {w v : Watcher} {act : Act} {out : List WatcherEvent}
    (h : w.Moves act v out) (hw : w.point.serving = true → w.asked = true) :
    v.point.serving = true → v.asked = true := by
  rw [h.asked hw]
  cases h with
  | exits | line => exact hw
  | stop _ hrequest => intro _; simp [Watcher.asked, hrequest]
  | closed _ hclosed => intro _; exact Watcher.recv_asked hclosed
  | termTimeout hpoint => intro _; exact hw (by simp [hpoint, Point.serving])
  | _ => nofun

theorem Watcher.Moves.sound {w v : Watcher} {act : Act} {out : List WatcherEvent}
    (h : w.Moves act v out) (hw : w.Sound) : v.Sound :=
  ⟨h.reaped hw.reaped, h.answered hw.answered, h.serving hw.serving⟩

theorem Watcher.Sound.buffered {w : Watcher} (hw : w.Sound) :
    Watcher.Sound { w with request := .buffered } :=
  ⟨hw.reaped, nofun, fun _ => rfl⟩

theorem Watcher.Sound.dropSender {w : Watcher} (hw : w.Sound) : w.dropSender.Sound :=
  ⟨hw.reaped, hw.answered, fun _ => by simp [Watcher.asked, Watcher.dropSender]⟩

/-- A watcher that is over stays over and says nothing. -/
theorem Watcher.Moves.over {w v : Watcher} {act : Act} {out : List WatcherEvent}
    (h : w.Moves act v out) (hw : w.point.over = true) : v.point.over = true ∧ out = [] := by
  cases h with
  | exits | line => exact ⟨hw, rfl⟩
  | finish => exact ⟨rfl, rfl⟩
  | reap hpoint => rcases hpoint with hpoint | hpoint <;> simp [hpoint, Point.over] at hw
  | _ => simp_all [Point.over]

/-! ## The books -/

def WatcherEvent.isLaunch : WatcherEvent → Bool
  | .launch _ => true
  | _ => false

def WatcherEvent.isExit : WatcherEvent → Bool
  | .exited _ => true
  | _ => false

def WatcherEvent.isDialog : WatcherEvent → Bool
  | .dialog _ => true
  | _ => false

def WatcherEvent.isReport : WatcherEvent → Bool
  | .report _ => true
  | _ => false

def WatcherEvent.isServed : WatcherEvent → Bool
  | .served _ => true
  | _ => false

/-- A retry is booked and its launch has not happened. -/
def Point.backingOff : Point → Nat
  | .backoffStopPoll | .backoffSleepPoll | .respawning => 1
  | _ => 0

def Point.running : Point → Nat
  | .unwatched | .stopPoll | .childPoll | .terminating _ | .killing _ | .feeding => 1
  | _ => 0

def Point.left : Point → Nat
  | .terminating _ | .killing _ | .returning | .ended => 1
  | _ => 0

def Point.prompted : Point → Bool
  | .prompting _ | .reportFailure | .returning | .ended => true
  | _ => false

section Books

variable {w v : Watcher} {act : Act} {out : List WatcherEvent}

/-- Every launch uses up a booked retry. -/
theorem Watcher.Moves.launches (h : w.Moves act v out) :
    out.countP (·.isLaunch) + v.point.backingOff + w.retries ≤ w.point.backingOff + v.retries := by
  cases h with
  | reap hpoint => rcases hpoint with hpoint | hpoint <;> simp [hpoint, Point.backingOff]
  | exits | line => simp
  | retry hpoint =>
    simp only [hpoint, List.countP_singleton, WatcherEvent.isLaunch, Point.backingOff]
    rw [if_neg (by decide)]
    omega
  | _ => simp_all [Point.backingOff, WatcherEvent.isLaunch]

theorem Watcher.Moves.exits_le (h : w.Moves act v out) :
    out.countP (·.isExit) + v.point.running ≤ w.point.running + out.countP (·.isLaunch) := by
  cases h with
  | reap hpoint => simp [Point.running]
  | exits | line => simp
  | _ => simp_all [Point.running, WatcherEvent.isExit, WatcherEvent.isLaunch]

/-- The loop is left once, either for a request or with a report. -/
theorem Watcher.Moves.leaves (h : w.Moves act v out) :
    out.countP (·.isServed) + out.countP (·.isReport) + w.point.left = v.point.left := by
  cases h with
  | reap hpoint => rcases hpoint with hpoint | hpoint <;> simp [hpoint, Point.left]
  | exits | line => simp
  | _ => simp_all [Point.left, WatcherEvent.isServed, WatcherEvent.isReport]

/-- Only one step asks for the dialog, and what follows it never leads back into the loop. -/
theorem Watcher.Moves.dialogs (h : w.Moves act v out) :
    (out.countP (·.isDialog) = 0 ∧ (w.point.prompted = true → v.point.prompted = true)) ∨
      (out.countP (·.isDialog) = 1 ∧ w.point.prompted = false ∧ v.point.prompted = true ∧
        out.countP (·.isLaunch) = 0) := by
  cases h with
  | reap hpoint => exact Or.inl ⟨rfl, fun _ => rfl⟩
  | exits | line => exact Or.inl ⟨rfl, id⟩
  | promptCert hpoint _ => exact Or.inr ⟨rfl, by simp [hpoint, Point.prompted], rfl, rfl⟩
  | _ =>
    left
    simp_all [Point.prompted, WatcherEvent.isDialog]

theorem Watcher.Moves.retries_le (h : w.Moves act v out) (hw : w.retries ≤ maxRetries) :
    v.retries ≤ maxRetries := by
  cases h with
  | retry _ _ hretries => exact hretries
  | _ => exact hw

end Books

/-! ## What a relaunch answers -/

/-- What a history ends with while a retry is being decided or is booked. -/
def Point.trace : Point → List WatcherEvent
  | .draining | .judging _ _ => [.exited false]
  | .backoffStopPoll | .backoffSleepPoll | .respawning => [.exited false, .judged .starting none]
  | _ => []

/-- A history that ends with what the point before a move asks for, ends after the move with
what the new point asks for. -/
theorem Watcher.Moves.trace {w v : Watcher} {act : Act} {out history : List WatcherEvent}
    (h : w.Moves act v out) (hw : w.point.trace <:+ history) :
    v.point.trace <:+ history ++ out := by
  cases h with
  | exits | line => simpa using hw
  | retry hpoint hseen _ =>
    simp only [hpoint, Point.trace] at hw
    obtain ⟨rest, rfl⟩ := hw
    exact ⟨rest, by simp [hseen, Point.trace]⟩
  | badExit => exact List.suffix_append _ _
  | drain hpoint | backoffNoStop hpoint | sleepOver hpoint | sleepOn hpoint =>
    simpa [hpoint, Point.trace] using hw
  | _ => exact List.nil_suffix

theorem Watcher.Moves.relaunch {w v : Watcher} {act : Act} {pre post : List WatcherEvent}
    {succeeds : Bool} (h : w.Moves act v (pre ++ .launch succeeds :: post)) :
    w.point = .respawning ∧ pre = [] := by
  generalize hword : pre ++ .launch succeeds :: post = out at h
  cases h with
  | respawn hpoint | respawnFails hpoint =>
    cases pre with
    | nil => exact ⟨hpoint, rfl⟩
    | cons => simp at hword
  | _ => rcases pre with _ | ⟨_, _ | ⟨_, pre⟩⟩ <;> simp at hword

/-! ## Runs of one watcher -/

/-- What the owner of the `Supervisor` does with it; `stop` is called at most once, by whoever
took the `Supervisor` out of its slot. -/
inductive Owner
  | holding
  | stopping
  /-- `stop()` returned before its limit -/
  | stopped
  | gaveUp
  deriving DecidableEq, Repr

structure Solo where
  watcher : Watcher
  owner : Owner
  deriving DecidableEq, Repr

def Solo.start : Solo := ⟨Watcher.spawned.watched, .holding⟩

inductive SoloLabel
  | watch (act : Act)
  | stop
  | stopReturns
  | stopLimit
  | drop
  deriving DecidableEq, Repr

inductive SoloEvent
  | watcher (e : WatcherEvent)
  | stopReturned
  deriving DecidableEq, Repr

def soloStep : Step Solo SoloLabel SoloEvent := fun s label =>
  match label with
  | .watch act =>
    (s.watcher.step act).map fun (w, out) => ({ s with watcher := w }, out.map .watcher)
  | .stop =>
    if s.owner = .holding ∧ s.watcher.senderDropped = false then
      match s.watcher.send with
      | some w => some (⟨w, .stopping⟩, [])
      | none => some ({ s with owner := .stopped }, [.stopReturned])
    else none
  | .stopReturns =>
    if s.owner = .stopping ∧ s.watcher.answered = true then
      some ({ s with owner := .stopped }, [.stopReturned])
    else none
  | .stopLimit => if s.owner = .stopping then some ({ s with owner := .gaveUp }, []) else none
  | .drop =>
    if s.owner = .stopping then none else some ({ s with watcher := s.watcher.dropSender }, [])

inductive Solo.Moves : Solo → Solo → List SoloEvent → Prop
  | watch {s : Solo} {act : Act} {w : Watcher} {out : List WatcherEvent} :
      s.watcher.Moves act w out → Moves s { s with watcher := w } (out.map .watcher)
  | stop {s : Solo} : s.owner = .holding → s.watcher.point ≠ .ended →
      Moves s ⟨{ s.watcher with request := .buffered }, .stopping⟩ []
  | stopEnded {s : Solo} : s.watcher.point = .ended →
      Moves s { s with owner := .stopped } [.stopReturned]
  | stopReturns {s : Solo} : s.watcher.answered = true →
      Moves s { s with owner := .stopped } [.stopReturned]
  | stopLimit {s : Solo} : s.owner = .stopping → Moves s { s with owner := .gaveUp } []
  | drop {s : Solo} : Moves s { s with watcher := s.watcher.dropSender } []

theorem soloStep_moves {s t : Solo} {label : SoloLabel} {out : List SoloEvent}
    (h : soloStep s label = some (t, out)) : s.Moves t out := by
  cases label with
  | watch act =>
    obtain ⟨⟨w, events⟩, hstep, hnext⟩ := Option.map_eq_some_iff.mp h
    obtain ⟨rfl, rfl⟩ := Prod.mk.inj hnext
    exact .watch (Watcher.step_moves hstep)
  | stop =>
    simp only [soloStep, Watcher.send] at h
    split at h
    · rename_i hfree
      split at h <;> rename_i hsend <;> split at hsend <;> cases hsend <;> cases h
      · exact .stop hfree.1 ‹_›
      · exact .stopEnded ‹_›
    · cases h
  | stopReturns =>
    simp only [soloStep] at h
    split at h <;> cases h
    rename_i hanswered
    exact .stopReturns hanswered.2
  | stopLimit =>
    simp only [soloStep] at h
    split at h <;> cases h
    exact .stopLimit ‹_›
  | drop =>
    simp only [soloStep] at h
    split at h <;> cases h
    exact .drop

def watcherEvents (history : List SoloEvent) : List WatcherEvent :=
  history.filterMap fun
    | .watcher e => some e
    | .stopReturned => none

@[simp] theorem watcherEvents_append (history out : List SoloEvent) :
    watcherEvents (history ++ out) = watcherEvents history ++ watcherEvents out :=
  List.filterMap_append ..

@[simp] theorem watcherEvents_watcher (out : List WatcherEvent) :
    watcherEvents (out.map .watcher) = out := by
  simp [watcherEvents]

@[simp] theorem watcherEvents_nil : watcherEvents [] = [] := rfl

@[simp] theorem watcherEvents_stopReturned : watcherEvents [.stopReturned] = [] := rfl

/-! ## Stop is never lost -/

def Solo.Sound (s : Solo) : Prop :=
  s.watcher.Sound ∧ (s.owner = .stopped → s.watcher.point.over = true)

theorem Solo.Moves.sound {s t : Solo} {out : List SoloEvent} (h : s.Moves t out)
    (hs : s.Sound) : t.Sound := by
  obtain ⟨hwatcher, hstopped⟩ := hs
  cases h with
  | watch hmoves =>
    exact ⟨hmoves.sound hwatcher, fun howner => (hmoves.over (hstopped howner)).1⟩
  | stop => exact ⟨hwatcher.buffered, nofun⟩
  | stopEnded hended => exact ⟨hwatcher, fun _ => by simp [hended, Point.over]⟩
  | stopReturns hanswered => exact ⟨hwatcher, fun _ => hwatcher.answered hanswered⟩
  | stopLimit => exact ⟨hwatcher, nofun⟩
  | drop => exact ⟨hwatcher.dropSender, hstopped⟩

theorem solo_sound {allowed : List SoloEvent → Solo → SoloLabel → Prop}
    {history : List SoloEvent} {s : Solo} (run : Run soloStep allowed .start history s) :
    s.Sound :=
  run.state_invariant Solo.Sound ⟨Watcher.sound_watched, nofun⟩
    (fun _ _ _ _ _ hs _ hstep => (soloStep_moves hstep).sound hs)

private theorem Solo.Moves.stopped {s t : Solo} {out : List SoloEvent} (h : s.Moves t out)
    (hs : s.Sound) (howner : s.owner = .stopped) :
    t.owner = .stopped ∧ ∀ e, SoloEvent.watcher e ∉ out := by
  cases h with
  | watch hmoves =>
    obtain ⟨_, rfl⟩ := hmoves.over (hs.2 howner)
    exact ⟨howner, nofun⟩
  | stop hholding => rw [howner] at hholding; cases hholding
  | stopEnded | stopReturns => exact ⟨rfl, by simp⟩
  | stopLimit hstopping => rw [howner] at hstopping; cases hstopping
  | drop => exact ⟨howner, nofun⟩

private theorem Solo.Moves.stopReturned {s t : Solo} {before rest : List SoloEvent}
    (h : s.Moves t (before ++ .stopReturned :: rest)) : t.owner = .stopped ∧ rest = [] := by
  generalize hword : before ++ .stopReturned :: rest = out at h
  cases h with
  | watch =>
    have hmem : SoloEvent.stopReturned ∈ before ++ .stopReturned :: rest := by simp
    rw [hword] at hmem
    simp at hmem
  | stopEnded | stopReturns =>
    cases before with
    | nil => exact ⟨rfl, by simpa using hword⟩
    | cons => simp at hword
  | stop | stopLimit | drop => simp at hword

/-- A `stop()` that returned before its limit finds the child dead and no launch follows, and no
watcher ends with a live child, wherever in its cycle the request met the watcher. -/
theorem stop_never_lost {history : List SoloEvent} {s : Solo}
    (run : Run soloStep anyLabel .start history s) :
    (s.owner = .stopped → s.watcher.exit ≠ none) ∧
      (∀ before after, history = before ++ .stopReturned :: after →
        ∀ succeeds, .watcher (.launch succeeds) ∉ after) ∧
      (s.watcher.point = .returning ∨ s.watcher.point = .ended → s.watcher.exit ≠ none) := by
  have hsound := solo_sound run
  refine ⟨fun howner => hsound.1.dead (hsound.2 howner), ?_, ?_⟩
  · intro before after hsplit succeeds hmem
    have hafter := run.after (fun _ s => s.Sound) (fun _ e => e = .stopReturned)
      (fun e => ∀ succeeds, e ≠ .watcher (.launch succeeds))
      (fun s => s.owner = .stopped) solo_sound ?_ ?_ hsplit rfl
    · exact hafter.2 _ hmem succeeds rfl
    · rintro _ _ _ _ _ _ _ _ _ hstep rfl
      obtain ⟨howner, rfl⟩ := (soloStep_moves hstep).stopReturned
      exact ⟨howner, nofun⟩
    · intro _ _ _ _ _ hs _ hstep howner
      obtain ⟨howner', hsilent⟩ := (soloStep_moves hstep).stopped hs howner
      exact ⟨howner', fun x hx succeeds heq => hsilent _ (heq ▸ hx)⟩
  · rintro (hpoint | hpoint) <;> exact hsound.1.dead (by simp [hpoint, Point.over])

/-- The first crosswire dies at once; the request arrives in the backoff. -/
def stoppedInBackoff : List SoloLabel :=
  [.watch .pollStop, .watch (.exits false), .watch .pollChild, .watch (.drain second),
    .watch (.judge .starting), .stop, .watch .pollStop, .stopReturns, .drop, .watch .finish]

theorem stop_never_lost_stoppedInBackoff :
    ∃ history s, Run soloStep anyLabel .start history s ∧ s.owner = .stopped ∧
      s.watcher.exit ≠ none := by
  have hexec : exec soloStep (fun _ _ _ => true) [] .start stoppedInBackoff =
      some ([.watcher (.exited false), .watcher (.judged .starting none), .watcher (.served true),
        .stopReturned], ⟨⟨.ended, some false, {}, 1, .acked, true⟩, .stopped⟩) := rfl
  have run := exec_run (fun _ _ _ _ => trivial) .refl hexec
  exact ⟨_, _, run, rfl, (stop_never_lost run).1 rfl⟩

/-! ## Bounded relaunches, one report -/

/-- What the events so far and the watcher's point add up to. -/
structure Books (events : List WatcherEvent) (w : Watcher) : Prop where
  launches : events.countP (·.isLaunch) + w.point.backingOff ≤ w.retries
  retries : w.retries ≤ maxRetries
  exits : events.countP (·.isExit) + w.point.running ≤ 1 + events.countP (·.isLaunch)
  leaves : events.countP (·.isServed) + events.countP (·.isReport) = w.point.left
  dialogs : events.countP (·.isDialog) = 0 ∨
    (events.countP (·.isDialog) = 1 ∧ w.point.prompted = true)
  trace : w.point.trace <:+ events

theorem Watcher.Moves.books {w v : Watcher} {act : Act} {out events : List WatcherEvent}
    (h : w.Moves act v out) (hw : Books events w) : Books (events ++ out) v where
  launches := by
    have := h.launches
    have := hw.launches
    rw [List.countP_append]
    omega
  retries := h.retries_le hw.retries
  exits := by
    have := h.exits_le
    have := hw.exits
    rw [List.countP_append, List.countP_append]
    omega
  leaves := by
    have := h.leaves
    have := hw.leaves
    rw [List.countP_append, List.countP_append]
    omega
  dialogs := by
    rw [List.countP_append]
    rcases hw.dialogs with hnone | ⟨hone, hprompted⟩ <;>
      rcases h.dialogs with ⟨hout, hkeep⟩ | ⟨hout, hbefore, hafter, _⟩
    · exact Or.inl (by omega)
    · exact Or.inr ⟨by omega, hafter⟩
    · exact Or.inr ⟨by omega, hkeep hprompted⟩
    · rw [hprompted] at hbefore
      cases hbefore
  trace := h.trace hw.trace

theorem solo_books {allowed : List SoloEvent → Solo → SoloLabel → Prop}
    {history : List SoloEvent} {s : Solo} (run : Run soloStep allowed .start history s) :
    Books (watcherEvents history) s.watcher := by
  refine run.invariant (fun history s => Books (watcherEvents history) s.watcher) ?_ ?_
  · exact ⟨Nat.le_refl 0, Nat.zero_le _, Nat.le_refl 1, rfl, Or.inl rfl, List.nil_suffix⟩
  · intro history s label t out hbooks _ hstep
    rw [watcherEvents_append]
    cases soloStep_moves hstep with
    | watch hmoves => simpa using hmoves.books hbooks
    | stop | stopLimit | drop =>
      rw [watcherEvents_nil, List.append_nil]
      exact ⟨hbooks.launches, hbooks.retries, hbooks.exits, hbooks.leaves, hbooks.dialogs,
        hbooks.trace⟩
    | stopEnded | stopReturns => simpa using hbooks

def Act.own : Act → Bool
  | .exits _ | .line _ => false
  | _ => true

/-- How many steps a watcher still takes once it cannot go round its loop again. -/
def Point.ahead : Point → Nat
  | .draining => 5
  | .judging _ _ => 4
  | .prompting _ => 3
  | .reportStopped | .reportFailure => 2
  | .returning => 1
  | .ended => 0
  | _ => 6

/-- The watcher has a step to take until it has ended, and each of its own steps brings the end
nearer. -/
def Watcher.Ending (w : Watcher) : Prop :=
  (w.point = .ended ∨ ∃ act, act.own = true ∧ w.step act ≠ none) ∧
    ∀ act v out, w.step act = some (v, out) →
      v.point.ahead + (if act.own then 1 else 0) ≤ w.point.ahead

private theorem Watcher.ending {w : Watcher} (hretries : maxRetries ≤ w.retries)
    (hrunning : w.point.running = 0) (hbackoff : w.point.backingOff = 0) : w.Ending := by
  refine ⟨?_, ?_⟩
  · cases hpoint : w.point with
    | draining => exact Or.inr ⟨.drain 0, rfl, by simp [Watcher.step, hpoint]⟩
    | judging => exact Or.inr ⟨.judge .stopped, rfl, by simp [Watcher.step, hpoint]⟩
    | prompting => exact Or.inr ⟨.prompt, rfl, by simp [Watcher.step, hpoint]⟩
    | reportStopped | reportFailure => exact Or.inr ⟨.report, rfl, by simp [Watcher.step, hpoint]⟩
    | returning => exact Or.inr ⟨.finish, rfl, by simp [Watcher.step, hpoint]⟩
    | ended => exact Or.inl rfl
    | _ => simp [hpoint, Point.running, Point.backingOff] at hrunning hbackoff
  · intro act v out hstep
    cases Watcher.step_moves hstep with
    | exits | line => simp [Act.own]
    | retry _ _ hless => omega
    | reap hpoint => rcases hpoint with hpoint | hpoint <;> simp [hpoint, Point.running] at hrunning
    | _ => simp_all [Act.own, Point.ahead, Point.running, Point.backingOff]

private theorem watcherEvents_emitted {history : List SoloEvent} {s : Solo}
    {before after : List WatcherEvent} {e : WatcherEvent}
    (run : Run soloStep anyLabel .start history s)
    (hsplit : watcherEvents history = before ++ e :: after) :
    ∃ past w act v pre post, Books past w ∧ w.Moves act v (pre ++ e :: post) ∧
      before = past ++ pre := by
  obtain ⟨front, rest, rfl, rfl, hrest⟩ := List.filterMap_eq_append_iff.mp hsplit
  obtain ⟨quiet, x, back, rfl, hquiet, hx, _⟩ := List.filterMap_eq_cons_iff.mp hrest
  obtain rfl : x = .watcher e := by
    cases x with
    | watcher => exact congrArg _ (Option.some.inj hx)
    | stopReturned => cases hx
  rw [← List.append_assoc] at run
  obtain ⟨past, t, label, u, pre, post, hpast, _, hstep, hbefore⟩ := run.emitted rfl
  have hevents : watcherEvents front = watcherEvents past ++ watcherEvents pre := by
    have hnone : watcherEvents quiet = [] := List.filterMap_eq_nil_iff.mpr hquiet
    rw [← watcherEvents_append, ← hbefore, watcherEvents_append, hnone, List.append_nil]
  generalize hword : pre ++ .watcher e :: post = out at hstep
  cases soloStep_moves hstep with
  | @watch act v out hmoves =>
    refine ⟨_, _, act, v, watcherEvents pre, watcherEvents post, solo_books hpast, ?_, hevents⟩
    have hout : out = watcherEvents pre ++ e :: watcherEvents post := by
      rw [← watcherEvents_watcher out, ← hword, watcherEvents_append]
      rfl
    rwa [← hout]
  | stopEnded | stopReturns => rcases pre with _ | ⟨_, pre⟩ <;> simp at hword
  | stop | stopLimit | drop => simp at hword

/-- One watcher in any environment: at most `1 + maxRetries` launches, a last exit after which
it only ends, relaunches for certificate-free failures while `Starting` only, at most one dialog
and no relaunch after it, and in the end either a served stop or one report. -/
theorem watcher_bounded {history : List SoloEvent} {s : Solo}
    (run : Run soloStep anyLabel .start history s) :
    let events := watcherEvents history
    1 + events.countP (·.isLaunch) ≤ 1 + maxRetries ∧
      events.countP (·.isExit) ≤ 1 + maxRetries ∧
      (events.countP (·.isExit) = 1 + maxRetries → s.watcher.Ending) ∧
      (∀ before after succeeds, events = before ++ .launch succeeds :: after →
        [.exited false, .judged .starting none] <:+ before ∧ ∀ digest, .dialog digest ∉ before) ∧
      events.countP (·.isDialog) ≤ 1 ∧
      events.countP (·.isServed) + events.countP (·.isReport) ≤ 1 ∧
      (s.watcher.point = .ended → events.countP (·.isServed) + events.countP (·.isReport) = 1) := by
  obtain ⟨hlaunches, hretries, hexits, hleaves, hdialogs, _⟩ := solo_books run
  refine ⟨by omega, by omega, ?_, ?_, by omega, ?_, ?_⟩
  · intro hlast
    exact Watcher.ending (by omega) (by omega) (by omega)
  · intro before after succeeds hsplit
    obtain ⟨past, w, act, v, pre, post, hbooks, hmoves, rfl⟩ := watcherEvents_emitted run hsplit
    obtain ⟨hpoint, rfl⟩ := hmoves.relaunch
    have htrace := hbooks.trace
    have hdialogs := hbooks.dialogs
    simp only [hpoint, Point.trace, Point.prompted] at htrace hdialogs
    rw [List.append_nil]
    refine ⟨htrace, fun digest hmem => ?_⟩
    have hnone : past.countP (·.isDialog) = 0 := by simpa using hdialogs
    exact List.countP_eq_zero.mp hnone _ hmem rfl
  · rw [hleaves]
    cases s.watcher.point <;> simp [Point.left]
  · intro hended
    simpa [hended, Point.left] using hleaves

def threeDeaths : List SoloLabel :=
  let death : List Act := [.pollStop, .exits false, .pollChild, .drain second, .judge .starting]
  let relaunch : List Act := [.pollStop, .pollSleep true, .respawn true, .feed]
  (death ++ relaunch ++ death ++ relaunch ++ death ++ [Act.report, .finish]).map .watch

theorem watcher_bounded_threeDeaths :
    ∃ history s, Run soloStep anyLabel .start history s ∧ s.watcher.point = .ended ∧
      (watcherEvents history).countP (·.isLaunch) = maxRetries ∧
      (watcherEvents history).countP (·.isServed) + (watcherEvents history).countP (·.isReport) =
        1 := by
  have hexec : exec soloStep (fun _ _ _ => true) [] .start threeDeaths =
      some ([.exited false, .judged .starting none, .launch true, .exited false,
        .judged .starting none, .launch true, .exited false, .judged .starting none,
        .report .failed].map SoloEvent.watcher,
        ⟨⟨.ended, some false, {}, 2, .none, false⟩, .holding⟩) := rfl
  have run := exec_run (fun _ _ _ _ => trivial) .refl hexec
  obtain ⟨_, _, _, _, _, _, hended⟩ := watcher_bounded run
  exact ⟨_, _, run, rfl, rfl, hended rfl⟩

end CrosswireNm.Service
