import CrosswireNm.Library.Progress
import CrosswireNm.Service.SupervisorRuns

/-!
# A watcher comes to its end

Once it is asked to tear down, a watcher has few steps left wherever it is, and always one to
take, unless it has sent SIGKILL and the child is not reaped or it waits on another process. So
`stop()` returns without its limit where such waits end.
-/

namespace CrosswireNm.Service

open Library

/-! ## Waits on other processes -/

/-- What the service waits for that neither it nor the kernel brings about. -/
inductive OtherWait
  /-- crosswire reads its stdin to the end, or closes it -/
  | stdin
  /-- the commands that open the dialog return, of which `su` runs it until it is closed -/
  | dialog
  /-- the resolver answers -/
  | resolver
  deriving DecidableEq, Repr

def Point.awaits : Point → Option OtherWait
  | .feeding => some .stdin
  | .prompting _ => some .dialog
  | _ => none

def Act.awaits : Act → Option OtherWait
  | .feed => some .stdin
  | .prompt => some .dialog
  | _ => none

/-- The assumption that each of them ends. -/
def othersEnd : OtherWait → Prop := fun _ => True

/-- The watcher stands in a wait that is not known to end. -/
def Watcher.HeldUp (ends : OtherWait → Prop) (w : Watcher) : Prop :=
  ∃ wait, w.point.awaits = some wait ∧ ¬ ends wait

theorem Watcher.not_heldUp (w : Watcher) : ¬ w.HeldUp othersEnd :=
  fun ⟨_, _, hends⟩ => hends trivial

/-! ## After the request -/

/-- How many own steps a watcher that is asked to tear down has left at most. -/
def Point.toEnd : Point → Nat
  | .ended => 0
  | .returning => 1
  | .killing _ | .reportStopped | .reportFailure | .backoffStopPoll => 2
  | .terminating _ | .prompting _ => 3
  | .stopPoll | .judging _ _ => 4
  | .feeding | .draining => 5
  | .respawning | .childPoll => 6
  | .backoffSleepPoll | .unwatched => 7

/-- What becomes of a request: it is taken while the child is torn down, and the receiver takes a
buffered one with it. -/
structure Watcher.Tracked (w : Watcher) : Prop where
  taken : w.request = .taken → w.point = .terminating true ∨ w.point = .killing true
  dropped : w.point = .ended → w.request ≠ .buffered

theorem Watcher.tracked_spawned : Watcher.spawned.Tracked := ⟨nofun, nofun⟩

section Watcher

variable {w v : Watcher} {act : Act} {out : List WatcherEvent} {ends : OtherWait → Prop}

theorem Watcher.Tracked.dropSender (hw : w.Tracked) : w.dropSender.Tracked :=
  ⟨hw.taken, hw.dropped⟩

theorem Watcher.Tracked.buffered (hpoint : w.point ≠ .ended) :
    Watcher.Tracked { w with request := .buffered } :=
  ⟨nofun, fun hended => absurd hended hpoint⟩

private theorem Watcher.Moves.taken (h : w.Moves act v out)
    (hw : w.request = .taken → w.point = .terminating true ∨ w.point = .killing true) :
    v.request = .taken → v.point = .terminating true ∨ v.point = .killing true := by
  cases h with
  | exits | line => exact hw
  | stop => exact fun _ => Or.inl rfl
  | backoffStop => nofun
  | @termTimeout acks hpoint =>
    intro htaken
    rcases hw htaken with hserving | hserving
    · obtain rfl : acks = true := by simpa [hpoint] using hserving
      exact Or.inr rfl
    · simp [hpoint] at hserving
  | @reap acks hpoint =>
    intro htaken
    cases acks with
    | true => cases htaken
    | false =>
      have hserving := hw htaken
      rcases hpoint with hpoint | hpoint <;> simp [hpoint] at hserving
  | finish hpoint =>
    intro htaken
    dsimp only at htaken
    split at htaken
    · cases htaken
    · have hserving := hw htaken
      simp [hpoint] at hserving
  | _ =>
    intro htaken
    have hserving := hw htaken
    simp_all

theorem Watcher.Moves.tracked (h : w.Moves act v out) (hw : w.Tracked) : v.Tracked := by
  refine ⟨h.taken hw.taken, ?_⟩
  cases h with
  | exits | line => exact hw.dropped
  | finish =>
    intro _
    dsimp only
    split
    · nofun
    · assumption
  | _ => nofun

/-- A watcher that is asked to tear down finds the request, or the closed channel. -/
theorem Watcher.recv_ne_pending (hw : w.Sound) (htracked : w.Tracked) (hasked : w.asked = true)
    (hserving : w.point.serving = false) (hover : w.point.over = false) : w.recv ≠ .pending := by
  intro hpending
  simp only [Watcher.recv] at hpending
  split at hpending
  · cases hpending
  · rename_i hbuffered
    split at hpending
    · cases hpending
    · rename_i hdropped
      cases hrequest : w.request with
      | none => simp [Watcher.asked, hrequest, hdropped] at hasked
      | buffered => exact hbuffered hrequest
      | taken =>
        rcases htracked.taken hrequest with hpoint | hpoint <;>
          simp [hpoint, Point.serving] at hserving
      | acked | dropped =>
        have hanswered := hw.answered (by simp [Watcher.answered, hrequest])
        rw [hanswered] at hover
        cases hover

theorem Watcher.Moves.nearer (h : w.Moves act v out) (hw : w.Sound) (htracked : w.Tracked)
    (hasked : w.asked = true) :
    (if act.own then 1 else 0) + v.point.toEnd ≤ w.point.toEnd := by
  cases h with
  | exits | line => simp [Act.own]
  | noStop hpoint hpending | backoffNoStop hpoint hpending =>
    exact absurd hpending (Watcher.recv_ne_pending hw htracked hasked
      (by simp [hpoint, Point.serving]) (by simp [hpoint, Point.over]))
  | reap hpoint => rcases hpoint with hpoint | hpoint <;> simp [hpoint, Act.own, Point.toEnd]
  | _ => simp_all [Act.own, Point.toEnd]

def Watcher.AwaitsKilled (w : Watcher) : Prop :=
  (w.point = .killing true ∨ w.point = .killing false) ∧ w.exit = none

/-- A watcher always has a step of its own to take until it has ended, whatever the state machine
is in, unless it waits for the child it has killed or is held up. -/
theorem Watcher.moves_on (state : ServiceState) (hwatched : w.point ≠ .unwatched)
    (hended : w.point ≠ .ended) (hwait : ¬ w.AwaitsKilled) (hheld : ¬ w.HeldUp ends) :
    ∃ act, act.own = true ∧ (∀ wait, act.awaits = some wait → ends wait) ∧
      (∀ seen, act = .judge seen → seen = state) ∧ w.step act ≠ none := by
  cases hpoint : w.point with
  | unwatched => exact absurd hpoint hwatched
  | ended => exact absurd hpoint hended
  | stopPoll | backoffStopPoll =>
    refine ⟨.pollStop, rfl, by simp [Act.awaits], by simp, ?_⟩
    cases hrecv : w.recv <;> simp [Watcher.step, hpoint, hrecv]
  | childPoll =>
    refine ⟨.pollChild, rfl, by simp [Act.awaits], by simp, ?_⟩
    rcases hexit : w.exit with _ | _ | _ <;> simp [Watcher.step, hpoint, hexit]
  | killing acks =>
    cases hexit : w.exit with
    | none => exact absurd ⟨by cases acks <;> simp [hpoint], hexit⟩ hwait
    | some success =>
      exact ⟨.reap, rfl, by simp [Act.awaits], by simp, by simp [Watcher.step, hpoint, hexit]⟩
  | judging =>
    exact ⟨.judge state, rfl, by simp [Act.awaits],
      fun _ hseen => (Act.judge.inj hseen).symm, by simp [Watcher.step, hpoint]⟩
  | terminating =>
    exact ⟨.termTimeout, rfl, by simp [Act.awaits], by simp, by simp [Watcher.step, hpoint]⟩
  | draining =>
    exact ⟨.drain 0, rfl, by simp [Act.awaits], by simp, by simp [Watcher.step, hpoint]⟩
  | backoffSleepPoll =>
    exact ⟨.pollSleep true, rfl, by simp [Act.awaits], by simp, by simp [Watcher.step, hpoint]⟩
  | respawning =>
    exact ⟨.respawn true, rfl, by simp [Act.awaits], by simp, by simp [Watcher.step, hpoint]⟩
  | feeding =>
    have hends : ends .stdin := by
      by_contra hends
      exact hheld ⟨.stdin, by rw [hpoint]; rfl, hends⟩
    exact ⟨.feed, rfl, by simp [Act.awaits, hends], by simp, by simp [Watcher.step, hpoint]⟩
  | prompting digest =>
    have hends : ends .dialog := by
      by_contra hends
      exact hheld ⟨.dialog, by rw [hpoint]; rfl, hends⟩
    exact ⟨.prompt, rfl, by simp [Act.awaits, hends], by simp, by simp [Watcher.step, hpoint]⟩
  | reportStopped | reportFailure =>
    exact ⟨.report, rfl, by simp [Act.awaits], by simp, by simp [Watcher.step, hpoint]⟩
  | returning =>
    exact ⟨.finish, rfl, by simp [Act.awaits], by simp, by simp [Watcher.step, hpoint]⟩

theorem Watcher.Moves.requested (h : w.Moves act v out) (hw : w.request ≠ .none) :
    v.request ≠ .none := by
  cases h with
  | stop | backoffStop => nofun
  | @reap acks =>
    cases acks with
    | true => nofun
    | false => exact hw
  | finish =>
    dsimp only
    split
    · nofun
    · exact hw
  | _ => exact hw

theorem Watcher.Moves.watched (h : w.Moves act v out) (hw : w.point ≠ .unwatched) :
    v.point ≠ .unwatched := by
  cases h with
  | exits | line => exact hw
  | _ => nofun

theorem Watcher.Tracked.answered (hw : w.Tracked) (hended : w.point = .ended)
    (hrequest : w.request ≠ .none) : w.answered = true := by
  cases hw' : w.request with
  | none => exact absurd hw' hrequest
  | buffered => exact absurd hw' (hw.dropped hended)
  | taken => rcases hw.taken hw' with hpoint | hpoint <;> simp [hpoint] at hended
  | acked | dropped => simp [Watcher.answered, hw']

/-- A step of the watcher's own. Crosswire does nothing but be gone once it is killed, and a wait on
another process ends only if it is one of those that do. -/
def Watcher.Unforced (ends : OtherWait → Prop) (w : Watcher) : Act → Prop
  | .exits _ => w.AwaitsKilled
  | act => act.own = true ∧ ∀ wait, act.awaits = some wait → ends wait

def Watcher.toReturn (w : Watcher) : Nat :=
  2 * w.point.toEnd + if w.exit = none then 1 else 0

/-- Some unforced step brings the answer to a request nearer, unless the watcher is held up. -/
theorem Watcher.down (state : ServiceState) (hw : w.Sound) (htracked : w.Tracked)
    (hwatched : w.point ≠ .unwatched) (hrequest : w.request ≠ .none)
    (hanswered : ¬ w.answered = true) (hheld : ¬ w.HeldUp ends) :
    ∃ act v out, w.step act = some (v, out) ∧ w.Unforced ends act ∧
      (∀ seen, act = .judge seen → seen = state) ∧ v.toReturn < w.toReturn := by
  by_cases hkilled : w.AwaitsKilled
  · refine ⟨.exits false, { w with exit := some false }, [], ?_, hkilled, nofun, ?_⟩
    · simp [Watcher.step, hkilled.2]
    · simp [Watcher.toReturn, hkilled.2]
  · have hended : w.point ≠ .ended := fun hended => hanswered (htracked.answered hended hrequest)
    obtain ⟨act, hown, hawaits, hsees, hmove⟩ :=
      Watcher.moves_on state hwatched hended hkilled hheld
    obtain ⟨⟨v, out⟩, hmove⟩ := Option.ne_none_iff_exists'.mp hmove
    refine ⟨act, v, out, hmove, ?_, hsees, ?_⟩
    · cases act with
      | exits | line => cases hown
      | _ => exact ⟨hown, hawaits⟩
    · have hasked : w.asked = true := by simp [Watcher.asked, hrequest]
      have hnearer := (Watcher.step_moves hmove).nearer hw htracked hasked
      rw [if_pos hown] at hnearer
      simp only [Watcher.toReturn]
      split <;> split <;> omega

end Watcher

/-! ## `stop()` returns -/

structure Watcher.Leaving (w : Watcher) : Prop where
  sound : w.Sound
  tracked : w.Tracked
  watched : w.point ≠ .unwatched
  asked : w.asked = true

theorem Watcher.Moves.leaving {w v : Watcher} {act : Act} {out : List WatcherEvent}
    (h : w.Moves act v out) (hw : w.Leaving) : v.Leaving :=
  ⟨h.sound hw.sound, h.tracked hw.tracked, h.watched hw.watched,
    (h.asked hw.sound.serving).trans hw.asked⟩

structure Solo.Kept (s : Solo) : Prop where
  sound : s.watcher.Sound
  tracked : s.watcher.Tracked
  watched : s.watcher.point ≠ .unwatched
  stopping : s.owner = .stopping → s.watcher.request ≠ .none

theorem Solo.Moves.kept {s t : Solo} {out : List SoloEvent} (h : s.Moves t out) (hs : s.Kept) :
    t.Kept := by
  cases h with
  | watch hmoves =>
    exact ⟨hmoves.sound hs.sound, hmoves.tracked hs.tracked, hmoves.watched hs.watched,
      fun hstopping => hmoves.requested (hs.stopping hstopping)⟩
  | stop _ hended => exact ⟨hs.sound.buffered, .buffered hended, hs.watched, fun _ => nofun⟩
  | stopEnded | stopReturns | stopLimit => exact ⟨hs.sound, hs.tracked, hs.watched, nofun⟩
  | drop => exact ⟨hs.sound.dropSender, hs.tracked.dropSender, hs.watched, hs.stopping⟩

theorem solo_kept {allowed : List SoloEvent → Solo → SoloLabel → Prop}
    {history : List SoloEvent} {s : Solo} (run : Run soloStep allowed .start history s) :
    s.Kept :=
  run.state_invariant Solo.Kept ⟨Watcher.sound_watched, ⟨nofun, nofun⟩, nofun, nofun⟩
    (fun _ _ _ _ _ hs _ hstep => (soloStep_moves hstep).kept hs)

theorem Solo.Moves.leaving {s t : Solo} {out : List SoloEvent} (h : s.Moves t out)
    (hs : s.watcher.Leaving) : t.watcher.Leaving := by
  cases h with
  | watch hmoves => exact hmoves.leaving hs
  | stop _ hended => exact ⟨hs.sound.buffered, .buffered hended, hs.watched, rfl⟩
  | stopEnded | stopReturns | stopLimit => exact hs
  | drop =>
    exact ⟨hs.sound.dropSender, hs.tracked.dropSender, hs.watched,
      by simp [Watcher.asked, Watcher.dropSender]⟩

def ownSteps (_ : Solo) : SoloLabel → Nat
  | .watch act => if act.own then 1 else 0
  | _ => 0

private theorem soloStep_point {s t : Solo} {label : SoloLabel} {out : List SoloEvent}
    (hlabel : ∀ act, label ≠ .watch act) (hstep : soloStep s label = some (t, out)) :
    t.watcher.point = s.watcher.point ∧ t.watcher.retries = s.watcher.retries := by
  cases label with
  | watch act => exact absurd rfl (hlabel act)
  | stop =>
    simp only [soloStep, Watcher.send] at hstep
    split at hstep
    · split at hstep <;> rename_i hsend <;> split at hsend <;> cases hsend <;> cases hstep <;>
        exact ⟨rfl, rfl⟩
    · cases hstep
  | stopReturns | stopLimit =>
    simp only [soloStep] at hstep
    split at hstep <;> cases hstep
    exact ⟨rfl, rfl⟩
  | drop =>
    simp only [soloStep] at hstep
    split at hstep <;> cases hstep
    exact ⟨rfl, rfl⟩

private theorem soloStep_nearer {s t : Solo} {label : SoloLabel} {out : List SoloEvent}
    (hs : s.watcher.Leaving) (hstep : soloStep s label = some (t, out)) :
    ownSteps s label + t.watcher.point.toEnd ≤ s.watcher.point.toEnd := by
  cases label with
  | watch act =>
    obtain ⟨⟨w, events⟩, hmove, hnext⟩ := Option.map_eq_some_iff.mp hstep
    obtain ⟨rfl, rfl⟩ := Prod.mk.inj hnext
    exact (Watcher.step_moves hmove).nearer hs.sound hs.tracked hs.asked
  | stop | stopReturns | stopLimit | drop =>
    rw [(soloStep_point (by simp) hstep).1]
    exact Nat.le_of_eq (Nat.zero_add _)

/-- The watcher's own steps and the return of `stop()`, which has no limit. -/
def noLimit (ends : OtherWait → Prop) (_ : List SoloEvent) (s : Solo) : SoloLabel → Prop
  | .watch act => s.watcher.Unforced ends act
  | .stopReturns => True
  | .stop | .stopLimit | .drop => False

private theorem Solo.Kept.down {ends : OtherWait → Prop} {history : List SoloEvent} {s : Solo}
    (hs : s.Kept) (hstopping : s.owner = .stopping) (hheld : ¬ s.watcher.HeldUp ends) :
    Leads soloStep (noLimit ends)
      (fun _ t => (t.owner = .stopped ∨ t.watcher.HeldUp ends) ∨
        ((t.Kept ∧ t.owner = .stopping) ∧ t.watcher.toReturn < s.watcher.toReturn))
      history s := by
  by_cases hanswered : s.watcher.answered = true
  · have hreturns :
        soloStep s .stopReturns = some ({ s with owner := .stopped }, [.stopReturned]) := by
      simp [soloStep, hstopping, hanswered]
    exact .step .stopReturns trivial hreturns (.here (Or.inl (Or.inl rfl)))
  · obtain ⟨act, v, out, hmove, hunforced, _, hless⟩ :=
      Watcher.down .stopped hs.sound hs.tracked hs.watched (hs.stopping hstopping) hanswered hheld
    have hstep : soloStep s (.watch act) = some ({ s with watcher := v }, out.map .watcher) := by
      simp [soloStep, hmove]
    have hkept := (soloStep_moves hstep).kept hs
    exact .step (.watch act) hunforced hstep (.here (Or.inr ⟨⟨hkept, hstopping⟩, hless⟩))

private theorem Solo.Kept.returns (ends : OtherWait → Prop) {history : List SoloEvent} {s : Solo}
    (hs : s.Kept) (hstopping : s.owner = .stopping) :
    Leads soloStep (noLimit ends) (fun _ t => t.owner = .stopped ∨ t.watcher.HeldUp ends)
      history s := by
  refine Leads.of_rank (fun s => s.Kept ∧ s.owner = .stopping) (fun s => s.watcher.toReturn) ?_
    ⟨hs, hstopping⟩
  rintro history s ⟨hs, hstopping⟩
  by_cases hheld : s.watcher.HeldUp ends
  · exact Or.inl (Or.inr hheld)
  · exact Or.inr (hs.down hstopping hheld)

/-- However a run went, a watcher that has been asked to tear down takes at most seven more steps.
A `stop()` that waits for it returns by these steps alone, without its limit and whatever crosswire
does short of surviving SIGKILL, or the watcher comes to wait on another process that leaves it
waiting. Where every such wait ends, `stop()` returns. -/
theorem stop_returns {history : List SoloEvent} {s : Solo}
    (run : Run soloStep anyLabel .start history s) :
    (s.watcher.asked = true → ∀ n t, Spends soloStep ownSteps s n t → n ≤ 7) ∧
      (s.owner = .stopping →
        (∀ ends, Leads soloStep (noLimit ends)
          (fun _ t => t.owner = .stopped ∨ t.watcher.HeldUp ends) history s) ∧
        Leads soloStep (noLimit othersEnd) (fun _ t => t.owner = .stopped) history s) := by
  have hkept := solo_kept run
  constructor
  · intro hasked n t hspends
    have hleaving : s.watcher.Leaving := ⟨hkept.sound, hkept.tracked, hkept.watched, hasked⟩
    have hpaid := hspends.bounded (fun s => s.watcher.point.toEnd)
      (fun s => s.watcher.Leaving)
      (fun _ _ _ _ hs hstep => (soloStep_moves hstep).leaving hs)
      (fun _ _ _ _ hs hstep => soloStep_nearer hs hstep) hleaving
    have hmost : s.watcher.point.toEnd ≤ 7 := by cases s.watcher.point <;> simp [Point.toEnd]
    omega
  · intro hstopping
    exact ⟨fun ends => hkept.returns ends hstopping,
      (hkept.returns othersEnd hstopping).resolve fun _ t => t.watcher.not_heldUp⟩

/-- The request meets the watcher in the backoff after a first failure. -/
theorem stop_returns_inBackoff :
    ∃ history s, Run soloStep anyLabel .start history s ∧
      (∀ n t, Spends soloStep ownSteps s n t → n ≤ 7) ∧
      (∀ ends, Leads soloStep (noLimit ends)
        (fun _ t => t.owner = .stopped ∨ t.watcher.HeldUp ends) history s) ∧
      Leads soloStep (noLimit othersEnd) (fun _ t => t.owner = .stopped) history s := by
  have hexec : exec soloStep (fun _ _ _ => true) [] .start (stoppedInBackoff.take 6) =
      some ([.watcher (.exited false), .watcher (.judged .starting none)],
        ⟨⟨.backoffStopPoll, some false, {}, 1, .buffered, false⟩, .stopping⟩) := rfl
  have run := exec_run (fun _ _ _ _ => trivial) .refl hexec
  exact ⟨_, _, run, (stop_returns run).1 rfl, (stop_returns run).2 rfl⟩

/-! ## A whole life -/

def Watcher.idles (w : Watcher) : Act → Bool
  | .pollStop => w.recv == .pending
  | .pollChild => w.exit == none
  | .pollSleep elapsed => !elapsed
  | _ => false

def eventfulSteps (s : Solo) : SoloLabel → Nat
  | .watch act => if act.own && !s.watcher.idles act then 1 else 0
  | _ => 0

/-- How many such steps a watcher has before it at most: six for a child that fails, of which
there is one now and one for each retry left. -/
def Watcher.budget (w : Watcher) : Nat :=
  match w.point with
  | .unwatched | .stopPoll | .childPoll => 6 * (maxRetries - w.retries) + 6
  | .draining => 6 * (maxRetries - w.retries) + 5
  | .judging _ _ => 6 * (maxRetries - w.retries) + 4
  | .backoffStopPoll | .backoffSleepPoll => 6 * (maxRetries - w.retries) + 9
  | .respawning => 6 * (maxRetries - w.retries) + 8
  | .feeding => 6 * (maxRetries - w.retries) + 7
  | .terminating _ | .prompting _ => 3
  | .killing _ | .reportStopped | .reportFailure => 2
  | .returning => 1
  | .ended => 0

theorem Watcher.Moves.spends {w v : Watcher} {act : Act} {out : List WatcherEvent}
    (h : w.Moves act v out) :
    (if act.own && !w.idles act then 1 else 0) + v.budget ≤ w.budget := by
  have hone : (if act.own && !w.idles act then 1 else 0) ≤ 1 := by split <;> decide
  cases h with
  | exits | line => simp [Act.own, Watcher.budget]
  | retry hpoint _ hless =>
    simp only [Watcher.budget, hpoint, Act.own, Watcher.idles]
    simp only [Bool.not_false, Bool.and_self, if_true]
    omega
  | stop hpoint hrequest | backoffStop hpoint hrequest =>
    simp [Watcher.budget, hpoint, Act.own, Watcher.idles, Watcher.recv, hrequest]
  | badExit hpoint | drain hpoint | sleepOver hpoint | respawn hpoint | feed hpoint =>
    simp only [Watcher.budget, hpoint] at hone ⊢
    omega
  | reap hpoint =>
    rcases hpoint with hpoint | hpoint <;> simp [Watcher.budget, hpoint, Act.own, Watcher.idles]
  | _ => simp_all [Watcher.budget, Act.own, Watcher.idles]

private theorem soloStep_spends {s t : Solo} {label : SoloLabel} {out : List SoloEvent}
    (hstep : soloStep s label = some (t, out)) :
    eventfulSteps s label + t.watcher.budget ≤ s.watcher.budget := by
  cases label with
  | watch act =>
    obtain ⟨⟨w, events⟩, hmove, hnext⟩ := Option.map_eq_some_iff.mp hstep
    obtain ⟨rfl, rfl⟩ := Prod.mk.inj hnext
    exact (Watcher.step_moves hmove).spends
  | stop | stopReturns | stopLimit | drop =>
    obtain ⟨hpoint, hretries⟩ := soloStep_point (by simp) hstep
    simp only [eventfulSteps, Watcher.budget, hpoint, hretries, Nat.zero_add]
    exact Nat.le_refl _

/-- In any environment, and whatever its owner does, a watcher takes at most six steps for each
crosswire it may launch, apart from polls that find nothing. -/
theorem watcher_steps_bounded {n : Nat} {s : Solo}
    (h : Spends soloStep eventfulSteps .start n s) : n ≤ 6 * (1 + maxRetries) := by
  have hpaid := h.bounded (fun s => s.watcher.budget) (fun _ => True)
    (fun _ _ _ _ _ _ => trivial) (fun _ _ _ _ _ hstep => soloStep_spends hstep) trivial
  have hstart : Solo.start.watcher.budget = 6 * (1 + maxRetries) := rfl
  omega

theorem watcher_steps_bounded_threeDeaths :
    ∃ s, Spends soloStep eventfulSteps .start 17 s ∧ 17 ≤ 6 * (1 + maxRetries) := by
  have hspend : spend soloStep eventfulSteps .start threeDeaths =
      some (17, ⟨⟨.ended, some false, {}, 2, .none, false⟩, .holding⟩) := rfl
  exact ⟨_, spend_spends hspend, watcher_steps_bounded (spend_spends hspend)⟩

end CrosswireNm.Service
