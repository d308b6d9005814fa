import CrosswireNm.Service.Supervisor

/-!
# How long a drain takes, and what the clock says after it

`launched` is read at the top of the loop and looked at again only when the loggers have been
awaited. The clock is part of the state here; nobody's own steps take any time.
-/

namespace CrosswireNm.Service

open Library

/-! ## The drain -/

def drainTimeout : Nat := 3 * second

/-- One reader is awaited, `spent` after the exit; it ends at a time after the exit, or never. -/
def awaitLogger (spent : Nat) : Option Nat → Nat
  | some ending => min (max spent ending) (spent + drainTimeout)
  | none => spent + drainTimeout

/-- How long `drain_loggers` takes. -/
def drainLoggers (loggers : List (Option Nat)) : Nat := loggers.foldl awaitLogger 0

private theorem awaitLogger_bounds (spent : Nat) (logger : Option Nat) :
    spent ≤ awaitLogger spent logger ∧ awaitLogger spent logger ≤ spent + drainTimeout := by
  cases logger with
  | none => exact ⟨Nat.le_add_right _ _, Nat.le_refl _⟩
  | some ending =>
    simp only [awaitLogger]
    omega

theorem drainLoggers_le (loggers : List (Option Nat)) :
    drainLoggers loggers ≤ loggers.length * drainTimeout := by
  have hgo : ∀ spent, loggers.foldl awaitLogger spent ≤ spent + loggers.length * drainTimeout := by
    induction loggers with
    | nil =>
      intro spent
      exact Nat.le_add_right _ _
    | cons logger loggers ih =>
      intro spent
      have hnext := (awaitLogger_bounds spent logger).2
      have hrest := ih (awaitLogger spent logger)
      rw [List.foldl_cons, List.length_cons, Nat.add_mul, Nat.one_mul]
      omega
  have hstart := hgo 0
  rw [Nat.zero_add] at hstart
  exact hstart

/-- Two readers can make the drain take any time up to twice the limit. -/
theorem drainLoggers_range (d : Nat) :
    (∃ stdout stderr, drainLoggers [stdout, stderr] = d) ↔ d ≤ 2 * drainTimeout := by
  constructor
  · rintro ⟨stdout, stderr, rfl⟩
    exact drainLoggers_le [stdout, stderr]
  · intro hd
    refine ⟨some d, some d, ?_⟩
    simp only [drainLoggers, List.foldl_cons, List.foldl_nil, awaitLogger]
    omega

/-! ## The clock -/

/-- The watcher with its clock. Each logger of the crosswire at hand ends at some time, or never. -/
structure Timed where
  watcher : Watcher
  now : Nat
  launched : Nat
  /-- what is left in `running.loggers` -/
  loggers : List (Option Nat)
  /-- since when the first of them has been awaited -/
  since : Nat

inductive TimedLabel
  /-- time passes -/
  | pass (d : Nat)
  | act (act : Act)
  /-- the new child has its stdin, and the loop goes round -/
  | feed (loggers : List (Option Nat))
  /-- `drain_loggers` awaits its next logger to the end, or for `DRAIN_TIMEOUT` -/
  | join
  | timeout
  /-- all are awaited, and `launched.elapsed()` is read -/
  | classify

def Act.clocked : Act → Bool
  | .drain _ | .feed => true
  | _ => false

def Timed.step : Step Timed TimedLabel WatcherEvent := fun s label =>
  match label with
  | .pass d => some ({ s with now := s.now + d }, [])
  | .act act =>
    if act.clocked then none
    else (s.watcher.step act).map fun (watcher, out) =>
      ({ s with watcher, since := if act = .pollChild then s.now else s.since }, out)
  | .feed loggers => (s.watcher.step .feed).map fun (watcher, out) =>
      ({ s with watcher, launched := s.now, loggers }, out)
  | .join =>
    match s.watcher.point, s.loggers with
    | .draining, some ending :: loggers =>
      if ending ≤ s.now then some ({ s with loggers, since := s.now }, []) else none
    | _, _ => none
  | .timeout =>
    match s.watcher.point, s.loggers with
    | .draining, _ :: loggers =>
      if s.since + drainTimeout ≤ s.now then some ({ s with loggers, since := s.now }, [])
      else none
    | _, _ => none
  | .classify =>
    match s.loggers with
    | [] => (s.watcher.step (.drain (s.now - s.launched))).map fun (watcher, out) =>
        ({ s with watcher }, out)
    | _ => none

/-! ## The path from an exit to a relaunch -/

/-- A child has been launched and is watched, nobody asks for a teardown, and a retry is left. -/
structure Watcher.Fresh (w : Watcher) : Prop where
  point : w.point = .stopPoll
  exit : w.exit = none
  recv : w.recv = .pending
  certChange : w.scanner.certChange = none
  retries : w.retries < maxRetries

def endings (exited : Nat) (ends : List (Option Nat)) : List (Option Nat) :=
  ends.map (Option.map (exited + ·))

/-- The loop is at its top at time `now`; the child will exit `e` later and its loggers end `ends`
after that. -/
def Timed.top (w : Watcher) (now e : Nat) (ends : List (Option Nat)) : Timed :=
  ⟨w, now, now, endings (now + e) ends, now⟩

/-- Time passes while the child lives, up to its exit, and while a logger is awaited, up to its end
or its limit; a dead child is noticed at once. -/
structure Timed.MayPass (e : Nat) (s : Timed) (d : Nat) : Prop where
  running : s.watcher.point = .stopPoll ∨ s.watcher.point = .childPoll →
    s.watcher.exit = none ∧ s.now + d ≤ s.launched + e
  awaiting : s.watcher.point = .draining → ∃ ending loggers, s.loggers = ending :: loggers ∧
    s.now + d ≤ s.since + drainTimeout ∧ ∀ time, ending = some time → s.now + d ≤ time

/-- The child fails `e` after its launch, no line makes a certificate verdict, and the state is
`Starting` when it is looked at; only the time to the next launch is of interest. -/
def FailsAt (e : Nat) (history : List WatcherEvent) (s : Timed) (label : TimedLabel) : Prop :=
  (∀ succeeds, .launch succeeds ∉ history) ∧
    match label with
    | .pass d => s.MayPass e d
    | .act (.exits success) => success = false ∧ s.now = s.launched + e
    | .act (.line text) => (s.watcher.scanner.observe text).certChange = none
    | .act (.judge seen) => seen = .starting
    | _ => True

def Launches (history : List WatcherEvent) (_ : Timed) : Prop :=
  ∃ succeeds, .launch succeeds ∈ history

/-- Wherever the watcher is, a relaunch is still ahead or has happened. -/
def Relaunches (e : Nat) (s : Timed) : Prop :=
  ∀ history t, Run Timed.step (FailsAt e) s history t →
    Leads Timed.step (FailsAt e) Launches history t

def GivesUp (e : Nat) (s : Timed) : Prop :=
  ∀ history t, Run Timed.step (FailsAt e) s history t → ¬ Launches history t

/-- A failed connect is retried if crosswire died at `e` within the window, and is not if it died
later. -/
def RetriedByExitTime (e : Nat) (s : Timed) : Prop :=
  (e < fastFailureWindow → Relaunches e s) ∧ (fastFailureWindow ≤ e → GivesUp e s)

def Act.seen (elapsed : Nat) (w : Watcher) : Act → Prop
  | .exits success => success = false
  | .line text => (w.scanner.observe text).certChange = none
  | .drain clock => clock = elapsed
  | .judge seen => seen = .starting
  | _ => True

def Point.between (fast : Bool) : Point → Bool
  | .stopPoll | .childPoll | .draining => true
  | .judging verdict seen => verdict = none ∧ seen = fast
  | .backoffStopPoll | .backoffSleepPoll | .respawning => fast
  | .reportFailure | .returning | .ended => !fast
  | _ => false

def Point.undecided : Point → Bool
  | .stopPoll | .childPoll | .draining | .judging _ _ => true
  | _ => false

structure Watcher.Between (fast : Bool) (history : List WatcherEvent) (w : Watcher) : Prop where
  point : w.point.between fast = true
  recv : w.recv = .pending
  exit : w.exit ≠ some true
  dead : w.point = .draining → w.exit ≠ none
  certChange : w.scanner.certChange = none
  retries : w.point.undecided = true → w.retries < maxRetries
  first : ∀ succeeds, .launch succeeds ∉ history

theorem Watcher.Fresh.between {w : Watcher} (h : w.Fresh) (fast : Bool) : w.Between fast [] where
  point := by rw [h.point]; rfl
  recv := h.recv
  exit := by rw [h.exit]; nofun
  dead := by rw [h.point]; nofun
  certChange := h.certChange
  retries := fun _ => h.retries
  first := fun _ => List.not_mem_nil

section Step

variable {fast : Bool} {elapsed : Nat} {history out : List WatcherEvent} {w v : Watcher} {act : Act}

private theorem not_buffered (h : w.recv = .pending) : w.request ≠ .buffered := by
  intro hrequest
  unfold Watcher.recv at h
  rw [if_pos hrequest] at h
  cases h

private theorem judge_retries (hpoint : w.point = .judging none true)
    (hretries : w.retries < maxRetries) : w.step (.judge .starting) =
      some ({ w with point := .backoffStopPoll, retries := w.retries + 1 },
        [.judged .starting none]) := by
  simp [Watcher.step, hpoint, Watcher.judge, classifyExit, hretries]

private theorem Watcher.Between.step (h : w.Between fast history)
    (hfast : fast = decide (elapsed < fastFailureWindow)) (hseen : act.seen elapsed w)
    (hstep : w.step act = some (v, out)) :
    (fast = true ∧ ∃ succeeds, .launch succeeds ∈ history ++ out) ∨
      v.Between fast (history ++ out) := by
  have hfirst : (∀ succeeds, .launch succeeds ∉ out) →
      ∀ succeeds, .launch succeeds ∉ history ++ out := by
    intro hout succeeds hmem
    rcases List.mem_append.mp hmem with hmem | hmem
    · exact h.first succeeds hmem
    · exact hout succeeds hmem
  have hretries : w.point.undecided = true → w.retries < maxRetries := h.retries
  have hpath := h.point
  cases Watcher.step_moves hstep with
  | @exits success hexit =>
    obtain rfl : success = false := hseen
    exact Or.inr ⟨h.point, h.recv, nofun, fun _ => nofun, h.certChange, h.retries,
      hfirst (by simp)⟩
  | line =>
    exact Or.inr ⟨h.point, h.recv, h.exit, h.dead, hseen, h.retries, hfirst (by simp)⟩
  | noStop hpoint =>
    exact Or.inr ⟨rfl, h.recv, h.exit, nofun, h.certChange,
      fun _ => hretries (by rw [hpoint]; rfl), hfirst (by simp)⟩
  | stop _ hrequest | backoffStop _ hrequest => exact absurd hrequest (not_buffered h.recv)
  | closed _ hclosed | backoffClosed _ hclosed =>
    rw [h.recv] at hclosed
    cases hclosed
  | backoffNoStop hpoint | sleepOver hpoint | sleepOn hpoint =>
    rw [hpoint] at hpath
    exact Or.inr ⟨hpath, h.recv, h.exit, nofun, h.certChange, nofun, hfirst (by simp)⟩
  | childLives hpoint =>
    exact Or.inr ⟨rfl, h.recv, h.exit, nofun, h.certChange,
      fun _ => hretries (by rw [hpoint]; rfl), hfirst (by simp)⟩
  | cleanExit _ hexit => exact absurd hexit h.exit
  | badExit hpoint hexit =>
    exact Or.inr ⟨rfl, h.recv, h.exit, fun _ => by rw [hexit]; nofun, h.certChange,
      fun _ => hretries (by rw [hpoint]; rfl), hfirst (by simp)⟩
  | @drain clock hpoint =>
    obtain rfl : clock = elapsed := hseen
    refine Or.inr ⟨?_, h.recv, h.exit, nofun, h.certChange,
      fun _ => hretries (by rw [hpoint]; rfl), hfirst (by simp)⟩
    rw [h.certChange, hfast]
    simp [Point.between]
  | retry hpoint =>
    rw [hpoint] at hpath
    have htrue : fast = true := by simpa [Point.between, eq_comm] using hpath
    exact Or.inr ⟨htrue, h.recv, h.exit, nofun, h.certChange, nofun, hfirst (by simp)⟩
  | promptCert hpoint =>
    rw [hpoint] at hpath
    simp [Point.between] at hpath
  | @fail seen verdict clock hpoint =>
    obtain rfl : seen = .starting := hseen
    have hundecided := hretries (by rw [hpoint]; rfl)
    rw [hpoint] at hpath
    obtain ⟨rfl, rfl⟩ : verdict = none ∧ clock = fast := by simpa [Point.between] using hpath
    cases clock with
    | false =>
      exact Or.inr ⟨rfl, h.recv, h.exit, nofun, h.certChange, nofun, hfirst (by simp)⟩
    | true =>
      rw [judge_retries hpoint hundecided] at hstep
      have hpoints := congrArg (fun next => next.1.point) (Option.some.inj hstep)
      cases hpoints
  | respawn hpoint | respawnFails hpoint =>
    rw [hpoint] at hpath
    exact Or.inl ⟨hpath, _, List.mem_append_right _ (List.mem_singleton_self _)⟩
  | reportFailure hpoint =>
    rw [hpoint] at hpath
    exact Or.inr ⟨hpath, h.recv, h.exit, nofun, h.certChange, nofun, hfirst (by simp)⟩
  | finish hpoint =>
    rw [hpoint] at hpath
    rw [if_neg (not_buffered h.recv)]
    exact Or.inr ⟨hpath, h.recv, h.exit, nofun, h.certChange, nofun, hfirst (by simp)⟩
  | reap hpoint =>
    rcases hpoint with hpoint | hpoint <;> rw [hpoint] at hpath <;> cases hpath
  | termTimeout hpoint | feed hpoint | prompt hpoint | reportStopped hpoint =>
    rw [hpoint] at hpath
    cases hpath

end Step

def awaited (spent : Nat) : List (Option Nat) → Nat
  | [] => spent
  | ending :: _ => awaitLogger spent ending

/-- What the clock shows up to the verdict. -/
structure Timed.OnTime (e : Nat) (ends : List (Option Nat)) (s : Timed) : Prop where
  loggers : s.watcher.point = .stopPoll ∨ s.watcher.point = .childPoll →
    s.loggers = endings (s.launched + e) ends
  alive : s.watcher.point = .stopPoll ∨ s.watcher.point = .childPoll → s.watcher.exit = none →
    s.now ≤ s.launched + e
  dead : s.watcher.point = .stopPoll ∨ s.watcher.point = .childPoll → s.watcher.exit ≠ none →
    s.now = s.launched + e
  draining : s.watcher.point = .draining → ∃ spent left, s.since = s.launched + e + spent ∧
    s.loggers = endings (s.launched + e) left ∧ left.foldl awaitLogger spent = drainLoggers ends ∧
    s.since ≤ s.now ∧ s.now ≤ s.launched + e + awaited spent left

section Clock

variable {e : Nat} {ends : List (Option Nat)} {s t : Timed} {label : TimedLabel}
  {history out : List WatcherEvent}

theorem Timed.top_onTime {w : Watcher} (hw : w.Fresh) (now : Nat) :
    (Timed.top w now e ends).OnTime e ends where
  loggers := fun _ => rfl
  alive := fun _ _ => Nat.le_add_right _ _
  dead := fun _ hdead => absurd hw.exit hdead
  draining := by
    intro hpoint
    have htop : (Timed.top w now e ends).watcher.point = .stopPoll := hw.point
    rw [htop] at hpoint
    cases hpoint

/-- When all loggers have been awaited the clock shows the exit time and the whole drain. -/
theorem Timed.OnTime.reading (h : s.OnTime e ends) (hpoint : s.watcher.point = .draining)
    (hnone : s.loggers = []) : s.now - s.launched = e + drainLoggers ends := by
  obtain ⟨spent, left, hsince, hleft, hdrain, hle, hnow⟩ := h.draining hpoint
  obtain rfl : left = [] := List.map_eq_nil_iff.mp (hleft.symm.trans hnone)
  simp only [awaited, List.foldl_nil] at hnow hdrain
  omega

private theorem Timed.OnTime.next {ending : Option Nat} {loggers : List (Option Nat)}
    (h : s.OnTime e ends) (hpoint : s.watcher.point = .draining)
    (hloggers : s.loggers = ending :: loggers)
    (hover : (∃ time, ending = some time ∧ time ≤ s.now) ∨ s.since + drainTimeout ≤ s.now) :
    Timed.OnTime e ends { s with loggers, since := s.now } := by
  obtain ⟨spent, left, hsince, hleft, hdrain, hle, hnow⟩ := h.draining hpoint
  obtain ⟨first, left, rfl, rfl, hrest⟩ := List.map_eq_cons_iff.mp (hleft.symm.trans hloggers)
  have hspent : s.now = s.launched + e + awaitLogger spent first := by
    refine Nat.le_antisymm hnow ?_
    cases first with
    | none =>
      rcases hover with ⟨time, htime, _⟩ | hover
      · cases htime
      · simp only [awaitLogger]
        omega
    | some ending =>
      simp only [awaitLogger]
      rcases hover with ⟨time, htime, hended⟩ | hover
      · obtain rfl : s.launched + e + ending = time := by simpa using htime
        omega
      · omega
  refine ⟨by simp [hpoint], by simp [hpoint], by simp [hpoint], fun _ => ?_⟩
  refine ⟨awaitLogger spent first, left, hspent, hrest.symm, hdrain, Nat.le_refl _, ?_⟩
  cases left with
  | nil => exact Nat.le_of_eq hspent
  | cons ending left =>
    have hbounds := (awaitLogger_bounds (awaitLogger spent first) ending).1
    simp only [awaited]
    omega

private theorem Timed.OnTime.pass {d : Nat} (h : s.OnTime e ends) (hpass : s.MayPass e d) :
    Timed.OnTime e ends { s with now := s.now + d } where
  loggers := h.loggers
  alive := fun hpoint _ => (hpass.running hpoint).2
  dead := fun hpoint hdead => absurd (hpass.running hpoint).1 hdead
  draining := by
    intro hpoint
    obtain ⟨spent, left, hsince, hleft, hdrain, hle, hnow⟩ := h.draining hpoint
    obtain ⟨ending, loggers, hloggers, hlimit, hend⟩ := hpass.awaiting hpoint
    obtain ⟨first, left, rfl, rfl, _⟩ := List.map_eq_cons_iff.mp (hleft.symm.trans hloggers)
    refine ⟨spent, first :: left, hsince, hleft, hdrain, Nat.le_add_right_of_le hle, ?_⟩
    cases first with
    | none =>
      simp only [awaited, awaitLogger]
      omega
    | some time =>
      have htime := hend (s.launched + e + time) rfl
      simp only [awaited, awaitLogger] at hnow ⊢
      omega

private theorem Timed.OnTime.act {act : Act} {v : Watcher} (h : s.OnTime e ends)
    (hplain : act.clocked = false)
    (hexits : ∀ success, act = .exits success → s.now = s.launched + e)
    (hmoves : s.watcher.Moves act v out) :
    Timed.OnTime e ends
      { s with watcher := v, since := if act = .pollChild then s.now else s.since } := by
  cases hmoves with
  | @exits success hlive =>
    have hnow := hexits success rfl
    exact ⟨h.loggers, nofun, fun _ _ => hnow, h.draining⟩
  | line => exact ⟨h.loggers, h.alive, h.dead, h.draining⟩
  | noStop hpoint =>
    have htop : s.watcher.point = .stopPoll ∨ s.watcher.point = .childPoll := Or.inl hpoint
    exact ⟨fun _ => h.loggers htop, fun _ => h.alive htop, fun _ => h.dead htop, nofun⟩
  | childLives hpoint =>
    have htop : s.watcher.point = .stopPoll ∨ s.watcher.point = .childPoll := Or.inr hpoint
    exact ⟨fun _ => h.loggers htop, fun _ => h.alive htop, fun _ => h.dead htop, nofun⟩
  | badExit hpoint hexit =>
    have htop : s.watcher.point = .stopPoll ∨ s.watcher.point = .childPoll := Or.inr hpoint
    have hnow := h.dead htop (by simp [hexit])
    refine ⟨by simp, by simp, by simp, fun _ => ⟨0, ends, hnow, h.loggers htop, rfl, ?_⟩⟩
    exact ⟨Nat.le_refl _, hnow ▸ Nat.le_add_right _ _⟩
  | drain | feed => cases hplain
  | _ => exact ⟨by simp, by simp, by simp, by simp⟩

structure Timed.Between (e : Nat) (ends : List (Option Nat)) (history : List WatcherEvent)
    (s : Timed) : Prop where
  watcher : s.watcher.Between (decide (e + drainLoggers ends < fastFailureWindow)) history
  clock : s.OnTime e ends

private theorem Timed.Between.step (h : s.Between e ends history)
    (hallowed : FailsAt e history s label) (hstep : s.step label = some (t, out)) :
    (e + drainLoggers ends < fastFailureWindow ∧ Launches (history ++ out) t) ∨
      t.Between e ends (history ++ out) := by
  cases label with
  | pass d =>
    cases hstep
    rw [List.append_nil]
    exact Or.inr ⟨h.watcher, h.clock.pass hallowed.2⟩
  | act act =>
    simp only [Timed.step] at hstep
    split at hstep
    · cases hstep
    · rename_i hplain
      obtain ⟨⟨v, out'⟩, hmove, heq⟩ := Option.map_eq_some_iff.mp hstep
      obtain ⟨rfl, rfl⟩ := Prod.mk.inj heq
      have hseen : act.seen (e + drainLoggers ends) s.watcher := by
        cases act with
        | drain => exact absurd rfl hplain
        | exits => exact hallowed.2.1
        | line | judge => exact hallowed.2
        | _ => trivial
      rcases h.watcher.step rfl hseen hmove with ⟨hfast, hlaunched⟩ | hbetween
      · exact Or.inl ⟨of_decide_eq_true hfast, hlaunched⟩
      · refine Or.inr ⟨hbetween, h.clock.act (by simpa using hplain) ?_ (Watcher.step_moves hmove)⟩
        rintro success rfl
        exact hallowed.2.2
  | feed loggers =>
    obtain ⟨⟨v, out'⟩, hmove, _⟩ := Option.map_eq_some_iff.mp hstep
    cases Watcher.step_moves hmove with
    | feed hpoint =>
      have hpath := h.watcher.point
      rw [hpoint] at hpath
      cases hpath
  | join =>
    simp only [Timed.step] at hstep
    split at hstep
    · rename_i ending loggers hpoint hloggers
      split at hstep
      · cases hstep
        rw [List.append_nil]
        exact Or.inr ⟨h.watcher, h.clock.next hpoint hloggers (Or.inl ⟨ending, rfl, ‹_›⟩)⟩
      · cases hstep
    · cases hstep
  | timeout =>
    simp only [Timed.step] at hstep
    split at hstep
    · rename_i ending loggers hpoint hloggers
      split at hstep
      · cases hstep
        rw [List.append_nil]
        exact Or.inr ⟨h.watcher, h.clock.next hpoint hloggers (Or.inr ‹_›)⟩
      · cases hstep
    · cases hstep
  | classify =>
    simp only [Timed.step] at hstep
    split at hstep
    · rename_i hnone
      obtain ⟨⟨v, out'⟩, hmove, heq⟩ := Option.map_eq_some_iff.mp hstep
      obtain ⟨rfl, rfl⟩ := Prod.mk.inj heq
      have hmoves := Watcher.step_moves hmove
      have hclock : Timed.OnTime e ends { s with watcher := v } := by
        cases hmoves with
        | drain => exact ⟨by simp, by simp, by simp, by simp⟩
      have hseen : (Act.drain (s.now - s.launched)).seen (e + drainLoggers ends) s.watcher := by
        cases hmoves with
        | drain hpoint => exact h.clock.reading hpoint hnone
      rcases h.watcher.step rfl hseen hmove with ⟨hfast, hlaunched⟩ | hbetween
      · exact Or.inl ⟨of_decide_eq_true hfast, hlaunched⟩
      · exact Or.inr ⟨hbetween, hclock⟩
    · cases hstep

end Clock

/-! ## The way to the relaunch -/

section Leads

variable {e : Nat} {ends : List (Option Nat)} {s t : Timed} {label : TimedLabel}
  {history out : List WatcherEvent}

private theorem Timed.Between.lead (h : s.Between e ends history)
    (hallowed : FailsAt e history s label) (hstep : s.step label = some (t, out))
    (hnext : t.Between e ends (history ++ out) →
      Leads Timed.step (FailsAt e) Launches (history ++ out) t) :
    Leads Timed.step (FailsAt e) Launches history s := by
  apply Leads.step label hallowed hstep
  rcases h.step hallowed hstep with ⟨_, hlaunched⟩ | hbetween
  · exact .here hlaunched
  · exact hnext hbetween

private theorem Timed.step_act {act : Act} {v : Watcher} (hplain : act.clocked = false)
    (hstep : s.watcher.step act = some (v, out)) :
    s.step (.act act) = some
      ({ s with watcher := v, since := if act = .pollChild then s.now else s.since }, out) := by
  simp [Timed.step, hplain, hstep]

private theorem lead_respawning (h : s.Between e ends history)
    (hpoint : s.watcher.point = .respawning) :
    Leads Timed.step (FailsAt e) Launches history s := by
  have hstep : s.watcher.step (.respawn true) =
      some ({ s.watcher with point := .feeding, exit := none, scanner := {} }, [.launch true]) := by
    simp [Watcher.step, hpoint]
  apply h.lead ⟨h.watcher.first, trivial⟩ (Timed.step_act rfl hstep)
  intro hnext
  exact absurd (List.mem_append_right _ (List.mem_singleton_self _)) (hnext.watcher.first true)

private theorem lead_backoffSleep (h : s.Between e ends history)
    (hpoint : s.watcher.point = .backoffSleepPoll) :
    Leads Timed.step (FailsAt e) Launches history s := by
  have hstep : s.watcher.step (.pollSleep true) =
      some ({ s.watcher with point := .respawning }, []) := by
    simp [Watcher.step, hpoint]
  apply h.lead ⟨h.watcher.first, trivial⟩ (Timed.step_act rfl hstep)
  intro hnext
  exact lead_respawning hnext rfl

private theorem lead_backoffStop (h : s.Between e ends history)
    (hpoint : s.watcher.point = .backoffStopPoll) :
    Leads Timed.step (FailsAt e) Launches history s := by
  have hstep : s.watcher.step .pollStop =
      some ({ s.watcher with point := .backoffSleepPoll }, []) := by
    simp [Watcher.step, hpoint, h.watcher.recv]
  apply h.lead ⟨h.watcher.first, trivial⟩ (Timed.step_act rfl hstep)
  intro hnext
  exact lead_backoffSleep hnext rfl

private theorem lead_judging (h : s.Between e ends history)
    (hpoint : s.watcher.point = .judging none true) :
    Leads Timed.step (FailsAt e) Launches history s := by
  have hstep := judge_retries hpoint (h.watcher.retries (by rw [hpoint]; rfl))
  apply h.lead ⟨h.watcher.first, rfl⟩ (Timed.step_act rfl hstep)
  intro hnext
  exact lead_backoffStop hnext rfl

private theorem lead_classify (hfast : e + drainLoggers ends < fastFailureWindow)
    (h : s.Between e ends history) (hpoint : s.watcher.point = .draining)
    (hnone : s.loggers = []) : Leads Timed.step (FailsAt e) Launches history s := by
  have hreading := h.clock.reading hpoint hnone
  have hstep : s.step .classify =
      some ({ s with watcher := { s.watcher with point := .judging none true } }, []) := by
    simp [Timed.step, hnone, Watcher.step, hpoint, h.watcher.certChange, hreading, hfast]
  apply h.lead ⟨h.watcher.first, trivial⟩ hstep
  intro hnext
  exact lead_judging hnext rfl

private def Timed.Over (s : Timed) (ending : Option Nat) : Prop :=
  (∃ time, ending = some time ∧ time ≤ s.now) ∨ s.since + drainTimeout ≤ s.now

private theorem lead_over {ending : Option Nat} {loggers : List (Option Nat)}
    (h : s.Between e ends history) (hpoint : s.watcher.point = .draining)
    (hloggers : s.loggers = ending :: loggers) (hover : s.Over ending)
    (hnext : ∀ {history t}, t.Between e ends history → t.watcher.point = .draining →
      t.loggers = loggers → Leads Timed.step (FailsAt e) Launches history t) :
    Leads Timed.step (FailsAt e) Launches history s := by
  rcases hover with ⟨time, rfl, hended⟩ | hlimit
  · have hstep : s.step .join = some ({ s with loggers, since := s.now }, []) := by
      simp [Timed.step, hpoint, hloggers, hended]
    apply h.lead ⟨h.watcher.first, trivial⟩ hstep
    intro hbetween
    exact hnext hbetween hpoint rfl
  · have hstep : s.step .timeout = some ({ s with loggers, since := s.now }, []) := by
      simp [Timed.step, hpoint, hloggers, hlimit]
    apply h.lead ⟨h.watcher.first, trivial⟩ hstep
    intro hbetween
    exact hnext hbetween hpoint rfl

private theorem lead_awaiting {ending : Option Nat} {loggers : List (Option Nat)}
    (h : s.Between e ends history) (hpoint : s.watcher.point = .draining)
    (hloggers : s.loggers = ending :: loggers)
    (hnext : ∀ {history t}, t.Between e ends history → t.watcher.point = .draining →
      t.loggers = loggers → Leads Timed.step (FailsAt e) Launches history t) :
    Leads Timed.step (FailsAt e) Launches history s := by
  by_cases hover : s.Over ending
  · exact lead_over h hpoint hloggers hover hnext
  · obtain ⟨hrunning, hwaiting⟩ := not_or.mp hover
    have hpass : ∀ d, s.now + d ≤ s.since + drainTimeout →
        (∀ time, ending = some time → s.now + d ≤ time) → s.MayPass e d := fun d hlimit hend =>
      ⟨by simp [hpoint], fun _ => ⟨ending, loggers, hloggers, hlimit, hend⟩⟩
    obtain ⟨d, hmay, hdue⟩ :
        ∃ d, s.MayPass e d ∧ Timed.Over { s with now := s.now + d } ending := by
      cases ending with
      | none =>
        refine ⟨s.since + drainTimeout - s.now, hpass _ (by omega) (by simp), Or.inr ?_⟩
        change s.since + drainTimeout ≤ s.now + (s.since + drainTimeout - s.now)
        omega
      | some time =>
        have hlater : s.now < time := by
          by_contra hended
          exact hrunning ⟨time, rfl, Nat.not_lt.mp hended⟩
        by_cases hfirst : time ≤ s.since + drainTimeout
        · refine ⟨time - s.now, hpass _ (by omega) ?_, Or.inl ⟨time, rfl, ?_⟩⟩
          · rintro _ ⟨⟩
            omega
          · change time ≤ s.now + (time - s.now)
            omega
        · refine ⟨s.since + drainTimeout - s.now, hpass _ (by omega) ?_, Or.inr ?_⟩
          · rintro _ ⟨⟩
            omega
          · change s.since + drainTimeout ≤ s.now + (s.since + drainTimeout - s.now)
            omega
    have hstep : s.step (.pass d) = some ({ s with now := s.now + d }, []) := rfl
    apply h.lead ⟨h.watcher.first, hmay⟩ hstep
    intro hbetween
    exact lead_over hbetween hpoint hloggers hdue hnext

private theorem lead_draining (hfast : e + drainLoggers ends < fastFailureWindow)
    (h : s.Between e ends history) (hpoint : s.watcher.point = .draining) :
    Leads Timed.step (FailsAt e) Launches history s := by
  have hall : ∀ loggers {history s}, Timed.Between e ends history s →
      s.watcher.point = .draining → s.loggers = loggers →
      Leads Timed.step (FailsAt e) Launches history s := by
    intro loggers
    induction loggers with
    | nil =>
      intro history s h hpoint hnone
      exact lead_classify hfast h hpoint hnone
    | cons ending loggers ih =>
      intro history s h hpoint hloggers
      exact lead_awaiting h hpoint hloggers ih
  exact hall s.loggers h hpoint rfl

private theorem lead_dead (hfast : e + drainLoggers ends < fastFailureWindow)
    (h : s.Between e ends history) (hpoint : s.watcher.point = .childPoll)
    (hexit : s.watcher.exit = some false) :
    Leads Timed.step (FailsAt e) Launches history s := by
  have hstep : s.watcher.step .pollChild =
      some ({ s.watcher with point := .draining }, [.exited false]) := by
    simp [Watcher.step, hpoint, hexit]
  apply h.lead ⟨h.watcher.first, trivial⟩ (Timed.step_act rfl hstep)
  intro hnext
  exact lead_draining hfast hnext rfl

private theorem lead_exit (hfast : e + drainLoggers ends < fastFailureWindow)
    (h : s.Between e ends history) (hpoint : s.watcher.point = .childPoll)
    (hexit : s.watcher.exit = none) (hnow : s.now = s.launched + e) :
    Leads Timed.step (FailsAt e) Launches history s := by
  have hstep :
      s.watcher.step (.exits false) = some ({ s.watcher with exit := some false }, []) := by
    simp [Watcher.step, hexit]
  have hallowed : FailsAt e history s (.act (.exits false)) := ⟨h.watcher.first, rfl, hnow⟩
  apply h.lead hallowed (Timed.step_act rfl hstep)
  intro hnext
  exact lead_dead hfast hnext hpoint rfl

private theorem lead_childPoll (hfast : e + drainLoggers ends < fastFailureWindow)
    (h : s.Between e ends history) (hpoint : s.watcher.point = .childPoll) :
    Leads Timed.step (FailsAt e) Launches history s := by
  cases hexit : s.watcher.exit with
  | none =>
    have halive := h.clock.alive (Or.inr hpoint) hexit
    have hmay : s.MayPass e (s.launched + e - s.now) :=
      ⟨fun _ => ⟨hexit, by omega⟩, by simp [hpoint]⟩
    have hstep : s.step (.pass (s.launched + e - s.now)) =
        some ({ s with now := s.now + (s.launched + e - s.now) }, []) := rfl
    have hnow : s.now + (s.launched + e - s.now) = s.launched + e := by omega
    apply h.lead ⟨h.watcher.first, hmay⟩ hstep
    intro hnext
    exact lead_exit hfast hnext hpoint hexit hnow
  | some success =>
    cases success with
    | false => exact lead_dead hfast h hpoint hexit
    | true => exact absurd hexit h.watcher.exit

private theorem Timed.Between.leads (hfast : e + drainLoggers ends < fastFailureWindow)
    (h : s.Between e ends history) : Leads Timed.step (FailsAt e) Launches history s := by
  have hpath := h.watcher.point
  rw [decide_eq_true hfast] at hpath
  cases hpoint : s.watcher.point with
  | stopPoll =>
    have hstep : s.watcher.step .pollStop = some ({ s.watcher with point := .childPoll }, []) := by
      simp [Watcher.step, hpoint, h.watcher.recv]
    apply h.lead ⟨h.watcher.first, trivial⟩ (Timed.step_act rfl hstep)
    intro hnext
    exact lead_childPoll hfast hnext rfl
  | childPoll => exact lead_childPoll hfast h hpoint
  | draining => exact lead_draining hfast h hpoint
  | judging verdict seen =>
    rw [hpoint] at hpath
    obtain ⟨rfl, rfl⟩ : verdict = none ∧ seen = true := by simpa [Point.between] using hpath
    exact lead_judging h hpoint
  | backoffStopPoll => exact lead_backoffStop h hpoint
  | backoffSleepPoll => exact lead_backoffSleep h hpoint
  | respawning => exact lead_respawning h hpoint
  | unwatched | terminating | killing | feeding | prompting | reportStopped | reportFailure
  | returning | ended =>
    rw [hpoint] at hpath
    cases hpath

end Leads

section Window

variable {w : Watcher} {now e : Nat} {ends : List (Option Nat)}

private theorem run_between (hw : w.Fresh) {history : List WatcherEvent} {t : Timed}
    (run : Run Timed.step (FailsAt e) (.top w now e ends) history t) :
    (e + drainLoggers ends < fastFailureWindow ∧ Launches history t) ∨
      t.Between e ends history := by
  apply run.invariant fun history t =>
    (e + drainLoggers ends < fastFailureWindow ∧ Launches history t) ∨ t.Between e ends history
  · exact Or.inr ⟨hw.between _, Timed.top_onTime hw now⟩
  · intro history s label t out hinv hallowed hstep
    rcases hinv with ⟨_, succeeds, hmem⟩ | hbetween
    · exact absurd hmem (hallowed.1 succeeds)
    · exact hbetween.step hallowed hstep

theorem relaunches_of_fast (hw : w.Fresh) (hfast : e + drainLoggers ends < fastFailureWindow) :
    Relaunches e (.top w now e ends) := by
  intro history t run
  rcases run_between hw run with ⟨_, hlaunched⟩ | hbetween
  · exact .here hlaunched
  · exact hbetween.leads hfast

theorem givesUp_of_slow (hw : w.Fresh) (hslow : fastFailureWindow ≤ e + drainLoggers ends) :
    GivesUp e (.top w now e ends) := by
  intro history t run
  rintro ⟨succeeds, hmem⟩
  rcases run_between hw run with ⟨hfast, _⟩ | hbetween
  · omega
  · exact hbetween.watcher.first succeeds hmem

private theorem not_relaunches_of_givesUp {s : Timed} (h : GivesUp e s) : ¬ Relaunches e s := by
  intro hrelaunches
  obtain ⟨history, t, run, hlaunched⟩ := (hrelaunches [] s .refl).run .refl
  exact h history t run hlaunched

/-- The exit time decides unless the drain carries an exit over the end of the window. -/
theorem retriedByExitTime_iff (hw : w.Fresh) (now e : Nat) (stdout stderr : Option Nat) :
    RetriedByExitTime e (.top w now e [stdout, stderr]) ↔
      fastFailureWindow ≤ e ∨ e + drainLoggers [stdout, stderr] < fastFailureWindow := by
  constructor
  · rintro ⟨hretried, _⟩
    by_contra hcrossed
    obtain ⟨hwithin, hover⟩ := not_or.mp hcrossed
    exact not_relaunches_of_givesUp (givesUp_of_slow hw (Nat.not_lt.mp hover))
      (hretried (Nat.not_le.mp hwithin))
  · intro hsame
    constructor
    · intro hwithin
      apply relaunches_of_fast hw
      omega
    · intro hlate
      apply givesUp_of_slow hw
      omega

private theorem fresh_watched : Watcher.spawned.watched.Fresh :=
  ⟨rfl, rfl, rfl, rfl, by decide⟩

/-- A crosswire that dies after four seconds and whose readers end at once. -/
theorem retriedByExitTime_four :
    RetriedByExitTime (4 * second)
      (.top Watcher.spawned.watched 0 (4 * second) [some 0, some 0]) :=
  (retriedByExitTime_iff fresh_watched 0 (4 * second) (some 0) (some 0)).mpr (Or.inr (by decide))

/-- One that dies within the window, while a process it left behind holds a pipe. -/
theorem not_retriedByExitTime_held :
    ¬ RetriedByExitTime (9 * second)
      (.top Watcher.spawned.watched 0 (9 * second) [none, some 0]) := by
  rintro ⟨hretried, _⟩
  have hslow : fastFailureWindow ≤ 9 * second + drainLoggers [none, some 0] := by decide
  exact not_relaunches_of_givesUp (givesUp_of_slow fresh_watched hslow) (hretried (by decide))

end Window

end CrosswireNm.Service
