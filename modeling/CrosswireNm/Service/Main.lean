import CrosswireNm.Service.IdleQuit
import CrosswireNm.Service.Orphans
import CrosswireNm.Service.Replies
import CrosswireNm.Service.Serial

/-!
# The service process

`main` serves the object until a signal comes or the observer resolves, then takes the `Supervisor`
out of the slot and stops it. When it returns, the process is gone with whatever still ran.
-/

namespace CrosswireNm.Service

open Library

/-- Where `main` is. -/
inductive MainPoint
  /-- in `select!`, one branch of which is the observer -/
  | serving
  /-- about to lock the slot -/
  | take
  /-- the slot is locked until `main` returns -/
  | stop (old : Nat)
  | awaitStop (old : Nat)
  | returned
  deriving DecidableEq, Repr

def MainPoint.old : MainPoint → Option Nat
  | .stop old | .awaitStop old => some old
  | _ => none

structure Main where
  plugin : Plugin
  observer : IdleQuit
  point : MainPoint

def Main.start (pppdPlugin ifname : String) (persist : Bool) : Main :=
  ⟨.start pppdPlugin ifname, .start persist, .serving⟩

inductive MainLabel
  | plugin (label : Label)
  | idle (label : IdleLabel)
  /-- SIGTERM or SIGINT -/
  | signal
  /-- `main` goes on -/
  | main
  /-- the 10 s of its `stop()` have passed -/
  | limit

inductive MainEvent
  | plugin (event : Event)
  | idle (event : IdleEvent)
  deriving DecidableEq, Repr

/-- A call that would lock the slot waits while `main` has it locked. -/
def Main.blocks (s : Main) : Label → Bool
  | .task h => s.point.old.isSome && (s.plugin.tasks h).locks
  | _ => false

def Event.sets : Event → Option ServiceState
  | .signal _ (.stateChanged next) => some next
  | _ => none

/-- The states that are set reach the observer. -/
def IdleQuit.hears (s : IdleQuit) : List ServiceState → IdleQuit × List IdleEvent
  | [] => (s, [])
  | next :: rest =>
    match idleStep s (.set next) with
    | some (t, out) => ((t.hears rest).1, out ++ (t.hears rest).2)
    | none => (s, [])

/-- What the observer does by itself; it is dropped when `select!` is left. -/
def IdleLabel.observes (point : MainPoint) : IdleLabel → Bool
  | .tick _ => true
  | .borrow | .changed | .sleep => point == .serving
  | .set _ | .close => false

def Main.step : Step Main MainLabel MainEvent := fun s label =>
  if s.point = .returned then none else
  match label with
  | .plugin label =>
    if s.blocks label then none
    else (s.plugin.step label).map fun (plugin, out) =>
      let (observer, sent) := s.observer.hears (out.filterMap Event.sets)
      ({ s with plugin, observer }, out.map .plugin ++ sent.map .idle)
  | .idle label =>
    if label.observes s.point then
      (idleStep s.observer label).map fun (observer, out) =>
        let resolved := s.point = .serving ∧ observer.point = .resolved
        ({ s with observer, point := if resolved then .take else s.point }, out.map .idle)
    else none
  | .signal => if s.point = .serving then some ({ s with point := .take }, []) else none
  | .main =>
    match s.point with
    | .take =>
      if s.plugin.slotGuard = none then
        match s.plugin.slot with
        | some old =>
          some ({ s with plugin := { s.plugin with slot := none }, point := .stop old }, [])
        | none => some ({ s with point := .returned }, [])
      else none
    | .stop old =>
      match s.plugin.sessions old with
      | none => none
      | some session =>
        match session.watcher.send with
        | some watcher =>
          some ({ s with
            plugin := s.plugin.setSession old { session with watcher }
            point := .awaitStop old }, [])
        | none => some ({ s with point := .returned }, [])
    | .awaitStop old =>
      match s.plugin.sessions old with
      | none => none
      | some session =>
        if session.watcher.answered then some ({ s with point := .returned }, []) else none
    | .serving | .returned => none
  | .limit =>
    match s.point with
    | .awaitStop _ => some ({ s with point := .returned }, [])
    | _ => none

inductive Main.Moves : Main → MainLabel → Main → Prop
  | plugin {s : Main} {label : Label} {plugin : Plugin} {out : List Event} :
      s.plugin.step label = some (plugin, out) →
      Moves s (.plugin label)
        { s with plugin, observer := (s.observer.hears (out.filterMap Event.sets)).1 }
  | idle {s : Main} {label : IdleLabel} {observer : IdleQuit} {out : List IdleEvent} :
      label.observes s.point = true → idleStep s.observer label = some (observer, out) →
      observer.point ≠ .resolved ∨ s.point ≠ .serving → Moves s (.idle label) { s with observer }
  | resolves {s : Main} {label : IdleLabel} {observer : IdleQuit} {out : List IdleEvent} :
      label.observes s.point = true → idleStep s.observer label = some (observer, out) →
      observer.point = .resolved → s.point = .serving →
      Moves s (.idle label) { s with observer, point := .take }
  | signal {s : Main} : s.point = .serving → Moves s .signal { s with point := .take }
  | take {s : Main} {old : Nat} : s.point = .take → s.plugin.slotGuard = none →
      s.plugin.slot = some old →
      Moves s .main { s with plugin := { s.plugin with slot := none }, point := .stop old }
  | takeNone {s : Main} : s.point = .take → s.plugin.slotGuard = none → s.plugin.slot = none →
      Moves s .main { s with point := .returned }
  | stop {s : Main} {old : Nat} {session : Session} : s.point = .stop old →
      s.plugin.sessions old = some session → session.watcher.point ≠ .ended →
      Moves s .main { s with
        plugin := s.plugin.setSession old
          ⟨session.launch, { session.watcher with request := .buffered }⟩
        point := .awaitStop old }
  | stopEnded {s : Main} {old : Nat} {session : Session} : s.point = .stop old →
      s.plugin.sessions old = some session → session.watcher.point = .ended →
      Moves s .main { s with point := .returned }
  | awaitStop {s : Main} {old : Nat} {session : Session} : s.point = .awaitStop old →
      s.plugin.sessions old = some session → session.watcher.answered = true →
      Moves s .main { s with point := .returned }
  | limit {s : Main} {old : Nat} : s.point = .awaitStop old →
      Moves s .limit { s with point := .returned }

private theorem Main.main_moves {s t : Main} {out : List MainEvent}
    (h : s.step .main = some (t, out)) : s.Moves .main t := by
  simp only [Main.step] at h
  split at h
  · cases h
  · split at h
    · split at h
      · split at h <;> cases h
        · exact .take ‹_› ‹_› ‹_›
        · exact .takeNone ‹_› ‹_› ‹_›
      · cases h
    · split at h
      · cases h
      · simp only [Watcher.send] at h
        split at h <;> rename_i hsend <;> split at hsend <;> cases hsend <;> cases h
        · exact .stop ‹_› ‹_› ‹_›
        · exact .stopEnded ‹_› ‹_› ‹_›
    · split at h
      · cases h
      · split at h <;> cases h
        exact .awaitStop ‹_› ‹_› ‹_›
    · cases h
    · cases h

theorem Main.step_moves {s t : Main} {label : MainLabel} {out : List MainEvent}
    (h : s.step label = some (t, out)) : s.Moves label t := by
  cases label with
  | plugin label =>
    simp only [Main.step] at h
    split at h
    · cases h
    · split at h
      · cases h
      · obtain ⟨⟨plugin, events⟩, hstep, hnext⟩ := Option.map_eq_some_iff.mp h
        cases hnext
        exact .plugin hstep
  | idle label =>
    simp only [Main.step] at h
    split at h
    · cases h
    · split at h
      · obtain ⟨⟨observer, events⟩, hstep, hnext⟩ := Option.map_eq_some_iff.mp h
        dsimp only at hnext
        split at hnext <;> cases hnext
        · rename_i hresolved
          exact .resolves ‹_› hstep hresolved.2 hresolved.1
        · rename_i hresolved
          exact .idle ‹_› hstep (by tauto)
      · cases h
  | signal =>
    simp only [Main.step] at h
    split at h
    · cases h
    · split at h <;> cases h
      exact .signal ‹_›
  | main => exact main_moves h
  | limit =>
    simp only [Main.step] at h
    split at h
    · cases h
    · split at h <;> cases h
      exact .limit ‹_›

/-! ## Quitting -/

/-- NM waits for each reply and makes no call once the service quits, which it does with no call in
progress; no `stop()` runs into its limit. -/
def orderly (_ : List MainEvent) (s : Main) : MainLabel → Prop
  | .plugin label => serialTimely [] s.plugin label ∧ (s.point ≠ .serving → label.opens = none)
  | .idle label => label = .sleep → s.plugin.Quiet
  | .signal => s.plugin.Quiet
  | .main => True
  | .limit => False

/-- `main` is past the lock: every session is over but the one it stops. -/
structure Main.Quits (s : Main) : Prop where
  quiet : s.plugin.Quiet
  kept : ∀ i session, s.plugin.sessions i = some session →
    session.watcher.Sound ∧ session.watcher.Tracked ∧ session.watcher.point ≠ .unwatched
  finished : ∀ i session, s.plugin.sessions i = some session →
    session.watcher.point.over = true ∨ s.point.old = some i
  old : ∀ i, s.point.old = some i → ∃ session, s.plugin.sessions i = some session ∧
    (s.point = .awaitStop i → session.watcher.request ≠ .none)

def Main.Ran (pppdPlugin ifname : String) (s : Main) : Prop :=
  ∃ past, Run Plugin.step serialTimely (.start pppdPlugin ifname) past s.plugin

structure Main.Kept (pppdPlugin ifname : String) (s : Main) : Prop where
  ran : s.point = .serving ∨ s.point = .take → s.Ran pppdPlugin ifname
  quiet : s.point = .take → s.plugin.Quiet
  quits : s.point ≠ .serving → s.point ≠ .take → s.Quits
  lives : s.observer.activeRx.closed = false
  waits : s.point = .serving → s.observer.point ≠ .resolved

section Steps

variable {s t : Plugin} {label : Label} {out : List Event}

/-- With no call in progress, only the watchers change the sessions. -/
theorem Plugin.Moves.aside (h : s.Moves label t out) (hquiet : s.Quiet)
    (hopens : label.opens = none) (i : Nat) : t.sessions i = s.sessions i ∨
      ∃ session act watcher events, s.sessions i = some session ∧
        session.watcher.Moves act watcher events ∧ act.sees s.inner.state = true ∧
        t.sessions i = some ⟨session.launch, watcher⟩ := by
  cases h with
  | connect | disconnect => cases hopens
  | send | deliver | readGateway | readGatewayNone | resolve | ip4Config | ip4Started =>
    exact Or.inl rfl
  | @watch k act session watcher events hsession hmoves _ hsees =>
    rw [Plugin.setSession_sessions]
    split
    · rename_i hself
      subst hself
      exact Or.inr ⟨session, act, watcher, events, hsession, hmoves, hsees, rfl⟩
    · exact Or.inl rfl
  | @report k session report hsession hpoint =>
    rw [Plugin.drive_sessions, Plugin.setSession_sessions]
    split
    · rename_i hself
      subst hself
      exact Or.inr ⟨session, _, _, _, hsession, Watcher.report_moves hpoint, rfl, rfl⟩
    · exact Or.inl rfl
  | storeGatewayMissing htask | storeGateway htask | askSecrets htask | leave htask | take htask
  | takeNone htask | stop htask | stopEnded htask | awaitStop htask | limit htask | reset htask
  | release htask | settle htask | enterStarting htask | spawn htask | spawnError htask
  | feed htask | storeSup htask | storeSupNone htask | spawnFailed htask =>
    have hdriving := congrArg Task.driving htask
    rw [hquiet] at hdriving
    cases hdriving

private theorem Plugin.Moves.quiet (h : s.Moves label t out) (hquiet : s.Quiet)
    (hopens : label.opens = none) : t.Quiet := by
  intro k
  by_contra hk
  rcases h.driving (by simpa using hk) with hbefore | hself
  · simp [hquiet k] at hbefore
  · simp [hopens] at hself

end Steps

section Quits

variable {pppdPlugin ifname : String} {s t : Main} {label : MainLabel} {history : List MainEvent}

private theorem Main.Quits.plugin {l : Label} {plugin : Plugin} {out : List Event}
    {observer : IdleQuit} (hs : s.Quits) (hopens : l.opens = none)
    (hstep : s.plugin.step l = some (plugin, out)) :
    Main.Quits { s with plugin, observer } := by
  have hmoves := Plugin.step_moves hstep
  have hsession := hmoves.aside hs.quiet hopens
  refine ⟨hmoves.quiet hs.quiet hopens, ?_, ?_, ?_⟩
  · intro i after hafter
    rcases hsession i with hsame | ⟨session, act, watcher, events, hbefore, hmove, _, hnow⟩
    · exact hs.kept i after (hsame.symm.trans hafter)
    · obtain ⟨hsound, htracked, hwatched⟩ := hs.kept i session hbefore
      obtain rfl := Option.some.inj (hnow.symm.trans hafter)
      exact ⟨hmove.sound hsound, hmove.tracked htracked, hmove.watched hwatched⟩
  · intro i after hafter
    rcases hsession i with hsame | ⟨session, act, watcher, events, hbefore, hmove, _, hnow⟩
    · exact hs.finished i after (hsame.symm.trans hafter)
    · obtain rfl := Option.some.inj (hnow.symm.trans hafter)
      exact (hs.finished i session hbefore).imp (fun hover => (hmove.over hover).1) id
  · intro i hold
    obtain ⟨session, hbefore, hrequest⟩ := hs.old i hold
    rcases hsession i with hsame | ⟨session', act, watcher, events, hbefore', hmove, _, hnow⟩
    · exact ⟨session, hsame.trans hbefore, hrequest⟩
    · obtain rfl := Option.some.inj (hbefore'.symm.trans hbefore)
      exact ⟨_, hnow, fun hpoint => hmove.requested (hrequest hpoint)⟩

private theorem Main.Ran.over (hs : s.Ran pppdPlugin ifname) (hquiet : s.plugin.Quiet) {i : Nat}
    {session : Session} (hsession : s.plugin.sessions i = some session) :
    session.watcher.point.over = true ∨ s.plugin.slot = some i := by
  obtain ⟨past, run⟩ := hs
  rcases (plugin_serial run).alone i session hsession with hover | hslot | ⟨h, hholds⟩
  · exact Or.inl hover
  · exact Or.inr hslot
  · have hdriving := Task.driving_of_holds hholds
    rw [hquiet h] at hdriving
    cases hdriving

private theorem Main.Ran.kept (hs : s.Ran pppdPlugin ifname) (hquiet : s.plugin.Quiet) {i : Nat}
    {session : Session} (hsession : s.plugin.sessions i = some session) :
    session.watcher.Sound ∧ session.watcher.Tracked ∧ session.watcher.point ≠ .unwatched := by
  obtain ⟨past, run⟩ := hs
  have hlive := plugin_live run
  refine ⟨hlive.1.sound i session hsession, hlive.2.tracked i session hsession,
    hlive.2.watched i session hsession ?_⟩
  intro hfeed
  have hdriving := hquiet i
  rw [hfeed] at hdriving
  cases hdriving

private theorem Main.Ran.takes {old : Nat} (hs : s.Ran pppdPlugin ifname)
    (hquiet : s.plugin.Quiet) (hslot : s.plugin.slot = some old) :
    Main.Quits { s with plugin := { s.plugin with slot := none }, point := .stop old } := by
  refine ⟨hquiet, fun i session => hs.kept hquiet, ?_, ?_⟩
  · intro i session hsession
    exact (hs.over hquiet hsession).imp id (fun hi => hslot.symm.trans hi)
  · intro i hi
    obtain rfl : old = i := Option.some.inj hi
    obtain ⟨past, run⟩ := hs
    obtain ⟨session, hsession, _⟩ := ((plugin_wf run).held old hslot).2
    exact ⟨session, hsession, nofun⟩

private theorem Main.Ran.takesNone (hs : s.Ran pppdPlugin ifname) (hquiet : s.plugin.Quiet)
    (hslot : s.plugin.slot = none) : Main.Quits { s with point := .returned } := by
  refine ⟨hquiet, fun i session => hs.kept hquiet, ?_, nofun⟩
  intro i session hsession
  refine (hs.over hquiet hsession).imp id (fun hi => ?_)
  rw [hslot] at hi
  cases hi

private theorem Main.Quits.stop {old : Nat} {session : Session} (hs : s.Quits)
    (hpoint : s.point = .stop old) (hsession : s.plugin.sessions old = some session)
    (hended : session.watcher.point ≠ .ended) :
    Main.Quits { s with
      plugin := s.plugin.setSession old
        ⟨session.launch, { session.watcher with request := .buffered }⟩
      point := .awaitStop old } := by
  obtain ⟨hsound, _, hwatched⟩ := hs.kept old session hsession
  refine ⟨hs.quiet, ?_, ?_, ?_⟩
  · intro i after hafter
    rw [Plugin.setSession_sessions] at hafter
    split at hafter
    · obtain rfl := Option.some.inj hafter
      exact ⟨hsound.buffered, .buffered hended, hwatched⟩
    · exact hs.kept i after hafter
  · intro i after hafter
    rw [Plugin.setSession_sessions] at hafter
    split at hafter
    · rename_i hself
      exact Or.inr (congrArg some hself.symm)
    · have hbefore := hs.finished i after hafter
      rwa [hpoint] at hbefore
  · intro i hi
    obtain rfl : old = i := Option.some.inj hi
    exact ⟨_, by rw [Plugin.setSession_sessions, if_pos rfl], fun _ => by simp⟩

private theorem Main.Quits.returns {old : Nat} {session : Session} (hs : s.Quits)
    (hold : s.point.old = some old) (hsession : s.plugin.sessions old = some session)
    (hover : session.watcher.point.over = true) : Main.Quits { s with point := .returned } := by
  refine ⟨hs.quiet, hs.kept, ?_, nofun⟩
  intro i after hafter
  rcases hs.finished i after hafter with hi | hi
  · exact Or.inl hi
  · obtain rfl := Option.some.inj (hold.symm.trans hi)
    obtain rfl := Option.some.inj (hsession.symm.trans hafter)
    exact Or.inl hover

theorem idleStep_observes {observer next : IdleQuit} {l : IdleLabel} {point : MainPoint}
    {out : List IdleEvent} (hobserves : l.observes point = true)
    (hstep : idleStep observer l = some (next, out)) :
    next.activeRx.value = observer.activeRx.value ∧
      next.activeRx.closed = observer.activeRx.closed := by
  cases l with
  | set | close => cases hobserves
  | tick =>
    cases hstep
    exact ⟨rfl, rfl⟩
  | borrow =>
    simp only [idleStep] at hstep
    split at hstep <;> cases hstep
    exact ⟨rfl, rfl⟩
  | changed =>
    simp only [idleStep] at hstep
    split at hstep
    · cases hstep
      obtain ⟨rfl, _⟩ := Watch.changed_newer ‹_›
      exact ⟨rfl, rfl⟩
    · cases hstep
      obtain ⟨rfl, _⟩ := Watch.changed_newer ‹_›
      exact ⟨rfl, rfl⟩
    · cases hstep
      exact ⟨rfl, rfl⟩
    · cases hstep
      exact ⟨rfl, rfl⟩
    · cases hstep
  | sleep =>
    simp only [idleStep] at hstep
    split at hstep
    · split at hstep <;> cases hstep
      exact ⟨rfl, rfl⟩
    · cases hstep

theorem IdleQuit.hears_spec (sets : List ServiceState) (observer : IdleQuit) :
    (observer.hears sets).1.point = observer.point ∧
      (observer.hears sets).1.activeRx.closed = observer.activeRx.closed := by
  induction sets generalizing observer with
  | nil => exact ⟨rfl, rfl⟩
  | cons next rest ih => exact ih _

/-- While the sender lives only the sleep resolves. -/
theorem idleStep_sleeps {observer next : IdleQuit} {l : IdleLabel} {out : List IdleEvent}
    (hlives : observer.activeRx.closed = false) (hopen : observer.point ≠ .resolved)
    (hstep : idleStep observer l = some (next, out)) (hresolved : next.point = .resolved) :
    l = .sleep := by
  cases l with
  | sleep => rfl
  | tick | set | close =>
    cases hstep
    exact absurd hresolved hopen
  | borrow =>
    simp only [idleStep] at hstep
    split at hstep <;> cases hstep
    dsimp only at hresolved
    split at hresolved <;> cases hresolved
  | changed =>
    have hclosed := Watch.changed_ne_closed hlives
    simp only [idleStep] at hstep
    split at hstep
    · cases hstep
      cases hresolved
    · cases hstep
      cases hresolved
    · exact absurd ‹_› hclosed
    · exact absurd ‹_› hclosed
    · cases hstep

theorem Main.Moves.kept (hmoves : s.Moves label t) (hs : s.Kept pppdPlugin ifname)
    (horderly : orderly history s label) : t.Kept pppdPlugin ifname := by
  cases hmoves with
  | @plugin l plugin out hstep =>
    obtain ⟨hpoint, hclosed⟩ := IdleQuit.hears_spec (out.filterMap Event.sets) s.observer
    refine ⟨?_, ?_, ?_, hclosed.trans hs.lives, fun hserving => ?_⟩
    · intro hearly
      obtain ⟨past, run⟩ := hs.ran hearly
      exact ⟨past ++ out, run.tail horderly.1 hstep⟩
    · intro htake
      have hopens := horderly.2 (fun hserving => by simp [hserving] at htake)
      exact (Plugin.step_moves hstep).quiet (hs.quiet htake) hopens
    · intro hserving htake
      exact (hs.quits hserving htake).plugin (horderly.2 hserving) hstep
    · rw [hpoint]
      exact hs.waits hserving
  | @idle l observer out hobserves hstep hopen =>
    have hclosed := (idleStep_observes hobserves hstep).2
    refine ⟨hs.ran, hs.quiet, ?_, hclosed.trans hs.lives, ?_⟩
    · intro hserving htake
      have hquits := hs.quits hserving htake
      exact ⟨hquits.quiet, hquits.kept, hquits.finished, hquits.old⟩
    · exact fun hserving => hopen.resolve_right (absurd hserving)
  | @resolves l observer out hobserves hstep hresolved hpoint =>
    have hlabel := idleStep_sleeps hs.lives (hs.waits hpoint) hstep hresolved
    have hclosed := (idleStep_observes hobserves hstep).2
    refine ⟨fun _ => hs.ran (Or.inl hpoint), fun _ => horderly hlabel, ?_, hclosed.trans hs.lives,
      nofun⟩
    exact fun _ htake => absurd rfl htake
  | signal hpoint =>
    refine ⟨fun _ => hs.ran (Or.inl hpoint), fun _ => horderly, ?_, hs.lives, nofun⟩
    exact fun _ htake => absurd rfl htake
  | take hpoint _ hslot =>
    have hquits := (hs.ran (Or.inr hpoint)).takes (hs.quiet hpoint) hslot
    exact ⟨nofun, nofun, fun _ _ => hquits, hs.lives, nofun⟩
  | takeNone hpoint _ hslot =>
    have hquits := (hs.ran (Or.inr hpoint)).takesNone (hs.quiet hpoint) hslot
    exact ⟨nofun, nofun, fun _ _ => hquits, hs.lives, nofun⟩
  | stop hpoint hsession hended =>
    have hquits := hs.quits (by simp [hpoint]) (by simp [hpoint])
    exact ⟨nofun, nofun, fun _ _ => hquits.stop hpoint hsession hended, hs.lives, nofun⟩
  | stopEnded hpoint hsession hended =>
    have hquits := hs.quits (by simp [hpoint]) (by simp [hpoint])
    have hreturns := hquits.returns (by rw [hpoint]; rfl) hsession (by rw [hended]; rfl)
    exact ⟨nofun, nofun, fun _ _ => hreturns, hs.lives, nofun⟩
  | @awaitStop old session hpoint hsession hanswered =>
    have hquits := hs.quits (by simp [hpoint]) (by simp [hpoint])
    have hreturns := hquits.returns (by rw [hpoint]; rfl) hsession
      ((hquits.kept old session hsession).1.answered hanswered)
    exact ⟨nofun, nofun, fun _ _ => hreturns, hs.lives, nofun⟩
  | limit => exact horderly.elim

theorem main_kept {persist : Bool}
    (run : Run Main.step orderly (.start pppdPlugin ifname persist) history s) :
    s.Kept pppdPlugin ifname := by
  apply run.state_invariant fun s => s.Kept pppdPlugin ifname
  · refine ⟨fun _ => ⟨[], .refl⟩, nofun, fun hserving => absurd rfl hserving, rfl, fun _ => ?_⟩
    cases persist <;> nofun
  · intro s label t out history hs horderly hstep
    exact (Main.step_moves hstep).kept hs horderly

/-- The calls and the watchers go on, and `main`. -/
def unaided (ends : OtherWait → Prop) (_ : List MainEvent) (s : Main) : MainLabel → Prop
  | .plugin label => settling ends [] s.plugin label
  | .main => True
  | .idle _ | .signal | .limit => False

def Main.HeldUp (ends : OtherWait → Prop) (s : Main) : Prop :=
  ∃ old session, s.point = .awaitStop old ∧ s.plugin.sessions old = some session ∧
    session.watcher.HeldUp ends

theorem Main.not_heldUp (s : Main) : ¬ s.HeldUp othersEnd :=
  fun ⟨_, session, _, _, hheld⟩ => session.watcher.not_heldUp hheld

private def Main.Returns (ends : OtherWait → Prop) (history : List MainEvent) (s : Main) : Prop :=
  Leads Main.step (unaided ends) (fun _ t => t.point = .returned ∨ t.HeldUp ends) history s

private theorem Main.Returns.head {ends : OtherWait → Prop}
    (hstep : s.step .main = some (t, [])) (hnext : t.Returns ends history) :
    s.Returns ends history := by
  have hleads : t.Returns ends (history ++ []) := by rwa [List.append_nil]
  exact Leads.step .main trivial hstep hleads

private theorem Main.Quits.awaits {ends : OtherWait → Prop} {old : Nat} (hs : s.Quits)
    (hpoint : s.point = .awaitStop old) : s.Returns ends history := by
  refine Leads.of_rank (fun t => t.Quits ∧ t.point = .awaitStop old)
    (fun t => (t.plugin.sessions old).elim 0 fun session => session.watcher.toReturn) ?_
    ⟨hs, hpoint⟩
  rintro history s ⟨hs, hpoint⟩
  obtain ⟨session, hsession, hrequest⟩ := hs.old old (by rw [hpoint]; rfl)
  obtain ⟨hsound, htracked, hwatched⟩ := hs.kept old session hsession
  by_cases hheld : session.watcher.HeldUp ends
  · exact Or.inl (Or.inr ⟨old, session, hpoint, hsession, hheld⟩)
  right
  by_cases hanswered : session.watcher.answered = true
  · have hstep : s.step .main = some ({ s with point := .returned }, []) := by
      simp [Main.step, hpoint, hsession, hanswered]
    exact .step .main trivial hstep (.here (Or.inl (Or.inl rfl)))
  · obtain ⟨act, v, events, hmove, hunforced, hsees, hless⟩ :=
      Watcher.down s.plugin.inner.state hsound htracked hwatched (hrequest hpoint) hanswered hheld
    obtain ⟨plugin, out, hplugin, _, hafter⟩ := Plugin.step_watch hsession hmove hsees
    have hstep : s.step (.plugin (.watch old act)) = some ({ s with
        plugin, observer := (s.observer.hears (out.filterMap Event.sets)).1 },
        out.map .plugin ++ (s.observer.hears (out.filterMap Event.sets)).2.map .idle) := by
      simp [Main.step, hpoint, Main.blocks, hplugin]
    refine .step (.plugin (.watch old act)) ⟨session, hsession, hunforced⟩ hstep
      (.here (Or.inr ⟨⟨hs.plugin rfl hplugin, hpoint⟩, ?_⟩))
    simpa [hafter, hsession] using hless

private theorem Main.Quits.stops {ends : OtherWait → Prop} {old : Nat} (hs : s.Quits)
    (hpoint : s.point = .stop old) : s.Returns ends history := by
  obtain ⟨session, hsession, _⟩ := hs.old old (by rw [hpoint]; rfl)
  by_cases hended : session.watcher.point = .ended
  · have hstep : s.step .main = some ({ s with point := .returned }, []) := by
      simp [Main.step, hpoint, hsession, Watcher.send, hended]
    exact Main.Returns.head hstep (.here (Or.inl rfl))
  · have hstep : s.step .main = some ({ s with
        plugin := s.plugin.setSession old
          ⟨session.launch, { session.watcher with request := .buffered }⟩
        point := .awaitStop old }, []) := by
      simp [Main.step, hpoint, hsession, Watcher.send, hended]
    exact Main.Returns.head hstep ((hs.stop hpoint hsession hended).awaits rfl)

private theorem Main.Kept.takes {ends : OtherWait → Prop} (hs : s.Kept pppdPlugin ifname)
    (hpoint : s.point = .take) : s.Returns ends history := by
  have hran := hs.ran (Or.inr hpoint)
  have hquiet := hs.quiet hpoint
  have hguard : s.plugin.slotGuard = none := by
    obtain ⟨past, run⟩ := hran
    cases hguard : s.plugin.slotGuard with
    | none => rfl
    | some h =>
      have hold := (plugin_wf run).locked h |>.mpr hguard
      have hdriving := hquiet h
      cases htask : s.plugin.tasks h <;> simp [htask, Task.old, Task.driving] at hold hdriving
  cases hslot : s.plugin.slot with
  | none =>
    have hstep : s.step .main = some ({ s with point := .returned }, []) := by
      simp [Main.step, hpoint, hguard, hslot]
    exact Main.Returns.head hstep (.here (Or.inl rfl))
  | some old =>
    have hstep : s.step .main = some ({ s with
        plugin := { s.plugin with slot := none }, point := .stop old }, []) := by
      simp [Main.step, hpoint, hguard, hslot]
    exact Main.Returns.head hstep ((hran.takes hquiet hslot).stops rfl)

private theorem Main.Kept.returns (hs : s.Kept pppdPlugin ifname) (hserving : s.point ≠ .serving)
    (ends : OtherWait → Prop) : s.Returns ends history := by
  cases hpoint : s.point with
  | serving => exact absurd hpoint hserving
  | take => exact hs.takes hpoint
  | stop old => exact (hs.quits (by simp [hpoint]) (by simp [hpoint])).stops hpoint
  | awaitStop old => exact (hs.quits (by simp [hpoint]) (by simp [hpoint])).awaits hpoint
  | returned => exact .here (Or.inl hpoint)

theorem Watcher.Sound.childless {w : Watcher} (hw : w.Sound)
    (hover : w.point.over = true) : w.Childless := by
  refine ⟨hw.dead hover, ?_⟩
  cases hpoint : w.point <;> simp [hpoint, Point.over] at hover <;> rfl

/-- A service that leaves its loop with no call in progress returns from `main` by its own steps and
its watchers', whatever crosswire does short of surviving SIGKILL, or the watcher it stops comes to
wait on another process that leaves it waiting; where every such wait ends, it returns. And when it
has returned every crosswire has ended and none is to be launched again, so that nothing is left to
be killed with the process. -/
theorem main_returns {persist : Bool}
    (run : Run Main.step orderly (.start pppdPlugin ifname persist) history s) :
    (s.point ≠ .serving →
      (∀ ends, Leads Main.step (unaided ends)
        (fun _ t => t.point = .returned ∨ t.HeldUp ends) history s) ∧
      Leads Main.step (unaided othersEnd) (fun _ t => t.point = .returned) history s) ∧
    (s.point = .returned → ∀ i session, s.plugin.sessions i = some session →
      session.watcher.Childless) := by
  have hkept := main_kept run
  constructor
  · intro hserving
    exact ⟨fun ends => hkept.returns hserving ends,
      (hkept.returns hserving othersEnd).resolve fun _ t => t.not_heldUp⟩
  · intro hpoint i session hsession
    have hquits := hkept.quits (by simp [hpoint]) (by simp [hpoint])
    have hover := (hquits.finished i session hsession).resolve_right
      (by simp [hpoint, MainPoint.old])
    exact (hquits.kept i session hsession).1.childless hover

end Quits

def begun : Main :=
  { Main.start "plugin.so" "ppp0" false with
    plugin := (Plugin.start "plugin.so" "ppp0").setTask 0
      (.storeGateway (mapConnection (samlConnection "vpn.example") "plugin.so" "ppp0" false)) }

/-- A crosswire is launched, and the service gets a SIGTERM. -/
theorem main_returns_launched :
    ∃ history s, Run Main.step orderly (.start "plugin.so" "ppp0" false) history s ∧
      s.plugin.slot = some 0 ∧
      (∀ ends, Leads Main.step (unaided ends)
        (fun _ t => t.point = .returned ∨ t.HeldUp ends) history s) ∧
      Leads Main.step (unaided othersEnd) (fun _ t => t.point = .returned) history s := by
  have hconnect : orderly [] (.start "plugin.so" "ppp0" false)
      (.plugin (.connect 0 (samlConnection "vpn.example"))) :=
    ⟨⟨fun _ => rfl, by simp⟩, fun hserving => absurd rfl hserving⟩
  have hbegun : Run Main.step orderly (.start "plugin.so" "ppp0" false) [] begun :=
    Run.refl.tail hconnect rfl
  obtain ⟨history, s, hexec, hslot, hpoint, hquiet⟩ : ∃ history s,
      exec Main.step (fun _ _ _ => true) [] begun (List.replicate 6 (.plugin (.task 0))) =
        some (history, s) ∧ s.plugin.slot = some 0 ∧ s.point = .serving ∧ s.plugin.Quiet :=
    ⟨_, _, rfl, rfl, rfl, by rintro (_ | _) <;> rfl⟩
  have hpieces : ∀ label ∈ List.replicate 6 (MainLabel.plugin (.task 0)), ∀ history s,
      orderly history s label := by
    intro label hlabel history s
    obtain rfl := List.eq_of_mem_replicate hlabel
    exact ⟨⟨trivial, by simp⟩, fun _ => rfl⟩
  have hlaunched := exec_run_mem hpieces hbegun hexec
  have hterm : orderly history s .signal := hquiet
  have hstep : s.step .signal = some ({ s with point := .take }, []) := by
    simp [Main.step, hpoint]
  have run := hlaunched.tail hterm hstep
  exact ⟨_, _, run, hslot, (main_returns run).1 (by simp)⟩

end CrosswireNm.Service
