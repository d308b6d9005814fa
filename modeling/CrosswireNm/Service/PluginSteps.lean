import CrosswireNm.Service.Plugin

/-!
# The steps of the service

`Plugin.Moves` names every step with what allows it and what it changes; the state machine and
the signals change only through the calls `Plugin.call` lists.
-/

namespace CrosswireNm.Service

open Library

section Fields

variable (s : Plugin) (h i : Nat) (task : Task) (session : Session) (cause : Cause) (call : Call)

@[simp, grind =] theorem Plugin.setTask_inner : (s.setTask h task).inner = s.inner := rfl
@[simp, grind =] theorem Plugin.setTask_gateway : (s.setTask h task).gateway = s.gateway := rfl
@[simp, grind =] theorem Plugin.setTask_slot : (s.setTask h task).slot = s.slot := rfl
@[simp, grind =] theorem Plugin.setTask_slotGuard :
    (s.setTask h task).slotGuard = s.slotGuard := rfl
@[simp, grind =] theorem Plugin.setTask_sessions (k : Nat) :
    (s.setTask h task).sessions k = s.sessions k := rfl
@[simp, grind =] theorem Plugin.setTask_inflight : (s.setTask h task).inflight = s.inflight := rfl
@[simp, grind =] theorem Plugin.setTask_tasks (k : Nat) :
    (s.setTask h task).tasks k = if k = h then task else s.tasks k :=
  Function.update_apply ..

@[simp, grind =] theorem Plugin.setSession_inner : (s.setSession i session).inner = s.inner := rfl
@[simp, grind =] theorem Plugin.setSession_gateway :
    (s.setSession i session).gateway = s.gateway := rfl
@[simp, grind =] theorem Plugin.setSession_slot : (s.setSession i session).slot = s.slot := rfl
@[simp, grind =] theorem Plugin.setSession_slotGuard :
    (s.setSession i session).slotGuard = s.slotGuard := rfl
@[simp, grind =] theorem Plugin.setSession_tasks (k : Nat) :
    (s.setSession i session).tasks k = s.tasks k := rfl
@[simp, grind =] theorem Plugin.setSession_inflight :
    (s.setSession i session).inflight = s.inflight := rfl
@[simp, grind =] theorem Plugin.setSession_sessions (k : Nat) :
    (s.setSession i session).sessions k = if k = i then some session else s.sessions k :=
  Function.update_apply ..

@[simp, grind =] theorem Plugin.dropSup_inner : (s.dropSup i).inner = s.inner := by
  unfold Plugin.dropSup
  split <;> rfl

@[simp, grind =] theorem Plugin.dropSup_gateway : (s.dropSup i).gateway = s.gateway := by
  unfold Plugin.dropSup
  split <;> rfl

@[simp, grind =] theorem Plugin.dropSup_slot : (s.dropSup i).slot = s.slot := by
  unfold Plugin.dropSup
  split <;> rfl

@[simp, grind =] theorem Plugin.dropSup_slotGuard : (s.dropSup i).slotGuard = s.slotGuard := by
  unfold Plugin.dropSup
  split <;> rfl

@[simp, grind =] theorem Plugin.dropSup_tasks (k : Nat) : (s.dropSup i).tasks k = s.tasks k := by
  unfold Plugin.dropSup
  split <;> rfl

@[simp, grind =] theorem Plugin.dropSup_inflight : (s.dropSup i).inflight = s.inflight := by
  unfold Plugin.dropSup
  split <;> rfl

@[simp, grind =] theorem Plugin.dropSup_sessions (k : Nat) :
    (s.dropSup i).sessions k = if k = i then (s.sessions i).map .dropSender else s.sessions k := by
  unfold Plugin.dropSup
  split <;> rename_i hsession
  · simp [hsession]
  · split <;> simp_all

@[simp, grind =] theorem Plugin.drive_inner :
    (s.drive cause call).1.inner = (s.inner.call call).1 := rfl
@[simp, grind =] theorem Plugin.drive_gateway : (s.drive cause call).1.gateway = s.gateway := rfl
@[simp, grind =] theorem Plugin.drive_slot : (s.drive cause call).1.slot = s.slot := rfl
@[simp, grind =] theorem Plugin.drive_slotGuard :
    (s.drive cause call).1.slotGuard = s.slotGuard := rfl
@[simp, grind =] theorem Plugin.drive_sessions (k : Nat) :
    (s.drive cause call).1.sessions k = s.sessions k := rfl
@[simp, grind =] theorem Plugin.drive_tasks (k : Nat) :
    (s.drive cause call).1.tasks k = s.tasks k := rfl
@[simp, grind =] theorem Plugin.drive_inflight : (s.drive cause call).1.inflight = s.inflight := rfl

end Fields

def Report.point : Report → Point
  | .stopped => .reportStopped
  | .failed => .reportFailure

theorem Watcher.report_moves {w : Watcher} {report : Report} (h : w.point = report.point) :
    w.Moves .report { w with point := .returning } [.report report] := by
  cases report
  · exact .reportStopped h
  · exact .reportFailure h

theorem Watcher.Moves.unwatched {w v : Watcher} {act : Act} {out : List WatcherEvent}
    (h : w.Moves act v out) (hw : w.point = .unwatched) : v.point = .unwatched := by
  cases h with
  | exits | line => exact hw
  | reap hpoint => rcases hpoint with hpoint | hpoint <;> simp [hpoint] at hw
  | _ => simp_all

/-- Every step of the service, with what allows it and what it changes. -/
inductive Plugin.Moves : Plugin → Label → Plugin → List Event → Prop
  | connect {s : Plugin} {h : Nat} {connection : Connection} : s.tasks h = .fresh →
      Moves s (.connect h connection)
        (s.setTask h (.storeGateway (mapConnection connection s.pppdPlugin s.ifname false))) []
  | disconnect {s : Plugin} {h : Nat} : s.tasks h = .fresh →
      Moves s (.disconnect h) (s.setTask h .leave) []
  | send {s : Plugin} {message : Message} : (s.sessions message.session).isSome →
      Moves s (.send message) { s with inflight := message :: s.inflight } []
  | deliver {s : Plugin} {h : Nat} {message : Message} : s.tasks h = .fresh →
      message ∈ s.inflight →
      Moves s (.deliver h message)
        ({ s with inflight := s.inflight.erase message }.setTask h message.task) []
  | storeGatewayMissing {s : Plugin} {h : Nat} {launch : Launch} {key : String} :
      s.tasks h = .storeGateway launch → launch.missingSecret = some key →
      Moves s (.task h) ({ s with gateway := launch.gateway }.setTask h (.askSecrets key)) []
  | storeGateway {s : Plugin} {h : Nat} {launch : Launch} :
      s.tasks h = .storeGateway launch → launch.missingSecret = none →
      Moves s (.task h)
        ({ s with gateway := launch.gateway }.setTask h (.take (.reconnect launch))) []
  | askSecrets {s : Plugin} {h : Nat} {key : String} : s.tasks h = .askSecrets key →
      Moves s (.task h) (s.setTask h .finished) [.secretsRequired h key]
  | leave {s : Plugin} {h : Nat} : s.tasks h = .leave →
      Moves s (.task h) ((s.drive (.disconnect h) (.to .stopping)).1.setTask h (.take .down))
        (s.drive (.disconnect h) (.to .stopping)).2
  | take {s : Plugin} {h old : Nat} {goal : Goal} : s.tasks h = .take goal →
      s.slotGuard = none → s.slot = some old →
      Moves s (.task h)
        ({ s with slot := none, slotGuard := some h }.setTask h (.stop goal old)) []
  | takeNone {s : Plugin} {h : Nat} {goal : Goal} : s.tasks h = .take goal →
      s.slotGuard = none → s.slot = none → Moves s (.task h) (s.setTask h goal.next) []
  | stop {s : Plugin} {h old : Nat} {goal : Goal} {session : Session} :
      s.tasks h = .stop goal old → s.sessions old = some session → session.watcher.point ≠ .ended →
      Moves s (.task h)
        ((s.setSession old
          ⟨session.launch, { session.watcher with request := .buffered }⟩).setTask h
          (.awaitStop goal old)) []
  | stopEnded {s : Plugin} {h old : Nat} {goal : Goal} {session : Session} :
      s.tasks h = .stop goal old → s.sessions old = some session → session.watcher.point = .ended →
      Moves s (.task h) (s.setTask h (.release goal old)) [.stopReturned old true]
  | awaitStop {s : Plugin} {h old : Nat} {goal : Goal} {session : Session} :
      s.tasks h = .awaitStop goal old → s.sessions old = some session →
      session.watcher.answered = true →
      Moves s (.task h) (s.setTask h (.release goal old)) [.stopReturned old true]
  | limit {s : Plugin} {h old : Nat} {goal : Goal} : s.tasks h = .awaitStop goal old →
      Moves s (.limit h) (s.setTask h (.release goal old)) [.stopReturned old false]
  | reset {s : Plugin} {h old : Nat} {launch : Launch} :
      s.tasks h = .release (.reconnect launch) old →
      Moves s (.task h)
        ({ (s.drive (.connect h) (.to .stopped)).1.dropSup old with slotGuard := none }.setTask h
          (.enterStarting launch))
        (s.drive (.connect h) (.to .stopped)).2
  | release {s : Plugin} {h old : Nat} : s.tasks h = .release .down old →
      Moves s (.task h) ({ s.dropSup old with slotGuard := none }.setTask h .settle) []
  | settle {s : Plugin} {h : Nat} : s.tasks h = .settle →
      Moves s (.task h) ((s.drive (.disconnect h) (.to .stopped)).1.setTask h .finished)
        (s.drive (.disconnect h) (.to .stopped)).2
  | enterStarting {s : Plugin} {h : Nat} {launch : Launch} : s.tasks h = .enterStarting launch →
      Moves s (.task h) ((s.drive (.connect h) (.to .starting)).1.setTask h (.spawn launch))
        (s.drive (.connect h) (.to .starting)).2
  | spawn {s : Plugin} {h : Nat} {launch : Launch} : s.tasks h = .spawn launch →
      Moves s (.task h) ((s.setSession h ⟨launch, .spawned⟩).setTask h .feed) []
  | spawnError {s : Plugin} {h : Nat} {launch : Launch} : s.tasks h = .spawn launch →
      Moves s (.spawnError h) (s.setTask h .spawnFailed) []
  | feed {s : Plugin} {h : Nat} {session : Session} : s.tasks h = .feed →
      s.sessions h = some session →
      Moves s (.task h)
        ((s.setSession h ⟨session.launch, session.watcher.watched⟩).setTask h .storeSup) []
  | storeSup {s : Plugin} {h old : Nat} : s.tasks h = .storeSup → s.slotGuard = none →
      s.slot = some old →
      Moves s (.task h) ({ s.dropSup old with slot := some h }.setTask h .finished) []
  | storeSupNone {s : Plugin} {h : Nat} : s.tasks h = .storeSup → s.slotGuard = none →
      s.slot = none → Moves s (.task h) ({ s with slot := some h }.setTask h .finished) []
  | spawnFailed {s : Plugin} {h : Nat} : s.tasks h = .spawnFailed →
      Moves s (.task h)
        ((s.drive (.connect h) (.fail .connectFailed)).1.setTask h .finished)
        (s.drive (.connect h) (.fail .connectFailed)).2
  | readGateway {s : Plugin} {h session : Nat} {host : String} :
      s.tasks h = .readGateway session → s.gateway = some host →
      Moves s (.task h) ({ s with gatewayGuard := some h }.setTask h (.resolve session host)) []
  | readGatewayNone {s : Plugin} {h session : Nat} : s.tasks h = .readGateway session →
      s.gateway = none → Moves s (.task h) (s.setTask h .finished) [.config session none]
  | resolve {s : Plugin} {h session : Nat} {host : String} : s.tasks h = .resolve session host →
      Moves s (.task h) ({ s with gatewayGuard := none }.setTask h .finished)
        [.config session (some host)]
  | ip4Config {s : Plugin} {h session : Nat} : s.tasks h = .ip4Config session →
      Moves s (.task h) (s.setTask h (.ip4Started session)) [.ip4Config session]
  | ip4Started {s : Plugin} {h session : Nat} : s.tasks h = .ip4Started session →
      Moves s (.task h) ((s.drive (.setIp4Config session) (.to .started)).1.setTask h .finished)
        (s.drive (.setIp4Config session) (.to .started)).2
  | watch {s : Plugin} {i : Nat} {act : Act} {session : Session} {watcher : Watcher}
      {out : List WatcherEvent} : s.sessions i = some session →
      session.watcher.Moves act watcher out → act ≠ .report → act.sees s.inner.state = true →
      Moves s (.watch i act) (s.setSession i ⟨session.launch, watcher⟩) []
  | report {s : Plugin} {i : Nat} {session : Session} (report : Report) :
      s.sessions i = some session → session.watcher.point = report.point →
      Moves s (.watch i .report)
        ((s.setSession i ⟨session.launch, { session.watcher with point := .returning }⟩).drive
          (.watcher i) report.call).1
        ((s.setSession i ⟨session.launch, { session.watcher with point := .returning }⟩).drive
          (.watcher i) report.call).2

private theorem Plugin.hear_silent {s : Plugin} {i : Nat} {w v : Watcher} {act : Act}
    {out : List WatcherEvent} (h : w.Moves act v out) (hact : act ≠ .report) :
    s.hear i out = (s, []) := by
  cases h with
  | reportStopped | reportFailure => exact absurd rfl hact
  | _ => rfl

private theorem Plugin.watch_moves {s t : Plugin} {i : Nat} {act : Act} {out : List Event}
    (h : s.step (.watch i act) = some (t, out)) : s.Moves (.watch i act) t out := by
  simp only [Plugin.step] at h
  split at h
  · cases h
  · rename_i session hsession
    split at h
    · rename_i hsees
      split at h
      · cases h
      · rename_i watcher events hstep
        have hmoves := Watcher.step_moves hstep
        have ht := Option.some.inj h
        by_cases hact : act = .report
        · subst hact
          cases hmoves with
          | reportStopped hpoint =>
            obtain ⟨rfl, rfl⟩ := Prod.mk.inj ht
            exact .report .stopped hsession hpoint
          | reportFailure hpoint =>
            obtain ⟨rfl, rfl⟩ := Prod.mk.inj ht
            exact .report .failed hsession hpoint
        · rw [Plugin.hear_silent hmoves hact] at ht
          obtain ⟨rfl, rfl⟩ := Prod.mk.inj ht
          exact .watch hsession hmoves hact hsees
    · cases h

private theorem Plugin.advance_moves {s t : Plugin} {h : Nat} {out : List Event}
    (hstep : s.advance h (s.tasks h) = some (t, out)) : s.Moves (.task h) t out := by
  generalize htask : s.tasks h = task at hstep
  cases task with
  | fresh | finished => cases hstep
  | storeGateway launch =>
    simp only [Plugin.advance] at hstep
    split at hstep
    · cases hmissing : launch.missingSecret <;> rw [hmissing] at hstep <;> cases hstep
      · exact .storeGateway htask hmissing
      · exact .storeGatewayMissing htask hmissing
    · cases hstep
  | askSecrets key =>
    cases hstep
    exact .askSecrets htask
  | enterStarting launch =>
    cases hstep
    exact .enterStarting htask
  | spawn launch =>
    cases hstep
    exact .spawn htask
  | feed =>
    simp only [Plugin.advance] at hstep
    split at hstep <;> cases hstep
    exact .feed htask ‹_›
  | storeSup =>
    simp only [Plugin.advance] at hstep
    split at hstep
    · rename_i hguard
      cases hslot : s.slot <;> rw [hslot] at hstep <;> cases hstep
      · exact .storeSupNone htask hguard hslot
      · exact .storeSup htask hguard hslot
    · cases hstep
  | spawnFailed =>
    cases hstep
    exact .spawnFailed htask
  | leave =>
    cases hstep
    exact .leave htask
  | settle =>
    cases hstep
    exact .settle htask
  | take goal =>
    simp only [Plugin.advance] at hstep
    split at hstep
    · rename_i hguard
      split at hstep <;> cases hstep
      · exact .take htask hguard ‹_›
      · exact .takeNone htask hguard ‹_›
    · cases hstep
  | stop goal old =>
    simp only [Plugin.advance, Watcher.send] at hstep
    split at hstep
    · cases hstep
    · rename_i session hsession
      split at hstep <;> rename_i hsend <;> split at hsend <;> cases hsend <;> cases hstep
      · exact .stop htask hsession ‹_›
      · exact .stopEnded htask hsession ‹_›
  | awaitStop goal old =>
    simp only [Plugin.advance] at hstep
    split at hstep
    · cases hstep
    · split at hstep <;> cases hstep
      exact .awaitStop htask ‹_› ‹_›
  | release goal old =>
    cases goal <;> cases hstep
    · exact .reset htask
    · exact .release htask
  | readGateway session =>
    simp only [Plugin.advance] at hstep
    split at hstep
    · split at hstep <;> cases hstep
      · exact .readGateway htask ‹_›
      · exact .readGatewayNone htask ‹_›
    · cases hstep
  | resolve session host =>
    cases hstep
    exact .resolve htask
  | ip4Config session =>
    cases hstep
    exact .ip4Config htask
  | ip4Started session =>
    cases hstep
    exact .ip4Started htask

theorem Plugin.step_moves {s t : Plugin} {label : Label} {out : List Event}
    (h : s.step label = some (t, out)) : s.Moves label t out := by
  cases label with
  | connect =>
    simp only [Plugin.step] at h
    split at h <;> cases h
    exact .connect ‹_›
  | disconnect =>
    simp only [Plugin.step] at h
    split at h <;> cases h
    exact .disconnect ‹_›
  | send =>
    simp only [Plugin.step] at h
    split at h <;> cases h
    exact .send ‹_›
  | deliver =>
    simp only [Plugin.step] at h
    split at h <;> cases h
    rename_i hready
    exact .deliver hready.1 hready.2
  | task => exact advance_moves h
  | limit =>
    simp only [Plugin.step] at h
    split at h <;> cases h
    exact .limit ‹_›
  | spawnError =>
    simp only [Plugin.step] at h
    split at h <;> cases h
    exact .spawnError ‹_›
  | watch => exact watch_moves h

/-! ## Calls on the state machine -/

/-- The call a label makes on the state machine, and who makes it. -/
def Plugin.call (s : Plugin) : Label → Option (Cause × Call)
  | .task h =>
    match s.tasks h with
    | .leave => some (.disconnect h, .to .stopping)
    | .settle => some (.disconnect h, .to .stopped)
    | .release (.reconnect _) _ => some (.connect h, .to .stopped)
    | .enterStarting _ => some (.connect h, .to .starting)
    | .spawnFailed => some (.connect h, .fail .connectFailed)
    | .ip4Started session => some (.setIp4Config session, .to .started)
    | _ => none
  | .watch i .report =>
    match (s.sessions i).map (fun session => session.watcher.point) with
    | some Point.reportStopped => some (.watcher i, Report.stopped.call)
    | some Point.reportFailure => some (.watcher i, Report.failed.call)
    | _ => none
  | _ => none

theorem Plugin.call_report {s : Plugin} {i : Nat} {session : Session} {report : Report}
    (hsession : s.sessions i = some session) (hpoint : session.watcher.point = report.point) :
    s.call (.watch i .report) = some (.watcher i, report.call) := by
  cases report <;> simp [Plugin.call, hsession, hpoint, Report.point]

inductive Plugin.Calls : Plugin → Label → Cause → Call → Prop
  | leave {s : Plugin} {h : Nat} : s.tasks h = .leave →
      Calls s (.task h) (.disconnect h) (.to .stopping)
  | settle {s : Plugin} {h : Nat} : s.tasks h = .settle →
      Calls s (.task h) (.disconnect h) (.to .stopped)
  | reset {s : Plugin} {h old : Nat} {launch : Launch} :
      s.tasks h = .release (.reconnect launch) old →
      Calls s (.task h) (.connect h) (.to .stopped)
  | enterStarting {s : Plugin} {h : Nat} {launch : Launch} : s.tasks h = .enterStarting launch →
      Calls s (.task h) (.connect h) (.to .starting)
  | spawnFailed {s : Plugin} {h : Nat} : s.tasks h = .spawnFailed →
      Calls s (.task h) (.connect h) (.fail .connectFailed)
  | ip4Started {s : Plugin} {h i : Nat} : s.tasks h = .ip4Started i →
      Calls s (.task h) (.setIp4Config i) (.to .started)
  | report {s : Plugin} {i : Nat} {session : Session} (report : Report) :
      s.sessions i = some session → session.watcher.point = report.point →
      Calls s (.watch i .report) (.watcher i) report.call

theorem Plugin.call_calls {s : Plugin} {label : Label} {cause : Cause} {call : Call}
    (h : s.call label = some (cause, call)) : s.Calls label cause call := by
  unfold Plugin.call at h
  split at h
  · split at h <;> cases h
    · exact .leave ‹_›
    · exact .settle ‹_›
    · exact .reset ‹_›
    · exact .enterStarting ‹_›
    · exact .spawnFailed ‹_›
    · exact .ip4Started ‹_›
  · split at h
    · rename_i hreport
      obtain ⟨session, hsession, hpoint⟩ := Option.map_eq_some_iff.mp hreport
      cases h
      exact .report .stopped hsession hpoint
    · rename_i hreport
      obtain ⟨session, hsession, hpoint⟩ := Option.map_eq_some_iff.mp hreport
      cases h
      exact .report .failed hsession hpoint
    · cases h
  · cases h

theorem Plugin.call_starting {s : Plugin} {label : Label} {cause : Cause}
    (h : s.call label = some (cause, .to .starting)) :
    ∃ k launch, label = .task k ∧ s.tasks k = .enterStarting launch ∧ cause = .connect k := by
  generalize hto : Call.to ServiceState.starting = call at h
  cases Plugin.call_calls h with
  | enterStarting htask => exact ⟨_, _, rfl, htask, rfl⟩
  | report report => cases report <;> cases hto
  | _ => cases hto

theorem Plugin.call_started {s : Plugin} {label : Label} {cause : Cause}
    (h : s.call label = some (cause, .to .started)) :
    ∃ k i, label = .task k ∧ s.tasks k = .ip4Started i ∧ cause = .setIp4Config i := by
  generalize hstarted : Call.to ServiceState.started = call at h
  cases Plugin.call_calls h with
  | ip4Started htask => exact ⟨_, _, rfl, htask, rfl⟩
  | report report => cases report <;> cases hstarted
  | _ => cases hstarted

/-- A step changes the state machine and emits signals exactly through the call it makes. -/
theorem Plugin.Moves.called {s t : Plugin} {label : Label} {out : List Event} {cause : Cause}
    {call : Call} (h : s.Moves label t out) (hcall : s.call label = some (cause, call)) :
    t.inner = (s.inner.call call).1 ∧ out = (s.inner.call call).2.map (.signal cause) := by
  cases h with
  | leave htask | settle htask | enterStarting htask | spawnFailed htask | ip4Started htask =>
    simp only [Plugin.call, htask] at hcall
    cases hcall
    exact ⟨rfl, rfl⟩
  | reset htask =>
    simp only [Plugin.call, htask] at hcall
    cases hcall
    exact ⟨by simp, rfl⟩
  | report report hsession hpoint =>
    rw [Plugin.call_report hsession hpoint] at hcall
    cases hcall
    exact ⟨rfl, rfl⟩
  | @watch i act => cases act <;> simp_all [Plugin.call]
  | connect | disconnect | send | deliver | limit | spawnError => cases hcall
  | _ => simp_all [Plugin.call]

theorem Plugin.Moves.uncalled {s t : Plugin} {label : Label} {out : List Event}
    (h : s.Moves label t out) (hcall : s.call label = none) :
    t.inner = s.inner ∧ ∀ cause signal, .signal cause signal ∉ out := by
  cases h with
  | leave htask | settle htask | enterStarting htask | spawnFailed htask | ip4Started htask
  | reset htask => simp [Plugin.call, htask] at hcall
  | report report hsession hpoint =>
    rw [Plugin.call_report hsession hpoint] at hcall
    cases hcall
  | release | storeSup => exact ⟨by simp, by simp⟩
  | _ => exact ⟨rfl, by simp⟩

/-- A step that announces a state other than `Stopped` asks for it and emits nothing else. -/
theorem Plugin.Moves.announces {s t : Plugin} {label : Label} {pre post : List Event}
    {cause : Cause} {next : ServiceState}
    (h : s.Moves label t (pre ++ .signal cause (.stateChanged next) :: post))
    (hnext : next ≠ .stopped) :
    pre = [] ∧ post = [] ∧ s.call label = some (cause, .to next) ∧
      legal s.inner.state next = true := by
  cases hcall : s.call label with
  | none => exact absurd (by simp) ((h.uncalled hcall).2 cause (.stateChanged next))
  | some made =>
    obtain ⟨cause', call⟩ := made
    have hout := (h.called hcall).2
    obtain ⟨before, rest, hsignals, hpre, hrest⟩ := List.append_eq_map_iff.mp hout
    obtain ⟨signal, after, rfl, hsignal, hpost⟩ := List.map_eq_cons_iff.mp hrest
    obtain ⟨rfl, rfl⟩ := Event.signal.inj hsignal
    obtain ⟨rfl, rfl, rfl, hlegal⟩ := Inner.call_announces hsignals hnext
    exact ⟨hpre.symm, hpost.symm, rfl, hlegal⟩

end CrosswireNm.Service
