import CrosswireNm.Service.Held

/-!
# No orphaned tunnel

When no call is in progress and NetworkManager believes the tunnel is down, no crosswire may be
left running. `do_connect` never looks at the state between asking for `Starting` and storing its
`Supervisor`, so a `Disconnect` that overlaps with it is lost.
-/

namespace CrosswireNm.Service

open Library

/-- With no call in progress and the state machine in `Stopped`, every live crosswire has been
asked to tear down. -/
def Plugin.NoOrphan (s : Plugin) : Prop :=
  s.Quiet → s.inner.state = .stopped → ∀ i session, s.sessions i = some session →
    session.watcher.exit = none → session.watcher.asked = true

/-- The child is dead and no relaunch is booked. -/
def Watcher.Childless (w : Watcher) : Prop := w.exit ≠ none ∧ w.point.backingOff = 0

/-- No `Connect` is launching a crosswire, and the sessions in the slot or about to be stored
there are childless. -/
structure Plugin.Settled (s : Plugin) : Prop where
  feed : ∀ h, s.tasks h ≠ .feed
  spawn : ∀ h launch, s.tasks h ≠ .spawn launch
  held : ∀ i session, s.sessions i = some session → s.slot = some i ∨ s.tasks i = .storeSup →
    session.watcher.Childless

def Task.rearms : Task → Bool
  | .storeGateway launch => launch.missingSecret.isNone
  | .take (.reconnect _) | .stop (.reconnect _) _ | .awaitStop (.reconnect _) _
  | .release (.reconnect _) _ | .enterStarting _ => true
  | _ => false

/-- Whether a call takes the state machine from some other state to `Stopped`. -/
def Call.stops (state : ServiceState) : Call → Bool
  | .to next => next == .stopped && legal state .stopped
  | .fail _ => failsIn state

/-- Calls keep apart in taking the slot and launching, and no watcher whose `stop()` gave up on it
makes a report that takes the state machine to `Stopped`. -/
def noOverlap (history : List Event) (s : Plugin) (label : Label) : Prop :=
  callsApart history s label ∧
    ∀ i call, s.call label = some (.watcher i, call) → call.stops s.inner.state = true →
      .stopReturned i false ∉ history

theorem Watcher.Moves.childless {w v : Watcher} {act : Act} {out : List WatcherEvent}
    (h : w.Moves act v out) (hw : w.Childless) (hseen : act ≠ .judge .starting) : v.Childless := by
  obtain ⟨hexit, hbackoff⟩ := hw
  cases h with
  | exits => exact ⟨nofun, hbackoff⟩
  | line => exact ⟨hexit, hbackoff⟩
  | retry _ hstarting => exact absurd (congrArg _ hstarting) hseen
  | respawn hpoint | backoffNoStop hpoint => simp [hpoint, Point.backingOff] at hbackoff
  | sleepOver hpoint | sleepOn hpoint => simp [hpoint, Point.backingOff] at hbackoff
  | _ => exact ⟨hexit, rfl⟩

theorem Watcher.Next.childless {w v : Watcher} {state : ServiceState} (h : w.Next state v)
    (hw : w.Childless) (hstate : state ≠ .starting) : v.Childless := by
  cases h with
  | same | sent | dropped => exact hw
  | moves hsees hmoves =>
    refine hmoves.childless hw ?_
    rintro rfl
    have hstarting : ServiceState.starting = state := by simpa [Act.sees] using hsees
    exact hstate hstarting.symm
  | started => exact ⟨hw.1, rfl⟩

private theorem Task.Next.launches {k : Nat} {label : Label} {task next : Task}
    (h : Task.Next k label task next) : (next = .feed → ∃ launch, task = .spawn launch) ∧
      (next = .storeSup → task = .feed) ∧
      ∀ launch, next = .spawn launch → label = .task k ∧ task = .enterStarting launch := by
  cases h with
  | @deliver message => cases message <;> simp [Message.task]
  | @takeNone goal | @release goal => cases goal <;> simp [Goal.next]
  | _ => simp

private theorem Task.Next.rearms {k : Nat} {label : Label} {task next : Task}
    (h : Task.Next k label task next) (htask : task.rearms = true) :
    next.rearms = true ∨ (label = .task k ∧ ∃ launch, task = .enterStarting launch) := by
  cases h with
  | storeGatewayMissing hmissing => simp [Task.rearms, hmissing] at htask
  | enterStarting => exact Or.inr ⟨rfl, _, rfl⟩
  | @takeNone goal | @release goal =>
    left
    cases goal <;> exact htask
  | @take goal | @stop goal | @stopEnded goal | @awaitStop goal | @limit goal =>
    left
    cases goal <;> exact htask
  | storeGateway => exact Or.inl rfl
  | _ => cases htask

section Steps

variable {s t : Plugin} {label : Label} {out : List Event}

private theorem Inner.starting_ne_stopped (inner : Inner) :
    (inner.to .starting).1.state ≠ .stopped := by
  rcases inner.to_cases .starting with ⟨hsame, hstate | hillegal⟩ | ⟨hset, _⟩
  · simp [hsame, hstate]
  · rw [hsame]
    intro hstopped
    rw [hstopped] at hillegal
    cases hillegal
  · simp [hset]

private theorem Plugin.Moves.not_stopped {k : Nat} {launch : Launch}
    (h : s.Moves (.task k) t out) (htask : s.tasks k = .enterStarting launch) :
    t.inner.state ≠ .stopped := by
  have hcall : s.call (.task k) = some (.connect k, .to .starting) := by
    simp [Plugin.call, htask]
  rw [(h.called hcall).1]
  exact Inner.starting_ne_stopped s.inner

private theorem Plugin.Moves.slot_filled {i : Nat} (h : s.Moves label t out)
    (hslot : t.slot = some i) : s.slot = some i ∨ s.tasks i = .storeSup := by
  cases h with
  | take => cases hslot
  | storeSup htask | storeSupNone htask =>
    cases hslot
    exact Or.inr htask
  | _ => exact Or.inl (by simpa using hslot)

/-- Settled sessions stay settled while the state machine is in `Stopped`. -/
theorem Plugin.Moves.settled (h : s.Moves label t out) (hwf : s.Wf) (hs : s.Settled)
    (hstopped : t.inner.state = .stopped) : t.Settled where
  feed := by
    intro k hfeed
    rcases h.task k with hsame | hnext
    · exact hs.feed k (hsame ▸ hfeed)
    · obtain ⟨launch, hspawn⟩ := hnext.launches.1 hfeed
      exact hs.spawn k launch hspawn
  spawn := by
    intro k launch hspawn
    rcases h.task k with hsame | hnext
    · exact hs.spawn k launch (hsame ▸ hspawn)
    · obtain ⟨rfl, htask⟩ := hnext.launches.2.2 launch hspawn
      exact h.not_stopped htask hstopped
  held := by
    intro i after hafter hheld
    cases hsession : s.sessions i with
    | none =>
      obtain ⟨launch, _, hspawn, _⟩ := h.session_new hafter hsession
      exact absurd hspawn (hs.spawn i launch)
    | some session =>
      obtain ⟨after', hafter', _, hnext⟩ := h.session hwf hsession
      obtain rfl : after' = after := Option.some.inj (hafter'.symm.trans hafter)
      refine hnext.childless (hs.held i session hsession ?_) (by simp [hstopped])
      rcases hheld with hslot | hstore
      · exact h.slot_filled hslot
      · rcases h.task i with hsame | hnext
        · exact Or.inr (hsame ▸ hstore)
        · exact absurd (hnext.launches.2.1 hstore) (hs.feed i)

theorem Plugin.Moves.rearms {h : Nat} (hmoves : s.Moves label t out)
    (hs : (s.tasks h).rearms = true) (hstopped : t.inner.state = .stopped) :
    (t.tasks h).rearms = true := by
  rcases hmoves.task h with hsame | hnext
  · rwa [hsame]
  · rcases hnext.rearms hs with hrearms | ⟨rfl, launch, htask⟩
    · exact hrearms
    · exact absurd hstopped (hmoves.not_stopped htask)

/-- A call that ends in `Stopped` began there, or took the state machine there. -/
private theorem Inner.call_stopped {inner : Inner} {call : Call}
    (h : (inner.call call).1.state = .stopped) :
    inner.state = .stopped ∨ call.stops inner.state = true := by
  match call with
  | .to next =>
    rcases inner.to_cases next with ⟨hsame, _⟩ | ⟨hset, _, hlegal⟩
    · simp only [Inner.call, hsame] at h
      exact Or.inl h
    · simp only [Inner.call, hset, Inner.set_state] at h
      subst h
      exact Or.inr (by simp [Call.stops, hlegal])
  | .fail reason =>
    rcases inner.fail_cases reason with ⟨hsame, _⟩ | ⟨_, hfails⟩
    · simp only [Inner.call, hsame] at h
      exact Or.inl h
    · exact Or.inr hfails

private theorem Orderly.settled_call {history : List Event} {k : Nat} (hs : Orderly history s)
    (hpast : (s.tasks k).pastTake = true) (hfeed : s.tasks k ≠ .feed)
    (hspawn : ∀ launch, s.tasks k ≠ .spawn launch) (hstore : s.tasks k ≠ .storeSup) :
    s.Settled where
  feed := by
    intro h hh
    obtain rfl := hs.apart h k (by rw [hh]; rfl) hpast
    exact hfeed hh
  spawn := by
    intro h launch hh
    obtain rfl := hs.apart h k (by rw [hh]; rfl) hpast
    exact hspawn launch hh
  held := by
    rintro i session - (hslot | hh)
    · simp [hs.emptied k hpast] at hslot
    · obtain rfl := hs.apart i k (by rw [hh]; rfl) hpast
      exact absurd hh hstore

private theorem Orderly.settled_report {history : List Event} {i : Nat} {session : Session}
    {report : Report} (hs : Orderly history s) (hsession : s.sessions i = some session)
    (hpoint : session.watcher.point = report.point) (hheld : s.Held i) : s.Settled where
  feed := by
    intro h hh
    obtain rfl := hs.held_unique (Or.inr ⟨h, by rw [hh]; rfl⟩) hheld
    obtain ⟨session', hsession', _, hunwatched⟩ := hs.wf.feeding h hh
    obtain rfl : session = session' := Option.some.inj (hsession.symm.trans hsession')
    cases report <;> simp [hpoint, Report.point] at hunwatched
  spawn := by
    intro h launch hh
    rcases hheld with hslot | ⟨k, hk⟩
    · simp [hs.emptied h (by rw [hh]; rfl)] at hslot
    · obtain rfl := hs.apart h k (by rw [hh]; rfl) (Task.pastTake_of_holds hk)
      simp [hh, Task.holds] at hk
  held := by
    intro j session' hsession' huse
    have hj : s.Held j := huse.imp id (fun hstore => ⟨j, by rw [hstore]; rfl⟩)
    obtain rfl := hs.held_unique hheld hj
    obtain rfl : session = session' := Option.some.inj (hsession.symm.trans hsession')
    refine ⟨(hs.wf.sound i session hsession).reaped ?_, ?_⟩ <;>
      cases report <;> rw [hpoint] <;> rfl

/-- When the state machine is taken to `Stopped` the service is settled, or it is a `Connect` that
takes it there, before it re-arms it. -/
private theorem Orderly.settled {history : List Event} {cause : Cause} {call : Call}
    (hs : Orderly history s) (hallowed : noOverlap history s label)
    (hcall : s.call label = some (cause, call)) (hstops : call.stops s.inner.state = true) :
    s.Settled ∨ ∃ h, (s.tasks h).rearms = true := by
  cases Plugin.call_calls hcall with
  | leave | enterStarting | ip4Started => cases hstops
  | settle htask | spawnFailed htask =>
    left
    exact hs.settled_call (by rw [htask]; rfl) (by simp [htask]) (by simp [htask]) (by simp [htask])
  | @reset h _ _ htask =>
    right
    exact ⟨h, by rw [htask]; rfl⟩
  | @report i session report hsession hpoint =>
    left
    rcases hs.accounted i session hsession with hover | hheld | hgaveUp
    · cases report <;> simp [hpoint, Report.point, Point.over] at hover
    · exact hs.settled_report hsession hpoint hheld
    · exact absurd hgaveUp (hallowed.2 i _ hcall hstops)

end Steps

/-- In every such run the service is settled, or about to be in `Starting`, whenever the state
machine is in `Stopped`. -/
theorem stopped_settled {pppdPlugin ifname : String} {history : List Event} {s : Plugin}
    (run : Run Plugin.step noOverlap (.start pppdPlugin ifname) history s) :
    s.inner.state = .stopped → s.Settled ∨ ∃ h, (s.tasks h).rearms = true := by
  have hboth := run.invariant
    (fun history s => Orderly history s ∧
      (s.inner.state = .stopped → s.Settled ∨ ∃ h, (s.tasks h).rearms = true))
    ⟨Plugin.start_orderly pppdPlugin ifname, fun _ => Or.inl
      ⟨by simp [Plugin.start], by simp [Plugin.start], by simp [Plugin.start]⟩⟩ ?_
  · exact hboth.2
  · rintro history s label t out ⟨horderly, hs⟩ hallowed hstep
    have hmoves := Plugin.step_moves hstep
    refine ⟨hmoves.orderly horderly hallowed.1, fun hstopped => ?_⟩
    have hbefore : s.Settled ∨ ∃ h, (s.tasks h).rearms = true := by
      cases hcall : s.call label with
      | none => exact hs (by rw [← (hmoves.uncalled hcall).1, hstopped])
      | some made =>
        obtain ⟨cause, call⟩ := made
        have hafter := hstopped
        rw [(hmoves.called hcall).1] at hafter
        rcases Inner.call_stopped hafter with hbefore | hstops
        · exact hs hbefore
        · exact horderly.settled hallowed hcall hstops
    rcases hbefore with hsettled | ⟨h, hrearms⟩
    · exact Or.inl (hmoves.settled horderly.wf hsettled hstopped)
    · exact Or.inr ⟨h, hmoves.rearms hrearms hstopped⟩

theorem Task.driving_of_rearms {task : Task} (h : task.rearms = true) :
    task.driving = true := by
  cases task <;> first | rfl | cases h

/-- No orphaned tunnel, in every run in which no launch of a `Connect` overlaps with another call
past taking the slot, and no watcher its `stop()` gave up on takes the state machine to
`Stopped`. -/
theorem no_orphan {pppdPlugin ifname : String} {history : List Event} {s : Plugin}
    (run : Run Plugin.step noOverlap (.start pppdPlugin ifname) history s) : s.NoOrphan := by
  intro hquiet hstopped i session hsession hlive
  by_contra hasked
  have hwf := plugin_wf run
  have hslot : s.slot = some i := by
    have hkept := hwf.kept i session hsession (by simpa using hasked)
    rcases hkept with hslot | hfeed | hstore | ⟨h, hold⟩
    · exact hslot
    · have hdriving := hquiet i
      simp [hfeed, Task.driving] at hdriving
    · have hdriving := hquiet i
      simp [hstore, Task.driving] at hdriving
    · have hdriving := hquiet h
      cases htask : s.tasks h <;> simp [htask, Task.driving, Task.old] at hdriving hold
  rcases stopped_settled run hstopped with hsettled | ⟨h, hrearms⟩
  · exact (hsettled.held i session hsession (Or.inl hslot)).1 hlive
  · have hdriving := hquiet h
    rw [Task.driving_of_rearms hrearms] at hdriving
    cases hdriving

/-- A `Disconnect` is handled while the `Connect` before it still feeds its crosswire, and takes the
slot once the `Supervisor` is stored. -/
def overlappedDisconnect : List Label :=
  [.connect 0 (samlConnection "vpn.example"), .task 0, .task 0, .task 0, .task 0,
    .disconnect 1, .task 1, .task 0, .task 0, .task 1, .task 1,
    .watch 0 .pollStop, .watch 0 (.exits true), .watch 0 .reap, .task 1, .task 1, .task 1]

theorem no_orphan_overlappedDisconnect :
    ∃ history s, Run Plugin.step noOverlap (.start "plugin.so" "ppp0") history s ∧
      history = [.signal (.connect 0) (.stateChanged .starting),
        .signal (.disconnect 1) (.stateChanged .stopping), .stopReturned 0 true,
        .signal (.disconnect 1) (.stateChanged .stopped)] ∧
      s.tasks 0 = .finished ∧ s.tasks 1 = .finished ∧ s.Quiet ∧ s.inner.state = .stopped ∧
      (∃ session, s.sessions 0 = some session ∧ session.watcher.exit = some true) ∧
      s.NoOrphan := by
  obtain ⟨history, s, hexec, hhistory, hconnect, hdisconnect, hquiet, hstopped, hsession⟩ :
      ∃ history s,
        exec Plugin.step
          (fun history s label => apartBelow 2 history s label && timelySoFar history)
          [] (.start "plugin.so" "ppp0") overlappedDisconnect = some (history, s) ∧
        history = [.signal (.connect 0) (.stateChanged .starting),
          .signal (.disconnect 1) (.stateChanged .stopping), .stopReturned 0 true,
          .signal (.disconnect 1) (.stateChanged .stopped)] ∧
        s.tasks 0 = .finished ∧ s.tasks 1 = .finished ∧ s.Quiet ∧ s.inner.state = .stopped ∧
        ∃ session, s.sessions 0 = some session ∧ session.watcher.exit = some true :=
    ⟨_, _, rfl, rfl, rfl, rfl, fun h => match h with
      | 0 => rfl
      | 1 => rfl
      | _ + 2 => rfl, rfl, _, rfl, rfl⟩
  have run : Run Plugin.step noOverlap (.start "plugin.so" "ppp0") history s := by
    refine apartBelow_run 2 _ (exec_run (fun history s label hok => ?_) .refl hexec)
    obtain ⟨hapart, htimely⟩ := Bool.and_eq_true_iff.mp hok
    exact ⟨hapart, fun i _ _ _ => timelySoFar_spec htimely i⟩
  exact ⟨history, s, run, hhistory, hconnect, hdisconnect, hquiet, hstopped, hsession,
    no_orphan run⟩

/-- A `Disconnect` runs between a `Connect`'s `Starting` and its launch. -/
def overtakenConnect : List Label :=
  [.connect 0 (samlConnection "vpn.example"), .task 0, .task 0, .task 0,
    .disconnect 1, .task 1, .task 1, .task 1,
    .task 0, .task 0, .task 0]

theorem overtakenConnect_orphan :
    ∃ history s, Run Plugin.step anyLabel (.start "plugin.so" "ppp0") history s ∧ ¬ s.NoOrphan := by
  obtain ⟨history, s, hexec, hquiet, hstopped, session, hsession, hwatcher⟩ : ∃ history s,
      exec Plugin.step (fun _ _ _ => true) [] (.start "plugin.so" "ppp0") overtakenConnect =
        some (history, s) ∧ s.Quiet ∧ s.inner.state = .stopped ∧
      ∃ session, s.sessions 0 = some session ∧ session.watcher = Watcher.spawned.watched :=
    ⟨_, _, rfl, fun h => match h with
      | 0 => rfl
      | 1 => rfl
      | _ + 2 => rfl, rfl, _, rfl, rfl⟩
  refine ⟨history, s, exec_run (fun _ _ _ _ => trivial) .refl hexec, fun hnone => ?_⟩
  have hasked := hnone hquiet hstopped 0 session hsession (by rw [hwatcher]; rfl)
  rw [hwatcher] at hasked
  cases hasked

end CrosswireNm.Service
