import CrosswireNm.Service.IdleTimer
import CrosswireNm.Service.Main

/-!
# What an idle service leaves behind

The observer sees only whether the state machine is in an active state; that this is enough, and no
tunnel is torn down by a service that quits for idleness, rests on all that the service keeps.
-/

namespace CrosswireNm.Service

open Library

section Childless

variable {s : Plugin}

private theorem noOverlap_run {pppdPlugin ifname : String} {history : List Event}
    (run : Run Plugin.step serialTimely (.start pppdPlugin ifname) history s) :
    Run Plugin.step noOverlap (.start pppdPlugin ifname) history s := by
  induction run with
  | refl => exact .refl
  | tail run _ hstep ih =>
    refine ih.tail ⟨(plugin_serial run).one.callsApart, fun i _ _ _ => ?_⟩ hstep
    exact timely_history run (fun _ _ _ h => h.2) i

private theorem childless_run {pppdPlugin ifname : String} {history : List Event} {i : Nat}
    {session : Session} (run : Run Plugin.step serialTimely (.start pppdPlugin ifname) history s)
    (hquiet : s.Quiet) (hstopped : s.inner.state = .stopped)
    (hsession : s.sessions i = some session) : session.watcher.Childless := by
  have hnotDriving : ∀ h, ¬(s.tasks h).driving = true := by simp [hquiet _]
  rcases (plugin_serial run).alone i session hsession with hover | hslot | ⟨h, hholds⟩
  · exact ((plugin_wf run).sound i session hsession).childless hover
  · rcases stopped_settled (noOverlap_run run) hstopped with hsettled | ⟨h, hrearms⟩
    · exact hsettled.held i session hsession (Or.inl hslot)
    · exact absurd (Task.driving_of_rearms hrearms) (hnotDriving h)
  · exact absurd (Task.driving_of_holds hholds) (hnotDriving h)

end Childless

/-- Orderly (the sleep ends with no call in progress), and no time passes while the observer could
go on or beyond its sleep, which ends with every value seen. -/
def promptly (history : List MainEvent) (s : Main) (label : MainLabel) : Prop :=
  orderly history s label ∧ ∀ l, label = .idle l → Prompt [] s.observer l

def Main.Synced (s : Main) : Prop := s.observer.activeRx.value = activeIn s.plugin.inner.state

/-- The service has quit for idleness: everything is down. -/
structure Main.Down (s : Main) : Prop where
  left : s.point ≠ .serving
  stopped : s.plugin.inner.state = .stopped
  childless : ∀ i session, s.plugin.sessions i = some session → session.watcher.Childless

section Observer

variable {pppdPlugin ifname : String} {persist : Bool} {s t : Main} {label : MainLabel}
  {history : List MainEvent}

/-- A call on the state machine is heard of as the state it sets, if it sets one. -/
private theorem Inner.call_sets (inner : Inner) (call : Call) (cause : Cause) :
    ((inner.call call).1 = inner ∧
        ((inner.call call).2.map (Event.signal cause)).filterMap Event.sets = []) ∨
      ((inner.call call).2.map (Event.signal cause)).filterMap Event.sets =
        [(inner.call call).1.state] := by
  match call with
  | .to next =>
    rcases inner.to_cases next with ⟨hsame, _⟩ | ⟨hset, _⟩
    · left
      simp [Inner.call, hsame]
    · right
      simp only [Inner.call, hset]
      rfl
  | .fail reason =>
    unfold Inner.call Inner.fail
    dsimp only
    split
    · exact Or.inr rfl
    · exact Or.inl ⟨rfl, rfl⟩

private theorem Main.Synced.plugin {l : Label} {plugin : Plugin} {out : List Event}
    (hs : s.Synced) (hstep : s.plugin.step l = some (plugin, out)) :
    Main.Synced { s with
      plugin, observer := (s.observer.hears (out.filterMap Event.sets)).1 } := by
  have hmoves := Plugin.step_moves hstep
  unfold Main.Synced
  dsimp only
  cases hcall : s.plugin.call l with
  | none =>
    obtain ⟨hinner, hsilent⟩ := hmoves.uncalled hcall
    have hsets : out.filterMap Event.sets = [] := by
      rw [List.filterMap_eq_nil_iff]
      intro event hevent
      cases event with
      | signal cause signal => exact absurd hevent (hsilent cause signal)
      | _ => rfl
    rw [hsets, hinner]
    exact hs
  | some made =>
    obtain ⟨cause, call⟩ := made
    obtain ⟨hinner, rfl⟩ := hmoves.called hcall
    rw [hinner]
    rcases Inner.call_sets s.plugin.inner call cause with ⟨hsame, hsets⟩ | hsets
    · rw [hsets, hsame]
      exact hs
    · rw [hsets]
      rfl

private theorem hears_run {past : List IdleEvent} {observer : IdleQuit} (sets : List ServiceState)
    (run : Run idleStep Prompt (.start persist) past observer) :
    ∃ past', Run idleStep Prompt (.start persist) past' (observer.hears sets).1 := by
  induction sets generalizing past observer with
  | nil => exact ⟨past, run⟩
  | cons next rest ih =>
    have hset : Prompt past observer (.set next) := trivial
    exact ih (run.tail hset rfl)

private theorem Main.Moves.observed {past : List IdleEvent} (hmoves : s.Moves label t)
    (hprompt : promptly history s label)
    (run : Run idleStep Prompt (.start persist) past s.observer) :
    ∃ past', Run idleStep Prompt (.start persist) past' t.observer := by
  cases hmoves with
  | plugin hstep => exact hears_run _ run
  | @idle l observer out hobserves hstep | @resolves l observer out hobserves hstep =>
    have hallowed : Prompt past s.observer l := hprompt.2 l rfl
    exact ⟨_, run.tail hallowed hstep⟩
  | _ => exact ⟨past, run⟩

private theorem Main.Moves.synced (hmoves : s.Moves label t) (hs : s.Synced) : t.Synced := by
  cases hmoves with
  | plugin hstep => exact hs.plugin hstep
  | idle hobserves hstep | resolves hobserves hstep =>
    exact (idleStep_observes hobserves hstep).1.trans hs
  | _ => exact hs

private structure Main.Watches (pppdPlugin ifname : String) (persist : Bool) (s : Main) : Prop where
  kept : s.Kept pppdPlugin ifname
  synced : s.Synced
  observed : ∃ past, Run idleStep Prompt (.start persist) past s.observer

private theorem Main.Moves.watches (hmoves : s.Moves label t)
    (hs : s.Watches pppdPlugin ifname persist) (hprompt : promptly history s label) :
    t.Watches pppdPlugin ifname persist := by
  obtain ⟨past, hpast⟩ := hs.observed
  exact ⟨hmoves.kept hs.kept hprompt.1, hmoves.synced hs.synced, hmoves.observed hprompt hpast⟩

private theorem Main.Watches.stopped (hs : s.Watches pppdPlugin ifname persist)
    (hserving : s.point = .serving) (hprompt : promptly history s (.idle .sleep))
    {observer : IdleQuit} {out : List IdleEvent}
    (hstep : idleStep s.observer .sleep = some (observer, out)) :
    s.plugin.inner.state = .stopped := by
  obtain ⟨past, run⟩ := hs.observed
  obtain ⟨deadline, hpoint⟩ : ∃ deadline, s.observer.point = .sleeping deadline := by
    simp only [idleStep] at hstep
    split at hstep
    · exact ⟨_, ‹_›⟩
    · cases hstep
  have hvalue : s.observer.activeRx.value = false := by
    cases persist with
    | true =>
      rw [idleQuit_resident run.any] at hpoint
      cases hpoint
    | false =>
      have hrest : s.observer.AtRest := hprompt.2 _ rfl
      exact (((onTime_run run).sleeping deadline hpoint).2 hrest.1).1
  rw [hs.synced] at hvalue
  obtain ⟨pluginPast, pluginRun⟩ := hs.kept.ran (Or.inl hserving)
  have hquiet : s.plugin.Quiet := hprompt.1 rfl
  rcases (plugin_serial pluginRun).resting hquiet with hstopped | ⟨hup | hup, _⟩
  · exact hstopped
  · rw [hup] at hvalue
    cases hvalue
  · rw [hup] at hvalue
    cases hvalue

private theorem Main.Watches.resolves (hs : s.Watches pppdPlugin ifname persist)
    (hserving : s.point = .serving) (hprompt : promptly history s (.idle .sleep))
    {observer : IdleQuit} {out : List IdleEvent}
    (hstep : idleStep s.observer .sleep = some (observer, out)) :
    Main.Down { s with observer, point := .take } := by
  have hstopped := hs.stopped hserving hprompt hstep
  obtain ⟨past, run⟩ := hs.kept.ran (Or.inl hserving)
  have hquiet : s.plugin.Quiet := hprompt.1 rfl
  exact ⟨nofun, hstopped, fun i session => childless_run run hquiet hstopped⟩

/-- Nothing comes up again. -/
private theorem Main.Down.plugin {l : Label} {plugin : Plugin} {out : List Event}
    {observer : IdleQuit} (hs : s.Down) (hquiet : s.plugin.Quiet) (hopens : l.opens = none)
    (hstep : s.plugin.step l = some (plugin, out)) : Main.Down { s with plugin, observer } := by
  have hmoves := Plugin.step_moves hstep
  have hstopped : plugin.inner.state = .stopped := by
    cases hcall : s.plugin.call l with
    | none => rw [(hmoves.uncalled hcall).1, hs.stopped]
    | some made =>
      obtain ⟨cause, call⟩ := made
      rw [(hmoves.called hcall).1]
      cases Plugin.call_calls hcall with
      | ip4Started => simp [Inner.call, Inner.to, hs.stopped, legal]
      | report report => exact (Report.call_state s.plugin.inner report).1 hs.stopped
      | leave htask | settle htask | reset htask | enterStarting htask | spawnFailed htask =>
        have hdriving := congrArg Task.driving htask
        rw [hquiet] at hdriving
        cases hdriving
  refine ⟨hs.left, hstopped, ?_⟩
  intro i after hafter
  rcases hmoves.aside hquiet hopens i with hsame | ⟨session, act, w, events, hbefore, hmove, hsees,
    hnow⟩
  · exact hs.childless i after (hsame.symm.trans hafter)
  · obtain rfl := Option.some.inj (hnow.symm.trans hafter)
    refine hmove.childless (hs.childless i session hbefore) ?_
    rintro rfl
    rw [hs.stopped] at hsees
    cases hsees

private theorem Main.Kept.quiet_left (hs : s.Kept pppdPlugin ifname) (hleft : s.point ≠ .serving) :
    s.plugin.Quiet := by
  by_cases htake : s.point = .take
  · exact hs.quiet htake
  · exact (hs.quits hleft htake).quiet

private theorem Main.Moves.down (hmoves : s.Moves label t) (hs : s.Down)
    (hkept : s.Kept pppdPlugin ifname) (horderly : orderly history s label) : t.Down := by
  cases hmoves with
  | plugin hstep => exact hs.plugin (hkept.quiet_left hs.left) (horderly.2 hs.left) hstep
  | idle => exact ⟨hs.left, hs.stopped, hs.childless⟩
  | resolves _ _ _ hserving | signal hserving => exact absurd hserving hs.left
  | take | takeNone | stopEnded | awaitStop | limit =>
    exact ⟨nofun, hs.stopped, hs.childless⟩
  | @stop old session hpoint hsession hended =>
    refine ⟨nofun, hs.stopped, ?_⟩
    intro i after hafter
    rw [Plugin.setSession_sessions] at hafter
    split at hafter
    · obtain rfl := Option.some.inj hafter
      exact hs.childless old session hsession
    · exact hs.childless i after hafter

private theorem Main.Moves.idles (hmoves : s.Moves label t)
    (hs : s.Watches pppdPlugin ifname persist) (hdown : s.observer.point = .resolved → s.Down)
    (hprompt : promptly history s label) (hresolved : t.observer.point = .resolved) : t.Down := by
  have hkeep : s.observer.point = .resolved → t.Down := fun hbefore =>
    hmoves.down (hdown hbefore) hs.kept hprompt.1
  cases hmoves with
  | @plugin l plugin out hstep =>
    have hpoint := (IdleQuit.hears_spec (out.filterMap Event.sets) s.observer).1
    exact hkeep (hpoint.symm.trans hresolved)
  | @idle l observer out hobserves hstep hopen =>
    have hleft := hopen.resolve_left (fun hne => hne hresolved)
    cases l with
    | tick =>
      cases hstep
      exact hkeep hresolved
    | borrow | changed | sleep => exact absurd (by simpa [IdleLabel.observes] using hobserves) hleft
    | set | close => cases hobserves
  | @resolves l observer out hobserves hstep _ hserving =>
    obtain rfl := idleStep_sleeps hs.kept.lives (hs.kept.waits hserving) hstep hresolved
    exact hs.resolves hserving hprompt hstep
  | _ => exact hkeep hresolved

/-- A service that quits for idleness has nothing left to tear down: no crosswire runs, none is to
be launched again, and so it stays until the process is gone. -/
theorem idleQuit_nothingRuns
    (run : Run Main.step promptly (.start pppdPlugin ifname persist) history s)
    (hquit : s.observer.point = .resolved) :
    s.plugin.inner.state = .stopped ∧
      ∀ i session, s.plugin.sessions i = some session → session.watcher.Childless := by
  have hboth : s.Watches pppdPlugin ifname persist ∧ (s.observer.point = .resolved → s.Down) := by
    apply run.state_invariant fun s =>
      s.Watches pppdPlugin ifname persist ∧ (s.observer.point = .resolved → s.Down)
    · refine ⟨⟨main_kept .refl, rfl, [], .refl⟩, ?_⟩
      cases persist <;> nofun
    · rintro s label t out history ⟨hs, hdown⟩ hprompt hstep
      have hmoves := Main.step_moves hstep
      exact ⟨hmoves.watches hs hprompt, hmoves.idles hs hdown hprompt⟩
  have hdown := hboth.2 hquit
  exact ⟨hdown.stopped, hdown.childless⟩

end Observer

/-- The server closes the session, and then nobody connects. -/
def closedSession : List MainLabel :=
  List.replicate 6 (.plugin (.task 0)) ++
    [.plugin (.watch 0 .pollStop), .plugin (.watch 0 (.exits true)), .plugin (.watch 0 .pollChild),
      .plugin (.watch 0 .report), .idle .borrow, .idle .changed, .idle .borrow]

private theorem promptly_piece {history : List MainEvent} {s : Main} {label : Label}
    (hopens : label.opens = none) (hlimit : ∀ h, label ≠ .limit h) :
    promptly history s (.plugin label) := by
  have hserial : serial [] s.plugin label := by cases label <;> trivial
  exact ⟨⟨⟨hserial, hlimit⟩, fun _ => hopens⟩, by simp⟩

theorem idleQuit_nothingRuns_closed :
    ∃ history s, Run Main.step promptly (.start "plugin.so" "ppp0" false) history s ∧
      s.plugin.sessions 0 ≠ none ∧ s.plugin.inner.state = .stopped := by
  have hconnect : promptly [] (.start "plugin.so" "ppp0" false)
      (.plugin (.connect 0 (samlConnection "vpn.example"))) :=
    ⟨⟨⟨fun _ => rfl, by simp⟩, fun hserving => absurd rfl hserving⟩, by simp⟩
  have hbegun : Run Main.step promptly (.start "plugin.so" "ppp0" false) [] begun :=
    Run.refl.tail hconnect rfl
  obtain ⟨history, s, hexec, hsession, hpoint, hobserver, hquiet⟩ : ∃ history s,
      exec Main.step (fun _ _ _ => true) [] begun closedSession = some (history, s) ∧
        (s.plugin.sessions 0).isSome = true ∧ s.point = .serving ∧
        s.observer = ⟨0, ⟨.stopped, false⟩, ⟨false, 2, 2, false⟩, .sleeping quitTimer⟩ ∧
        s.plugin.Quiet :=
    ⟨_, _, rfl, rfl, rfl, rfl, by rintro (_ | _) <;> rfl⟩
  have hprompt : ∀ label ∈ closedSession, ∀ history s, promptly history s label := by
    intro label hlabel history s
    have hlook : promptly history s (.idle .borrow) ∧ promptly history s (.idle .changed) := by
      simp [promptly, orderly, Prompt]
    simp only [closedSession, List.mem_append, List.mem_replicate, List.mem_cons,
      List.not_mem_nil, or_false] at hlabel
    rcases hlabel with ⟨_, rfl⟩ | rfl | rfl | rfl | rfl | rfl | rfl | rfl
    · exact promptly_piece rfl (by simp)
    · exact promptly_piece rfl (by simp)
    · exact promptly_piece rfl (by simp)
    · exact promptly_piece rfl (by simp)
    · exact promptly_piece rfl (by simp)
    · exact hlook.1
    · exact hlook.2
    · exact hlook.1
  have hclosed := exec_run_mem hprompt hbegun hexec
  have htick : promptly history s (.idle (.tick quitTimer)) := by
    refine ⟨by simp [orderly], ?_⟩
    rintro _ ⟨⟩
    rw [hobserver]
    refine Or.inr ⟨⟨rfl, by simp⟩, ?_⟩
    intro deadline hdeadline
    obtain rfl := IdlePoint.sleeping.inj hdeadline
    decide
  have hticked : s.step (.idle (.tick quitTimer)) = some ({ s with
      observer := { s.observer with now := quitTimer } }, []) := by
    simp [Main.step, hpoint, hobserver, IdleLabel.observes, idleStep]
  have hsleep : promptly (history ++ []) { s with observer := { s.observer with now := quitTimer } }
      (.idle .sleep) := by
    refine ⟨fun _ => hquiet, ?_⟩
    rintro _ ⟨⟩
    rw [hobserver]
    exact ⟨rfl, by simp⟩
  have hslept : Main.step { s with observer := { s.observer with now := quitTimer } }
      (.idle .sleep) = some ({ s with
        observer := { s.observer with now := quitTimer, point := .resolved }, point := .take },
        [.idle (.resolved quitTimer)]) := by
    simp [Main.step, hpoint, hobserver, IdleLabel.observes, idleStep]
  have run := (hclosed.tail htick hticked).tail hsleep hslept
  exact ⟨_, _, run, Option.isSome_iff_ne_none.mp hsession, (idleQuit_nothingRuns run rfl).1⟩

end CrosswireNm.Service
