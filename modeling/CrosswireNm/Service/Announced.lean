import CrosswireNm.Service.Serial

/-!
# No crosswire runs unannounced

When NetworkManager waits for each reply, every `Connect` that launches crosswire has announced
`Starting`, even if a `stop()` before it gave up and an old watcher still reports: the state
machine is back in `Stopped` whenever it has to be.
-/

namespace CrosswireNm.Service

open Library

def Plugin.AtRest (s : Plugin) : Prop := s.inner.state = .stopped ∨ (s.Up ∧ s.slot ≠ none)

/-- What each piece of the call in progress finds. -/
def Plugin.Suits (s : Plugin) : Task → Prop
  | .storeGateway _ | .askSecrets _ | .leave | .take (.reconnect _) => s.AtRest
  | .stop (.reconnect _) _ | .awaitStop (.reconnect _) _ | .release (.reconnect _) _
  | .spawn _ | .feed | .storeSup | .spawnFailed => s.inner.state = .stopped ∨ s.Up
  | .take .down | .stop .down _ | .awaitStop .down _ | .release .down _ | .settle =>
    s.inner.state = .stopping ∨ s.inner.state = .stopped
  | .enterStarting _ => s.inner.state = .stopped
  | .fresh | .finished | .readGateway _ | .resolve _ _ | .ip4Config _ | .ip4Started _ => True

structure Plugin.Armed (s : Plugin) : Prop where
  one : s.One
  suits : ∀ h, (s.tasks h).driving = true → s.Suits (s.tasks h)
  rest : s.Quiet → s.AtRest

def Label.piece : Label → Option Nat
  | .task h | .limit h | .spawnError h => some h
  | _ => none

section Steps

variable {s t : Plugin} {label : Label} {out : List Event} {h : Nat}

/-- The slot is left alone, and the state machine at most reports a tunnel up or gone. -/
structure Plugin.Drifts (s t : Plugin) : Prop where
  slot : t.slot = s.slot
  state : t.inner.state = s.inner.state ∨
    (s.inner.state = .starting ∧ t.inner.state = .started) ∨ t.inner.state = .stopped

theorem Plugin.Drifts.atRest (hst : s.Drifts t) (hs : s.AtRest) : t.AtRest := by
  rcases hst.state with hsame | ⟨_, hstarted⟩ | hstopped
  · rwa [Plugin.AtRest, Plugin.Up, hsame, hst.slot]
  · rcases hs with hstopped | ⟨_, hslot⟩
    · simp_all
    · exact Or.inr ⟨Or.inr hstarted, by rwa [hst.slot]⟩
  · exact Or.inl hstopped

theorem Plugin.Drifts.suits {task : Task} (hst : s.Drifts t) (hs : s.Suits task) :
    t.Suits task := by
  have hdown : s.inner.state = .stopping ∨ s.inner.state = .stopped →
      t.inner.state = .stopping ∨ t.inner.state = .stopped := by
    intro hbefore
    rcases hst.state with hsame | ⟨hstarting, _⟩ | hstopped
    · rwa [hsame]
    · simp [hstarting] at hbefore
    · exact Or.inr hstopped
  have hup : s.inner.state = .stopped ∨ s.Up → t.inner.state = .stopped ∨ t.Up := by
    intro hbefore
    rcases hst.state with hsame | ⟨_, hstarted⟩ | hstopped
    · rwa [Plugin.Up, hsame]
    · exact Or.inr (Or.inr hstarted)
    · exact Or.inl hstopped
  cases task with
  | storeGateway | askSecrets | leave => exact hst.atRest hs
  | take goal =>
    cases goal
    · exact hst.atRest hs
    · exact hdown hs
  | stop goal | awaitStop goal | release goal =>
    cases goal
    · exact hup hs
    · exact hdown hs
  | spawn | feed | storeSup | spawnFailed => exact hup hs
  | settle => exact hdown hs
  | enterStarting =>
    rcases hst.state with hsame | ⟨hstarting, _⟩ | hstopped
    · exact hsame.trans hs
    · cases hstarting.symm.trans hs
    · exact hstopped
  | _ => trivial

private theorem Report.call_same (inner : Inner) (report : Report) :
    (inner.call report.call).1.state = inner.state ∨
      (inner.call report.call).1.state = .stopped := by
  obtain ⟨state, active⟩ := inner
  cases report <;> cases state <;> decide +revert

/-- A step that is no piece of a `Connect` or `Disconnect` only drifts. -/
theorem Plugin.Moves.drifts (hmoves : s.Moves label t out)
    (hidle : ∀ h, label.piece = some h → (s.tasks h).driving = false) : s.Drifts t := by
  cases hmoves with
  | connect | disconnect | send | deliver | watch => exact ⟨rfl, Or.inl rfl⟩
  | report report =>
    exact ⟨rfl, (Report.call_same s.inner report).imp id Or.inr⟩
  | readGateway | readGatewayNone | resolve | ip4Config => exact ⟨rfl, Or.inl rfl⟩
  | ip4Started => exact ⟨rfl, (Inner.to_started s.inner).imp id Or.inl⟩
  | _ =>
    have hk := hidle _ rfl
    simp_all [Task.driving]

private def Plugin.Passes (t : Plugin) (h : Nat) : Prop :=
  (t.tasks h = .finished ∧ t.AtRest) ∨ ((t.tasks h).driving = true ∧ t.Suits (t.tasks h))

private theorem Plugin.passes {task : Task} (hdriving : task.driving = true)
    (hsuits : (s.setTask h task).Suits task) : (s.setTask h task).Passes h := by
  refine Or.inr ?_
  rw [Plugin.setTask_tasks, if_pos rfl]
  exact ⟨hdriving, hsuits⟩

private theorem Plugin.passes_finished (hrest : (s.setTask h .finished).AtRest) :
    (s.setTask h .finished).Passes h :=
  Or.inl ⟨by simp, hrest⟩

private theorem Plugin.Moves.passes (hmoves : s.Moves label t out) (hpiece : label.piece = some h)
    (hdriving : (s.tasks h).driving = true) (hs : s.Suits (s.tasks h)) : t.Passes h := by
  cases hmoves with
  | connect | disconnect | send | deliver | watch | report => cases hpiece
  | storeGatewayMissing htask | storeGateway htask =>
    obtain rfl := Option.some.inj hpiece
    rw [htask] at hs
    exact Plugin.passes rfl hs
  | askSecrets htask =>
    obtain rfl := Option.some.inj hpiece
    rw [htask] at hs
    exact Plugin.passes_finished hs
  | leave htask =>
    obtain rfl := Option.some.inj hpiece
    rw [htask] at hs
    exact Plugin.passes rfl (Inner.to_stopping (hs.imp id And.left))
  | @take _ _ goal htask =>
    obtain rfl := Option.some.inj hpiece
    rw [htask] at hs
    cases goal
    · exact Plugin.passes rfl (hs.imp id And.left)
    · exact Plugin.passes rfl hs
  | @takeNone _ goal htask _ hslot =>
    obtain rfl := Option.some.inj hpiece
    rw [htask] at hs
    cases goal
    · exact Plugin.passes rfl (hs.resolve_right (fun hup => hup.2 hslot))
    · exact Plugin.passes rfl hs
  | @stop _ _ goal _ htask | @stopEnded _ _ goal _ htask | @awaitStop _ _ goal _ htask
  | @limit _ _ goal htask =>
    obtain rfl := Option.some.inj hpiece
    rw [htask] at hs
    cases goal <;> exact Plugin.passes rfl hs
  | reset htask =>
    obtain rfl := Option.some.inj hpiece
    rw [htask] at hs
    refine Plugin.passes rfl ?_
    simpa [Plugin.Suits, Inner.call] using Inner.to_stopped (Or.inr hs)
  | release htask =>
    obtain rfl := Option.some.inj hpiece
    rw [htask] at hs
    exact Plugin.passes rfl (by simpa [Plugin.Suits] using hs)
  | settle htask =>
    obtain rfl := Option.some.inj hpiece
    rw [htask] at hs
    exact Plugin.passes_finished (Or.inl (Inner.to_stopped (hs.imp id Or.inl)))
  | enterStarting htask =>
    obtain rfl := Option.some.inj hpiece
    rw [htask] at hs
    exact Plugin.passes rfl (Or.inr (Or.inl (Inner.to_starting hs)))
  | spawn htask | spawnError htask | feed htask =>
    obtain rfl := Option.some.inj hpiece
    rw [htask] at hs
    exact Plugin.passes rfl hs
  | storeSup htask | storeSupNone htask =>
    obtain rfl := Option.some.inj hpiece
    rw [htask] at hs
    refine Plugin.passes_finished ?_
    rcases hs with hstopped | hup
    · exact Or.inl (by simpa using hstopped)
    · exact Or.inr ⟨by simpa [Plugin.Up] using hup, by simp⟩
  | spawnFailed htask =>
    obtain rfl := Option.some.inj hpiece
    rw [htask] at hs
    refine Plugin.passes_finished (Or.inl ?_)
    rcases hs with hstopped | hup
    · simp [Inner.call, Inner.fail, failsIn, hstopped]
    · exact Inner.fail_up hup
  | readGateway htask | readGatewayNone htask | resolve htask | ip4Config htask
  | ip4Started htask =>
    obtain rfl := Option.some.inj hpiece
    simp [htask, Task.driving] at hdriving

private theorem Task.Next.piece {k : Nat} {task next : Task} (hnext : Task.Next k label task next)
    (hdriving : task.driving = true) : label.piece = some k := by
  cases hnext with
  | connect | disconnect | deliver => cases hdriving
  | _ => rfl

/-- The step lemma. -/
theorem Plugin.Moves.armed (hmoves : s.Moves label t out) (hs : s.Armed)
    (hserial : CrosswireNm.Service.serial [] s label) : t.Armed := by
  by_cases hpiece : ∃ h, label.piece = some h ∧ (s.tasks h).driving = true
  · obtain ⟨h, hpiece, hdriving⟩ := hpiece
    have hpasses := hmoves.passes hpiece hdriving (hs.suits h hdriving)
    have hone : ∀ k, (t.tasks k).driving = true → k = h := by
      intro k hk
      rcases hmoves.driving hk with hbefore | hopens
      · exact hs.one k h hbefore hdriving
      · cases label with
        | connect | disconnect => cases hpiece
        | _ => cases hopens
    refine ⟨hmoves.one hs.one hserial, ?_, ?_⟩
    · intro k hk
      obtain rfl := hone k hk
      rcases hpasses with ⟨hfinished, _⟩ | ⟨_, hsuits⟩
      · simp [hfinished, Task.driving] at hk
      · exact hsuits
    · intro hquiet
      rcases hpasses with ⟨_, hrest⟩ | ⟨hdriving', _⟩
      · exact hrest
      · simp [hquiet h] at hdriving'
  · have hidle : ∀ h, label.piece = some h → (s.tasks h).driving = false := by
      intro h hh
      by_contra hdriving
      exact hpiece ⟨h, hh, by simpa using hdriving⟩
    have hdrifts := hmoves.drifts hidle
    have hsame : ∀ k, (s.tasks k).driving = true → t.tasks k = s.tasks k := by
      intro k hk
      refine (hmoves.task k).resolve_right (fun hnext => ?_)
      rw [hidle k (hnext.piece hk)] at hk
      cases hk
    refine ⟨hmoves.one hs.one hserial, ?_, ?_⟩
    · intro k hk
      rcases hmoves.driving hk with hbefore | hopens
      · rw [hsame k hbefore]
        exact hdrifts.suits (hs.suits k hbefore)
      · have hquiet : s.Quiet := by cases label <;> first | exact hserial | cases hopens
        have hrest := hdrifts.atRest (hs.rest hquiet)
        cases hmoves with
        | connect | disconnect =>
          obtain rfl := Option.some.inj hopens
          rw [Plugin.setTask_tasks, if_pos rfl]
          exact hrest
        | _ => cases hopens
    · intro hquiet
      refine hdrifts.atRest (hs.rest (fun k => ?_))
      by_contra hk
      have hdriving : (s.tasks k).driving = true := by simpa using hk
      rw [← hsame k hdriving, hquiet k] at hdriving
      cases hdriving

end Steps

theorem plugin_armed {pppdPlugin ifname : String} {history : List Event} {s : Plugin}
    (run : Run Plugin.step serial (.start pppdPlugin ifname) history s) : s.Armed := by
  refine run.state_invariant Plugin.Armed ⟨?_, ?_, fun _ => Or.inl rfl⟩ ?_
  · simp [Plugin.One, Plugin.start, Task.driving]
  · simp [Plugin.start, Task.driving]
  · intro s label t out history hs hserial hstep
    exact (Plugin.step_moves hstep).armed hs hserial

/-! ## The announcements of one call -/

def Event.startingOf (h : Nat) : Event := .signal (.connect h) (.stateChanged .starting)

/-- Call `h` is past `to(Starting)` and has not been replied to. -/
def Task.announced : Task → Bool
  | .spawn _ | .feed | .storeSup | .spawnFailed => true
  | _ => false

/-- How often call `h` has announced `Starting`, at each of its points. -/
structure Plugin.Tells (s : Plugin) (history : List Event) (h : Nat) : Prop where
  silent : s.tasks h ≠ .finished → (s.tasks h).announced = false →
    history.count (.startingOf h) = 0
  told : (s.tasks h).announced = true → history.count (.startingOf h) = 1
  launched : s.sessions h ≠ none → history.count (.startingOf h) = 1

section Tells

variable {s t : Plugin} {label : Label} {out : List Event} {history : List Event} {h : Nat}

private theorem Plugin.call_forStarting {cause : Cause}
    (hcall : s.call label = some (cause, .to .starting)) :
    ∃ k launch, label = .task k ∧ s.tasks k = .enterStarting launch ∧ cause = .connect k := by
  generalize hstarting : Call.to ServiceState.starting = call at hcall
  cases Plugin.call_calls hcall with
  | enterStarting htask => exact ⟨_, _, rfl, htask, rfl⟩
  | report report => cases report <;> cases hstarting
  | _ => cases hstarting

/-- Only the piece of a call that asks for `Starting` announces it. -/
private theorem Plugin.Moves.startingOf (hmoves : s.Moves label t out)
    (hmem : Event.startingOf h ∈ out) :
    label = .task h ∧ ∃ launch, s.tasks h = .enterStarting launch := by
  obtain ⟨pre, post, rfl⟩ := List.append_of_mem hmem
  obtain ⟨_, _, hcall, _⟩ := hmoves.announces (by decide)
  obtain ⟨k, launch, rfl, htask, hcause⟩ := Plugin.call_forStarting hcall
  obtain rfl := Cause.connect.inj hcause
  exact ⟨rfl, launch, htask⟩

private theorem Plugin.Moves.tells_starting {launch : Launch} (hmoves : s.Moves (.task h) t out)
    (htask : s.tasks h = .enterStarting launch) (hstopped : s.inner.state = .stopped) :
    out = [.startingOf h] := by
  have hcall : s.call (.task h) = some (.connect h, .to .starting) := by simp [Plugin.call, htask]
  rw [(hmoves.called hcall).2]
  simp [Inner.call, Inner.to, hstopped, legal, Inner.set, Event.startingOf]

private theorem Task.Next.announced {k : Nat} {task next : Task}
    (hnext : Task.Next k label task next) (hnow : next.announced = true) :
    task.announced = true ∨ (label = .task k ∧ ∃ launch, task = .enterStarting launch) := by
  cases hnext with
  | enterStarting => exact Or.inr ⟨rfl, _, rfl⟩
  | spawn | spawnError | feed => exact Or.inl rfl
  | @deliver message => cases message <;> cases hnow
  | @takeNone goal | @release goal => cases goal <;> cases hnow
  | _ => cases hnow

private theorem Task.Next.silent {k : Nat} {task next : Task} (hnext : Task.Next k label task next)
    (hopen : next ≠ .finished) (hnow : next.announced = false) :
    task ≠ .finished ∧ task.announced = false := by
  cases hnext with
  | spawn | spawnError | feed => cases hnow
  | storeSup | spawnFailed => exact absurd rfl hopen
  | _ => exact ⟨nofun, rfl⟩

theorem Plugin.Moves.tells (hmoves : s.Moves label t out) (harmed : s.Armed)
    (hs : s.Tells history h) : t.Tells (history ++ out) h := by
  by_cases hstarts : label = .task h ∧ ∃ launch, s.tasks h = .enterStarting launch
  · obtain ⟨rfl, launch, htask⟩ := hstarts
    have hsuits := harmed.suits h (by rw [htask]; rfl)
    rw [htask] at hsuits
    have hout := hmoves.tells_starting htask hsuits
    have hone : (history ++ out).count (.startingOf h) = 1 := by
      rw [List.count_append, hs.silent (by simp [htask]) (by rw [htask]; rfl), hout]
      simp
    refine ⟨fun _ hsilent => ?_, fun _ => hone, fun _ => hone⟩
    cases hmoves <;> simp_all [Task.announced]
  · have hout : out.count (.startingOf h) = 0 :=
      List.count_eq_zero.mpr (fun hmem => hstarts (hmoves.startingOf hmem))
    have hcount : (history ++ out).count (.startingOf h) = history.count (.startingOf h) := by
      rw [List.count_append, hout, Nat.add_zero]
    refine ⟨fun hopen hsilent => ?_, fun hannounced => ?_, fun hsession => ?_⟩ <;> rw [hcount]
    · rcases hmoves.task h with hsame | hnext
      · exact hs.silent (hsame ▸ hopen) (hsame ▸ hsilent)
      · obtain ⟨hopen', hsilent'⟩ := hnext.silent hopen hsilent
        exact hs.silent hopen' hsilent'
    · rcases hmoves.task h with hsame | hnext
      · exact hs.told (hsame ▸ hannounced)
      · rcases hnext.announced hannounced with hbefore | hstarting
        · exact hs.told hbefore
        · exact absurd hstarting hstarts
    · obtain ⟨after, hafter⟩ := Option.ne_none_iff_exists'.mp hsession
      by_cases hnone : s.sessions h = none
      · obtain ⟨launch, _, htask, _⟩ := hmoves.session_new hafter hnone
        exact hs.told (by rw [htask]; rfl)
      · exact hs.launched hnone

end Tells

/-- When calls come one after the other, whether or not a `stop()` runs into its limit, every
crosswire that was ever launched was announced by exactly one `StateChanged(Starting)` of the
`Connect` that launched it, and between two calls the service is either in `Stopped` or holds the
`Supervisor` of a connection that is up: it is never left in `Stopping`. -/
theorem launched_announced {pppdPlugin ifname : String} {history : List Event} {s : Plugin}
    (run : Run Plugin.step serial (.start pppdPlugin ifname) history s) :
    (∀ i, s.sessions i ≠ none → history.count (.startingOf i) = 1) ∧
      (s.Quiet → s.inner.state = .stopped ∨
        ((s.inner.state = .starting ∨ s.inner.state = .started) ∧ s.slot ≠ none)) := by
  refine ⟨fun i => ?_, (plugin_armed run).rest⟩
  have htells : s.Armed ∧ s.Tells history i := by
    refine run.invariant (fun history s => s.Armed ∧ s.Tells history i) ?_ ?_
    · exact ⟨plugin_armed .refl, fun _ _ => rfl, nofun, fun hsession => absurd rfl hsession⟩
    · rintro history s label t out ⟨harmed, hs⟩ hserial hstep
      have hmoves := Plugin.step_moves hstep
      exact ⟨hmoves.armed harmed hserial, hmoves.tells harmed hs⟩
  exact htells.2.launched

def gaveUpReplace : List Label :=
  connectLabels 0 (samlConnection "vpn.example") ++
    [.connect 1 (samlConnection "other.example"), .task 1, .task 1, .task 1, .limit 1] ++
    List.replicate 5 (.task 1)

theorem launched_announced_gaveUpReplace :
    ∃ history s, Run Plugin.step serial (.start "plugin.so" "ppp0") history s ∧
      s.sessions 1 ≠ none ∧ history.count (.startingOf 1) = 1 := by
  obtain ⟨history, s, hexec, hsession⟩ : ∃ history s,
      exec Plugin.step (fun history s label => serialBelow 2 history s label && true) []
        (.start "plugin.so" "ppp0") gaveUpReplace = some (history, s) ∧ s.sessions 1 ≠ none :=
    ⟨_, _, rfl, nofun⟩
  have run : Run Plugin.step serial (.start "plugin.so" "ppp0") history s := by
    have hboth := (serialBelow_run 2 (fun _ _ _ => True)
      (exec_run (fun _ _ _ hok => Bool.and_eq_true_iff.mp hok |>.imp id (fun _ => trivial)) .refl
        hexec))
    exact hboth.mono (fun _ _ _ hallowed => hallowed.1)
  exact ⟨history, s, run, hsession, (launched_announced run).1 1 hsession⟩

end CrosswireNm.Service
