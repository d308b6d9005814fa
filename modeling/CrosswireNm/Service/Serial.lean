import CrosswireNm.Service.Held

/-!
# Calls one after the other

When NetworkManager waits for each reply and every `stop()` is answered in time, the slot, the
state machine and the watchers agree: `Plugin.Serial` says what holds at each point of the call in
progress, whatever the watchers, the children and the pppds do meanwhile.
-/

namespace CrosswireNm.Service

open Library

/-- NM's calls are handled one after the other, and no `stop()` runs into its limit. -/
def serialTimely (history : List Event) (s : Plugin) (label : Label) : Prop :=
  serial history s label ∧ ∀ h, label ≠ .limit h

/-- No call is in progress, or none has touched anything yet: either all is down, or the session
in the slot is watched. -/
def Plugin.Resting (s : Plugin) : Prop :=
  s.inner.state = .stopped ∨ (s.Up ∧ ∃ i session, s.slot = some i ∧ s.sessions i = some session ∧
    session.watcher.point.over = false)

/-- What holds at each point of the call in progress. -/
def Plugin.Fits (s : Plugin) (h : Nat) : Task → Prop
  | .storeGateway _ | .askSecrets _ | .leave | .take (.reconnect _) => s.Resting
  | .stop (.reconnect _) _ | .awaitStop (.reconnect _) _ | .release (.reconnect _) _ =>
    s.inner.state = .stopped ∨ s.Up
  | .take .down | .stop .down _ | .awaitStop .down _ | .release .down _ =>
    s.inner.state = .stopping ∨ s.inner.state = .stopped
  | .settle => (s.inner.state = .stopping ∨ s.inner.state = .stopped) ∧ s.slot = none
  | .enterStarting _ => s.inner.state = .stopped ∧ s.slot = none
  | .spawn _ | .feed | .spawnFailed => s.Up ∧ s.slot = none
  | .storeSup => s.slot = none ∧ (s.inner.state = .stopped ∨ (s.Up ∧
      ∃ session, s.sessions h = some session ∧ session.watcher.point.over = false))
  | _ => True

structure Plugin.Serial (s : Plugin) : Prop where
  one : s.One
  fits : ∀ h, (s.tasks h).driving = true → s.Fits h (s.tasks h)
  resting : s.Quiet → s.Resting
  alone : ∀ i session, s.sessions i = some session → session.watcher.point.over = true ∨ s.Held i

section Held

variable {s t : Plugin} {label : Label} {out : List Event} {i : Nat}

theorem Plugin.Serial.slot_none {h : Nat} (hs : s.Serial) (hwf : s.Wf)
    (hholds : (s.tasks h).holds h = some i) : s.slot = none := by
  have hfits := hs.fits h (Task.driving_of_holds hholds)
  cases htask : s.tasks h with
  | feed =>
    rw [htask] at hfits
    exact hfits.2
  | storeSup =>
    rw [htask] at hfits
    exact hfits.1
  | stop goal old | awaitStop goal old =>
    have hold : (s.tasks h).old = some old := by simp [htask]
    exact hwf.slot_none hold
  | _ => simp [htask, Task.holds] at hholds

theorem Plugin.Serial.held_unique {j : Nat} (hs : s.Serial) (hwf : s.Wf) (hi : s.Held i)
    (hj : s.Held j) : i = j := by
  rcases hi with hi | ⟨h, hi⟩ <;> rcases hj with hj | ⟨k, hj⟩
  · exact Option.some.inj (hi.symm.trans hj)
  · simp [hs.slot_none hwf hj] at hi
  · simp [hs.slot_none hwf hi] at hj
  · obtain rfl := hs.one h k (Task.driving_of_holds hi) (Task.driving_of_holds hj)
    exact Option.some.inj (hi.symm.trans hj)

theorem Plugin.Serial.one_child {j : Nat} {session session' : Session} (hs : s.Serial) (hwf : s.Wf)
    (hi : s.sessions i = some session) (hlive : session.watcher.exit = none)
    (hj : s.sessions j = some session') (hlive' : session'.watcher.exit = none) : i = j := by
  refine hs.held_unique hwf ?_ ?_
  · rcases hs.alone i session hi with hover | hheld
    · exact absurd hlive ((hwf.sound i session hi).dead hover)
    · exact hheld
  · rcases hs.alone j session' hj with hover | hheld
    · exact absurd hlive' ((hwf.sound j session' hj).dead hover)
    · exact hheld

theorem Plugin.Moves.alone (h : s.Moves label t out) (hs : s.Serial) (hwf : s.Wf)
    (hlimit : ∀ h, label ≠ .limit h) (after : Session) (hafter : t.sessions i = some after) :
    after.watcher.point.over = true ∨ t.Held i := by
  have hempty : ∀ h, s.tasks h = .storeSup → s.slot = none := fun h htask =>
    hs.slot_none (h := h) (i := h) hwf (by simp [htask, Task.holds])
  have haccounted : s.Accounted [] := fun i session hsession =>
    (hs.alone i session hsession).imp id Or.inl
  rcases h.accounted hwf hempty haccounted i after hafter with hover | hheld | hgaveUp
  · exact Or.inl hover
  · exact Or.inr hheld
  · exact absurd hgaveUp (h.timely hlimit i)

end Held

/-! ## What the steps in between change -/

section Between

variable {s t : Plugin} {label : Label} {out : List Event}

/-- What a step of no call of NM may do to the state machine and the sessions in use. -/
structure Plugin.Calm (s t : Plugin) : Prop where
  slot : t.slot = s.slot
  tasks : ∀ k, (s.tasks k).driving = true → t.tasks k = s.tasks k
  state : t.inner.state = s.inner.state ∨
    (s.inner.state = .starting ∧ t.inner.state = .started)
  watched : ∀ i session, s.sessions i = some session → session.watcher.point.over = false →
    s.slot = some i ∨ s.tasks i = .storeSup →
    ∃ after, t.sessions i = some after ∧ after.watcher.point.over = false

theorem Plugin.Calm.up (h : s.Calm t) (hs : s.Up) : t.Up := by
  rcases h.state with hsame | ⟨_, hstarted⟩
  · rwa [Plugin.Up, hsame]
  · exact Or.inr hstarted

theorem Plugin.Calm.state_eq (h : s.Calm t) (hs : s.inner.state ≠ .starting) :
    t.inner.state = s.inner.state :=
  h.state.resolve_right (fun hstarting => hs hstarting.1)

theorem Plugin.Calm.resting (h : s.Calm t) (hs : s.Resting) : t.Resting := by
  rcases hs with hstopped | ⟨hup, i, session, hslot, hsession, hover⟩
  · exact Or.inl (by rw [h.state_eq (by simp [hstopped]), hstopped])
  · obtain ⟨after, hafter, hover'⟩ := h.watched i session hsession hover (Or.inl hslot)
    exact Or.inr ⟨h.up hup, i, after, h.slot.trans hslot, hafter, hover'⟩

theorem Plugin.Calm.fits {k : Nat} (h : s.Calm t) (hs : s.Fits k (s.tasks k)) :
    t.Fits k (s.tasks k) := by
  have hstopped : s.inner.state = .stopped → t.inner.state = .stopped := fun hstate => by
    rw [h.state_eq (by simp [hstate]), hstate]
  have hstopping : s.inner.state = .stopping → t.inner.state = .stopping := fun hstate => by
    rw [h.state_eq (by simp [hstate]), hstate]
  have hslot : s.slot = none → t.slot = none := fun hnone => h.slot.trans hnone
  cases htask : s.tasks k with
  | storeGateway | askSecrets | leave =>
    rw [htask] at hs
    exact h.resting hs
  | take goal =>
    rw [htask] at hs
    cases goal
    · exact h.resting hs
    · exact hs.imp hstopping hstopped
  | stop goal | awaitStop goal | release goal =>
    rw [htask] at hs
    cases goal
    · exact hs.imp hstopped h.up
    · exact hs.imp hstopping hstopped
  | settle =>
    rw [htask] at hs
    exact ⟨hs.1.imp hstopping hstopped, hslot hs.2⟩
  | enterStarting =>
    rw [htask] at hs
    exact ⟨hstopped hs.1, hslot hs.2⟩
  | spawn | feed | spawnFailed =>
    rw [htask] at hs
    exact ⟨h.up hs.1, hslot hs.2⟩
  | storeSup =>
    rw [htask] at hs
    refine ⟨hslot hs.1, hs.2.imp hstopped ?_⟩
    rintro ⟨hup, session, hsession, hover⟩
    exact ⟨h.up hup, h.watched k session hsession hover (Or.inr htask)⟩
  | _ => trivial

theorem Watcher.Moves.over_unasked {w v : Watcher} {act : Act} {events : List WatcherEvent}
    (h : w.Moves act v events) (hw : w.Sound) (hasked : w.asked = false) (hact : act ≠ .report)
    (hover : w.point.over = false) : v.point.over = false := by
  cases h with
  | exits | line => exact hover
  | stop _ hrequest | backoffStop _ hrequest => simp [Watcher.asked, hrequest] at hasked
  | closed _ hclosed | backoffClosed _ hclosed =>
    rw [Watcher.recv_asked hclosed] at hasked
    cases hasked
  | reap hpoint =>
    have hserving : w.point.serving = true := by
      rcases hpoint with hpoint | hpoint <;> simp [hpoint, Point.serving]
    rw [hw.serving hserving] at hasked
    cases hasked
  | reportStopped | reportFailure => exact absurd rfl hact
  | finish hpoint => simp [hpoint, Point.over] at hover
  | _ => rfl

theorem Plugin.Calm.setTask {h : Nat} {task : Task} (hcalm : s.Calm t)
    (hidle : (s.tasks h).driving = false) : s.Calm (t.setTask h task) where
  slot := hcalm.slot
  tasks := by
    intro k hk
    have hne : k ≠ h := by
      rintro rfl
      simp [hidle] at hk
    rw [Plugin.setTask_tasks, if_neg hne]
    exact hcalm.tasks k hk
  state := hcalm.state
  watched := hcalm.watched

theorem Plugin.Calm.of_same (hslot : t.slot = s.slot) (htasks : t.tasks = s.tasks)
    (hsessions : t.sessions = s.sessions)
    (hstate : t.inner.state = s.inner.state ∨
      (s.inner.state = .starting ∧ t.inner.state = .started)) : s.Calm t where
  slot := hslot
  tasks := fun k _ => by rw [htasks]
  state := hstate
  watched := fun i session hsession hover _ => ⟨session, by rwa [hsessions], hover⟩

theorem Inner.to_started (inner : Inner) :
    (inner.to .started).1.state = inner.state ∨
      (inner.state = .starting ∧ (inner.to .started).1.state = .started) := by
  rcases inner.to_cases .started with ⟨hsame, _⟩ | ⟨hset, _, hlegal⟩
  · exact Or.inl (by rw [hsame])
  · exact Or.inr ⟨by simpa [legal] using hlegal, by simp [hset]⟩

theorem Plugin.Wf.unasked {i : Nat} {session : Session} (hwf : s.Wf)
    (hsession : s.sessions i = some session) (huse : s.slot = some i ∨ s.tasks i = .storeSup) :
    session.watcher.asked = false := by
  obtain ⟨session', hsession', hasked⟩ : ∃ session, s.sessions i = some session ∧
      session.watcher.asked = false := by
    rcases huse with hslot | htask
    · exact (hwf.held i hslot).2
    · exact hwf.storing i htask
  obtain rfl : session = session' := Option.some.inj (hsession.symm.trans hsession')
  exact hasked

theorem Plugin.Moves.calm (h : s.Moves label t out) (hwf : s.Wf) (hopens : label.opens = none)
    (hidle : ∀ k, label = .task k → (s.tasks k).driving = false)
    (hlimit : ∀ h, label ≠ .limit h) (herror : ∀ h, label ≠ .spawnError h)
    (hreport : ∀ i, label ≠ .watch i .report) : s.Calm t := by
  cases h with
  | connect | disconnect => cases hopens
  | limit => exact absurd rfl (hlimit _)
  | spawnError => exact absurd rfl (herror _)
  | report => exact absurd rfl (hreport _)
  | send => exact .of_same rfl rfl rfl (Or.inl rfl)
  | deliver htask =>
    exact Plugin.Calm.setTask (.of_same rfl rfl rfl (Or.inl rfl)) (by rw [htask]; rfl)
  | readGateway | readGatewayNone | resolve | ip4Config =>
    exact Plugin.Calm.setTask (.of_same rfl rfl rfl (Or.inl rfl)) (hidle _ rfl)
  | ip4Started =>
    exact Plugin.Calm.setTask (.of_same rfl rfl rfl (Inner.to_started s.inner)) (hidle _ rfl)
  | @watch i act session watcher events hsession hmoves hact =>
    refine ⟨rfl, fun _ _ => rfl, Or.inl rfl, fun k session' hsession' hover huse => ?_⟩
    rw [Plugin.setSession_sessions]
    split
    · rename_i hself
      subst hself
      obtain rfl : session = session' := Option.some.inj (hsession.symm.trans hsession')
      refine ⟨_, rfl, hmoves.over_unasked (hwf.sound k session hsession) ?_ hact hover⟩
      exact hwf.unasked hsession huse
    · exact ⟨session', hsession', hover⟩
  | _ =>
    have hk := hidle _ rfl
    simp_all [Task.driving]

theorem Report.call_state (inner : Inner) (report : Report) :
    (inner.state = .stopped → (inner.call report.call).1.state = .stopped) ∧
      (inner.state = .stopping → (inner.call report.call).1.state = .stopping ∨
        (inner.call report.call).1.state = .stopped) ∧
      (inner.state = .starting ∨ inner.state = .started →
        (inner.call report.call).1.state = .stopped) := by
  obtain ⟨state, active⟩ := inner
  cases report <;> cases state <;> decide +revert

end Between

/-! ## What the call in progress changes -/

section Handler

variable {s t : Plugin} {label : Label} {out : List Event}

theorem Inner.to_stopping {inner : Inner} (h : inner.state = .stopped ∨
    inner.state = .starting ∨ inner.state = .started) :
    (inner.to .stopping).1.state = .stopping ∨ (inner.to .stopping).1.state = .stopped := by
  obtain ⟨state, active⟩ := inner
  rcases h with rfl | rfl | rfl <;> simp [Inner.to, legal]

theorem Inner.to_stopped {inner : Inner} (h : inner.state = .stopping ∨
    inner.state = .stopped ∨ inner.state = .starting ∨ inner.state = .started) :
    (inner.to .stopped).1.state = .stopped := by
  obtain ⟨state, active⟩ := inner
  rcases h with rfl | rfl | rfl | rfl <;> simp [Inner.to, legal]

theorem Inner.to_starting {inner : Inner} (h : inner.state = .stopped) :
    (inner.to .starting).1.state = .starting := by
  simp [Inner.to, legal, h]

theorem Inner.fail_up {inner : Inner} {reason : Failure}
    (h : inner.state = .starting ∨ inner.state = .started) :
    (inner.fail reason).1.state = .stopped := by
  rcases h with h | h <;> simp [Inner.fail, failsIn, h]

theorem Plugin.Resting.down_or_up (h : s.Resting) : s.inner.state = .stopped ∨ s.Up :=
  h.imp id And.left

theorem Plugin.Resting.congr (h : s.Resting) (hinner : t.inner = s.inner) (hslot : t.slot = s.slot)
    (hsessions : t.sessions = s.sessions) : t.Resting := by
  rcases h with hstopped | ⟨hup, i, session, hi, hsession, hover⟩
  · exact Or.inl (by rw [hinner, hstopped])
  · exact Or.inr ⟨by rwa [Plugin.Up, hinner], i, session, hslot.trans hi, by rwa [hsessions], hover⟩

/-- Call `h` has been replied to and the service is at rest, or its next piece finds what it
relies on. -/
def Plugin.Proceeds (t : Plugin) (h : Nat) : Prop :=
  (t.tasks h = .finished ∧ t.Resting) ∨ ((t.tasks h).driving = true ∧ t.Fits h (t.tasks h))

private theorem Plugin.proceeds {h : Nat} {task : Task} (hdriving : task.driving = true)
    (hfits : (s.setTask h task).Fits h task) : (s.setTask h task).Proceeds h := by
  refine Or.inr ?_
  rw [Plugin.setTask_tasks, if_pos rfl]
  exact ⟨hdriving, hfits⟩

private theorem Plugin.proceeds_finished {h : Nat} (hrest : (s.setTask h .finished).Resting) :
    (s.setTask h .finished).Proceeds h :=
  Or.inl ⟨by simp, hrest⟩

/-- A piece of a call that finds what it relies on leaves what the next piece relies on. -/
theorem Plugin.Moves.proceeds {h : Nat} (hmoves : s.Moves label t out) (hs : s.Serial)
    (hwf : s.Wf) (hlabel : label = .task h ∨ label = .spawnError h)
    (hdriving : (s.tasks h).driving = true) : t.Proceeds h := by
  have hfits : s.Fits h (s.tasks h) := hs.fits h hdriving
  cases hmoves with
  | connect | disconnect | send | deliver | limit | watch | report => simp at hlabel
  | storeGatewayMissing htask | storeGateway htask =>
    obtain rfl : _ = h := by simpa using hlabel
    rw [htask] at hfits
    exact Plugin.proceeds rfl (Plugin.Resting.congr hfits rfl rfl rfl)
  | askSecrets htask =>
    obtain rfl : _ = h := by simpa using hlabel
    rw [htask] at hfits
    exact Plugin.proceeds_finished (Plugin.Resting.congr hfits rfl rfl rfl)
  | leave htask =>
    obtain rfl : _ = h := by simpa using hlabel
    rw [htask] at hfits
    exact Plugin.proceeds rfl (Inner.to_stopping hfits.down_or_up)
  | @take _ _ goal htask =>
    obtain rfl : _ = h := by simpa using hlabel
    rw [htask] at hfits
    cases goal
    · exact Plugin.proceeds rfl hfits.down_or_up
    · exact Plugin.proceeds rfl hfits
  | @takeNone _ goal htask hguard hslot =>
    obtain rfl : _ = h := by simpa using hlabel
    rw [htask] at hfits
    cases goal
    · refine Plugin.proceeds rfl ⟨?_, hslot⟩
      rcases hfits with hstopped | ⟨_, i, _, hi, _⟩
      · exact hstopped
      · simp [hslot] at hi
    · exact Plugin.proceeds rfl ⟨hfits, hslot⟩
  | @stop _ _ goal _ htask | @stopEnded _ _ goal _ htask | @awaitStop _ _ goal _ htask =>
    obtain rfl : _ = h := by simpa using hlabel
    rw [htask] at hfits
    cases goal <;> exact Plugin.proceeds rfl hfits
  | @reset k old _ htask =>
    obtain rfl : k = h := by simpa using hlabel
    have hold : (s.tasks k).old = some old := by simp [htask]
    have hslot := hwf.slot_none hold
    rw [htask] at hfits
    refine Plugin.proceeds rfl ⟨?_, by simpa using hslot⟩
    simpa [Inner.call] using Inner.to_stopped (Or.inr hfits)
  | @release k old htask =>
    obtain rfl : k = h := by simpa using hlabel
    have hold : (s.tasks k).old = some old := by simp [htask]
    have hslot := hwf.slot_none hold
    rw [htask] at hfits
    exact Plugin.proceeds rfl ⟨by simpa [Plugin.Fits] using hfits, by simpa using hslot⟩
  | settle htask =>
    obtain rfl : _ = h := by simpa using hlabel
    rw [htask] at hfits
    refine Plugin.proceeds_finished (Or.inl ?_)
    exact Inner.to_stopped (hfits.1.imp id Or.inl)
  | enterStarting htask =>
    obtain rfl : _ = h := by simpa using hlabel
    rw [htask] at hfits
    exact Plugin.proceeds rfl ⟨Or.inl (Inner.to_starting hfits.1), hfits.2⟩
  | spawn htask | spawnError htask =>
    obtain rfl : _ = h := by simpa using hlabel
    rw [htask] at hfits
    exact Plugin.proceeds rfl hfits
  | @feed k session htask =>
    obtain rfl : k = h := by simpa using hlabel
    rw [htask] at hfits
    refine Plugin.proceeds rfl ⟨hfits.2, Or.inr ⟨hfits.1, ?_⟩⟩
    exact ⟨⟨session.launch, session.watcher.watched⟩, by simp, rfl⟩
  | @storeSup k _ htask _ hslot =>
    rw [hs.slot_none (h := k) (i := k) hwf (by simp [htask, Task.holds])] at hslot
    cases hslot
  | @storeSupNone k htask =>
    obtain rfl : k = h := by simpa using hlabel
    rw [htask] at hfits
    refine Plugin.proceeds_finished ?_
    rcases hfits.2 with hstopped | ⟨hup, session, hsession, hover⟩
    · exact Or.inl hstopped
    · exact Or.inr ⟨hup, k, session, rfl, hsession, hover⟩
  | spawnFailed htask =>
    obtain rfl : _ = h := by simpa using hlabel
    rw [htask] at hfits
    exact Plugin.proceeds_finished (Or.inl (Inner.fail_up hfits.1))
  | readGateway htask | readGatewayNone htask | resolve htask | ip4Config htask
  | ip4Started htask =>
    obtain rfl : _ = h := by simpa using hlabel
    simp [htask, Task.driving] at hdriving

theorem Plugin.Moves.opens {h : Nat} (hmoves : s.Moves label t out) (hrest : s.Resting)
    (hlabel : label.opens = some h) : t.Proceeds h := by
  cases hmoves with
  | connect | disconnect =>
    obtain rfl := Option.some.inj hlabel
    exact Plugin.proceeds rfl (hrest.congr rfl rfl rfl)
  | _ => cases hlabel

/-- A report leaves what the call in progress relies on: while one relies on the state machine
being up, nobody is left to report. -/
theorem Plugin.Moves.report_fits {i k : Nat} (hmoves : s.Moves (.watch i .report) t out)
    (hs : s.Serial) (hwf : s.Wf) (hk : (s.tasks k).driving = true) :
    t.tasks k = s.tasks k ∧ t.Fits k (s.tasks k) := by
  cases hmoves with
  | watch _ _ hact => exact absurd rfl hact
  | @report _ session report hsession hpoint =>
    refine ⟨rfl, ?_⟩
    obtain ⟨hstopped, hstopping, hup⟩ := Report.call_state s.inner report
    have hdown : s.inner.state = .stopping ∨ s.inner.state = .stopped →
        (s.inner.call report.call).1.state = .stopping ∨
          (s.inner.call report.call).1.state = .stopped := by
      rintro (hstate | hstate)
      · exact hstopping hstate
      · exact Or.inr (hstopped hstate)
    have hrest : s.inner.state = .stopped ∨ s.Up →
        (s.inner.call report.call).1.state = .stopped := by
      rintro (hstate | hstate)
      · exact hstopped hstate
      · exact hup hstate
    have hheld : s.Held i := by
      rcases hs.alone i session hsession with hover | hheld
      · cases report <;> simp [hpoint, Report.point, Point.over] at hover
      · exact hheld
    have hholds : s.slot = none → (s.tasks k).holds k = some i := by
      intro hslot
      rcases hheld with hheld | ⟨h, hh⟩
      · simp [hslot] at hheld
      · rwa [hs.one k h hk (Task.driving_of_holds hh)]
    have hfits := hs.fits k hk
    cases htask : s.tasks k with
    | storeGateway | askSecrets | leave =>
      rw [htask] at hfits
      exact Or.inl (hrest hfits.down_or_up)
    | take goal =>
      rw [htask] at hfits
      cases goal
      · exact Or.inl (hrest hfits.down_or_up)
      · exact hdown hfits
    | stop goal | awaitStop goal | release goal =>
      rw [htask] at hfits
      cases goal
      · exact Or.inl (hrest hfits)
      · exact hdown hfits
    | settle =>
      rw [htask] at hfits
      exact ⟨hdown hfits.1, hfits.2⟩
    | enterStarting =>
      rw [htask] at hfits
      exact ⟨hstopped hfits.1, hfits.2⟩
    | spawn | spawnFailed =>
      rw [htask] at hfits
      have hnone := hholds hfits.2
      simp [htask, Task.holds] at hnone
    | feed =>
      rw [htask] at hfits
      have hself := hholds hfits.2
      obtain rfl : k = i := by simpa [htask, Task.holds] using hself
      obtain ⟨session', hsession', _, hunwatched⟩ := hwf.feeding k htask
      obtain rfl : session = session' := Option.some.inj (hsession.symm.trans hsession')
      cases report <;> simp [hpoint, Report.point] at hunwatched
    | storeSup =>
      rw [htask] at hfits
      exact ⟨hfits.1, Or.inl (hrest (hfits.2.imp id And.left))⟩
    | _ => trivial

theorem Plugin.Moves.report_resting {i : Nat} (hmoves : s.Moves (.watch i .report) t out)
    (hs : s.Resting) : t.Resting := by
  cases hmoves with
  | watch _ _ hact => exact absurd rfl hact
  | report report =>
    obtain ⟨hstopped, _, hup⟩ := Report.call_state s.inner report
    exact Or.inl (hs.down_or_up.elim hstopped hup)

theorem Plugin.Moves.kinds (hmoves : s.Moves label t out) (hs : s.Serial) (hwf : s.Wf)
    (hserial : CrosswireNm.Service.serial [] s label) (hlimit : ∀ h, label ≠ .limit h) :
    (∃ h, t.Proceeds h ∧ ∀ k, (t.tasks k).driving = true → k = h) ∨
      ((∀ k, (t.tasks k).driving = true → (s.tasks k).driving = true) ∧
        (∀ k, (s.tasks k).driving = true → t.tasks k = s.tasks k ∧ t.Fits k (s.tasks k)) ∧
        (s.Resting → t.Resting)) := by
  cases hopens : label.opens with
  | some h =>
    have hquiet : s.Quiet := by cases label <;> first | exact hserial | cases hopens
    refine Or.inl ⟨h, hmoves.opens (hs.resting hquiet) hopens, fun k hk => ?_⟩
    rcases hmoves.driving hk with hbefore | hself
    · simp [hquiet k] at hbefore
    · exact Option.some.inj (hself.symm.trans hopens)
  | none =>
    have hkeep : ∀ k, (t.tasks k).driving = true → (s.tasks k).driving = true := fun k hk =>
      (hmoves.driving hk).resolve_right (by simp [hopens])
    by_cases hpiece : ∃ h, (label = .task h ∨ label = .spawnError h) ∧ (s.tasks h).driving = true
    · obtain ⟨h, hlabel, hdriving⟩ := hpiece
      exact Or.inl ⟨h, hmoves.proceeds hs hwf hlabel hdriving,
        fun k hk => hs.one k h (hkeep k hk) hdriving⟩
    · refine Or.inr ⟨hkeep, ?_⟩
      by_cases hreport : ∃ i, label = .watch i .report
      · obtain ⟨i, rfl⟩ := hreport
        exact ⟨fun k => hmoves.report_fits hs hwf, hmoves.report_resting⟩
      · have hidle : ∀ k, label = .task k ∨ label = .spawnError k →
            (s.tasks k).driving = false := by
          intro k hlabel
          by_contra hdriving
          exact hpiece ⟨k, hlabel, by simpa using hdriving⟩
        have hcalm : s.Calm t := by
          refine hmoves.calm hwf hopens (fun k hk => hidle k (Or.inl hk)) hlimit ?_
            (fun i hi => hreport ⟨i, hi⟩)
          rintro k rfl
          cases hmoves with
          | spawnError htask => simpa [htask, Task.driving] using hidle k (Or.inr rfl)
        exact ⟨fun k hk => ⟨hcalm.tasks k hk, hcalm.fits (hs.fits k hk)⟩, hcalm.resting⟩

/-- The step lemma: whatever moves, a service whose calls come one after the other stays one. -/
theorem Plugin.Moves.serial (hmoves : s.Moves label t out) (hs : s.Serial) (hwf : s.Wf)
    (hserial : serial [] s label) (hlimit : ∀ h, label ≠ .limit h) : t.Serial where
  one := hmoves.one hs.one hserial
  fits := by
    intro k hk
    rcases hmoves.kinds hs hwf hserial hlimit with ⟨h, hproceeds, hone⟩ | ⟨hkeep, hfits, _⟩
    · obtain rfl := hone k hk
      rcases hproceeds with ⟨hfinished, _⟩ | ⟨_, hfits⟩
      · simp [hfinished, Task.driving] at hk
      · exact hfits
    · obtain ⟨hsame, hfits⟩ := hfits k (hkeep k hk)
      rwa [hsame]
  resting := by
    intro hquiet
    rcases hmoves.kinds hs hwf hserial hlimit with ⟨h, hproceeds, _⟩ | ⟨_, hfits, hrest⟩
    · rcases hproceeds with ⟨_, hrest⟩ | ⟨hdriving, _⟩
      · exact hrest
      · simp [hquiet h] at hdriving
    · refine hrest (hs.resting fun k => ?_)
      by_contra hdriving
      have hk : (s.tasks k).driving = true := by simpa using hdriving
      rw [← (hfits k hk).1, hquiet k] at hk
      cases hk
  alone := fun _ => hmoves.alone hs hwf hlimit

end Handler

theorem Plugin.start_serial (pppdPlugin ifname : String) :
    (Plugin.start pppdPlugin ifname).Serial where
  one := by simp [Plugin.One, Plugin.start, Task.driving]
  fits := by simp [Plugin.start, Task.driving]
  resting := fun _ => Or.inl rfl
  alone := by simp [Plugin.start]

theorem plugin_serial {pppdPlugin ifname : String} {history : List Event} {s : Plugin}
    (run : Run Plugin.step serialTimely (.start pppdPlugin ifname) history s) : s.Serial := by
  have hboth : s.Wf ∧ s.Serial := by
    refine run.state_invariant (fun s => s.Wf ∧ s.Serial)
      ⟨Plugin.start_wf pppdPlugin ifname, Plugin.start_serial pppdPlugin ifname⟩ ?_
    rintro s label t out history ⟨hwf, hs⟩ ⟨hserial, hlimit⟩ hstep
    have hmoves := Plugin.step_moves hstep
    exact ⟨hmoves.wf hwf, hmoves.serial hs hwf hserial hlimit⟩
  exact hboth.2

/-- No ghost connection and no second child: when calls come one after the other and every
`stop()` is answered in time, at most one crosswire is alive, and whenever no call is in progress
and the state is `Starting` or `Started`, the slot holds a `Supervisor` whose watcher runs. -/
theorem no_ghost {pppdPlugin ifname : String} {history : List Event} {s : Plugin}
    (run : Run Plugin.step serialTimely (.start pppdPlugin ifname) history s) :
    (∀ i j session session', s.sessions i = some session → s.sessions j = some session' →
        session.watcher.exit = none → session'.watcher.exit = none → i = j) ∧
      (s.Quiet → s.inner.state = .starting ∨ s.inner.state = .started →
        ∃ i session, s.slot = some i ∧ s.sessions i = some session ∧
          session.watcher.point ≠ .ended) := by
  have hs := plugin_serial run
  refine ⟨fun i j session session' hi hj hlive hlive' =>
    hs.one_child (plugin_wf run) hi hlive hj hlive', fun hquiet hup => ?_⟩
  rcases hs.resting hquiet with hstopped | ⟨_, i, session, hslot, hsession, hover⟩
  · simp [hstopped] at hup
  · refine ⟨i, session, hslot, hsession, ?_⟩
    intro hended
    simp [hended, Point.over] at hover

def replacedRelaunch : List Label :=
  connectLabels 0 (samlConnection "vpn.example") ++
    [.watch 0 .pollStop, .watch 0 (.exits false), .watch 0 .pollChild, .watch 0 (.drain second),
      .watch 0 (.judge .starting), .watch 0 .pollStop, .watch 0 (.pollSleep true),
      .watch 0 (.respawn true), .watch 0 .feed,
      .connect 1 (samlConnection "other.example"), .task 1, .task 1, .task 1,
      .watch 0 .pollStop, .watch 0 (.exits true), .watch 0 .reap, .task 1, .task 1, .task 1,
      .task 1, .task 1, .task 1]

theorem no_ghost_replacedRelaunch :
    ∃ history s, Run Plugin.step serialTimely (.start "plugin.so" "ppp0") history s ∧
      ∃ i session, s.slot = some i ∧ s.sessions i = some session ∧
        session.watcher.point ≠ .ended := by
  obtain ⟨history, s, hexec, hquiet, hstarting⟩ : ∃ history s,
      exec Plugin.step (fun history s label => serialBelow 2 history s label &&
          match label with
          | .limit _ => false
          | _ => true) [] (.start "plugin.so" "ppp0") replacedRelaunch = some (history, s) ∧
      s.Quiet ∧ s.inner.state = .starting :=
    ⟨_, _, rfl, fun h => match h with
      | 0 => rfl
      | 1 => rfl
      | _ + 2 => rfl, rfl⟩
  have run : Run Plugin.step serialTimely (.start "plugin.so" "ppp0") history s := by
    refine serialBelow_run 2 _ (exec_run (fun history s label hok => ?_) .refl hexec)
    obtain ⟨hserial, htimely⟩ := Bool.and_eq_true_iff.mp hok
    refine ⟨hserial, fun h hlimit => ?_⟩
    subst hlimit
    cases htimely
  exact ⟨history, s, run, (no_ghost run).2 hquiet (Or.inl hstarting)⟩

end CrosswireNm.Service
