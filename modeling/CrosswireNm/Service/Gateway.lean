import CrosswireNm.Service.Held

/-!
# The right server is pinned

`Shared::gateway` is one cell for the whole service; `set_config` pins a route to the host in it.
-/

namespace CrosswireNm.Service

open Library

/-- With no call in progress, the cell holds the gateway of every live crosswire. -/
def Plugin.Pinned (s : Plugin) : Prop :=
  s.Quiet → ∀ i session, s.sessions i = some session → session.watcher.exit = none →
    s.gateway = session.launch.gateway

def Task.secretless : Task → Bool
  | .storeGateway launch => launch.missingSecret.isSome
  | .askSecrets _ => true
  | _ => false

def Plugin.Untouched (s t : Plugin) : Prop :=
  t.gateway = s.gateway ∧ t.slot = s.slot ∧ t.inner = s.inner

/-- A request, or a closed channel, waits for the watcher or has been served. -/
def Watcher.Heard (w : Watcher) : Prop :=
  w.recv ≠ .pending ∨ w.point.serving = true ∨ w.point.over = true

/-- The child is dead, and a watcher that is to tear down will launch no other. -/
structure Watcher.Gone (w : Watcher) : Prop where
  dead : w.exit ≠ none
  heard : w.Heard
  sleeping : w.point ≠ .backoffSleepPoll
  respawning : w.point ≠ .respawning

/-- Calls are handled one after the other. A `Connect` that only answers `SecretsRequired` names
the gateway that is stored, and when a `Connect` asks for `Starting`, every session whose `stop()`
gave up on it is gone or was launched with its gateway. -/
def keepsGateway (history : List Event) (s : Plugin) (label : Label) : Prop :=
  serial history s label ∧
    ∀ h, label = .task h →
      (∀ launch, s.tasks h = .storeGateway launch → launch.missingSecret ≠ none →
        launch.gateway = s.gateway) ∧
      ∀ launch, s.tasks h = .enterStarting launch → ∀ i, .stopReturned i false ∈ history →
        ∀ session, s.sessions i = some session →
          session.watcher.Gone ∨ session.launch.gateway = launch.gateway

section Watchers

variable {w v : Watcher} {state : ServiceState}

private theorem Watcher.Moves.heard {act : Act} {out : List WatcherEvent} (h : w.Moves act v out)
    (hw : w.Heard) : v.Heard := by
  rcases hw with hrecv | hserving | hover
  · cases h with
    | stop | closed => exact Or.inr (Or.inl rfl)
    | backoffStop | backoffClosed | reap | reportStopped | reportFailure | finish =>
      exact Or.inr (Or.inr rfl)
    | _ => exact Or.inl hrecv
  · cases h with
    | exits | line => exact Or.inr (Or.inl hserving)
    | termTimeout => exact Or.inr (Or.inl rfl)
    | reap => exact Or.inr (Or.inr rfl)
    | _ => simp_all [Point.serving]
  · exact Or.inr (Or.inr (h.over hover).1)

private theorem Watcher.Moves.gone {act : Act} {out : List WatcherEvent} (h : w.Moves act v out)
    (hw : w.Gone) : v.Gone := by
  have hheard := h.heard hw.heard
  cases h with
  | exits hlive => exact absurd hlive hw.dead
  | line => exact ⟨hw.dead, hheard, hw.sleeping, hw.respawning⟩
  | backoffNoStop hpoint hpending =>
    rcases hw.heard with hrecv | hserving | hover
    · exact absurd hpending hrecv
    · simp [hpoint, Point.serving] at hserving
    · simp [hpoint, Point.over] at hover
  | sleepOver hpoint | sleepOn hpoint => exact absurd hpoint hw.sleeping
  | respawn hpoint | respawnFails hpoint => exact absurd hpoint hw.respawning
  | _ => exact ⟨hw.dead, hheard, by simp, by simp⟩

theorem Watcher.Next.gone (h : w.Next state v) (hw : w.Gone) : v.Gone := by
  cases h with
  | same => exact hw
  | moves _ hmoves => exact hmoves.gone hw
  | sent => exact ⟨hw.dead, Or.inl nofun, hw.sleeping, hw.respawning⟩
  | dropped => exact ⟨hw.dead, Or.inl (Watcher.recv_dropSender w), hw.sleeping, hw.respawning⟩
  | started hpoint =>
    refine ⟨hw.dead, ?_, nofun, nofun⟩
    rcases hw.heard with hrecv | hserving | hover
    · exact Or.inl hrecv
    · simp [hpoint, Point.serving] at hserving
    · simp [hpoint, Point.over] at hover

end Watchers

def Plugin.Matches (s : Plugin) : Prop :=
  ∀ i session, s.sessions i = some session →
    session.watcher.Gone ∨ session.launch.gateway = s.gateway

def Task.rearming : Task → Option Launch
  | .take (.reconnect launch) | .stop (.reconnect launch) _ | .awaitStop (.reconnect launch) _
  | .release (.reconnect launch) _ | .enterStarting launch => some launch
  | _ => none

theorem Watcher.Sound.gone {w : Watcher} (h : w.Sound) (hover : w.point.over = true) : w.Gone where
  dead := h.dead hover
  heard := Or.inr (Or.inr hover)
  sleeping := by
    intro hpoint
    simp [hpoint, Point.over] at hover
  respawning := by
    intro hpoint
    simp [hpoint, Point.over] at hover

/-- What the stored gateway is at each point of the call in progress. -/
structure Plugin.Pins (s : Plugin) : Prop where
  one : s.One
  rearming : ∀ h launch, (s.tasks h).rearming = some launch → s.gateway = launch.gateway
  spawn : ∀ h launch, s.tasks h = .spawn launch → s.gateway = launch.gateway
  matching : (∀ h, (s.tasks h).rearming = none) → s.Matches

section Steps

variable {s t : Plugin} {label : Label} {out : List Event} {history : List Event}

/-- The cell is written by `Connect` alone, in its first piece. -/
theorem Plugin.Moves.gateway (h : s.Moves label t out) :
    t.gateway = s.gateway ∨
      ∃ k launch, label = .task k ∧ s.tasks k = .storeGateway launch ∧
        t.gateway = launch.gateway := by
  cases h with
  | storeGatewayMissing htask | storeGateway htask => exact Or.inr ⟨_, _, rfl, htask, rfl⟩
  | reset | release | storeSup => exact Or.inl (by simp)
  | _ => exact Or.inl rfl

theorem Plugin.Moves.matching (h : s.Moves label t out) (hwf : s.Wf) (hs : s.Matches)
    (hgateway : t.gateway = s.gateway)
    (hspawn : ∀ k launch, s.tasks k = .spawn launch → s.gateway = launch.gateway) : t.Matches := by
  intro i after hafter
  rw [hgateway]
  cases hsession : s.sessions i with
  | none =>
    obtain ⟨launch, _, htask, rfl⟩ := h.session_new hafter hsession
    exact Or.inr (hspawn i launch htask).symm
  | some session =>
    obtain ⟨after', hafter', hlaunch, hnext⟩ := h.session hwf hsession
    obtain rfl : after' = after := Option.some.inj (hafter'.symm.trans hafter)
    rw [hlaunch]
    exact (hs i session hsession).imp hnext.gone id

private theorem Task.Next.rearming_before {k : Nat} {task next : Task} {launch : Launch}
    (h : Task.Next k label task next) (hnext : next.rearming = some launch) :
    task.rearming = some launch ∨ (label = .task k ∧ task = .storeGateway launch) := by
  cases h with
  | @storeGateway launch' =>
    obtain rfl : launch' = launch := Option.some.inj hnext
    exact Or.inr ⟨rfl, rfl⟩
  | @takeNone goal | @release goal =>
    left
    cases goal <;> exact hnext
  | @take goal | @stop goal | @stopEnded goal | @awaitStop goal | @limit goal =>
    left
    cases goal <;> exact hnext
  | @deliver message => cases message <;> cases hnext
  | _ => cases hnext

private theorem Task.Next.rearming_after {k : Nat} {task next : Task} {launch : Launch}
    (h : Task.Next k label task next) (htask : task.rearming = some launch) :
    next.rearming = some launch ∨ (label = .task k ∧ task = .enterStarting launch) := by
  cases h with
  | @enterStarting launch' =>
    obtain rfl : launch' = launch := Option.some.inj htask
    exact Or.inr ⟨rfl, rfl⟩
  | @takeNone goal | @release goal =>
    left
    cases goal <;> exact htask
  | @take goal | @stop goal | @stopEnded goal | @awaitStop goal | @limit goal =>
    left
    cases goal <;> exact htask
  | _ => cases htask

private theorem Task.Next.spawn_before {k : Nat} {task next : Task} {launch : Launch}
    (h : Task.Next k label task next) (hnext : next = .spawn launch) :
    task.rearming = some launch := by
  cases h with
  | @deliver message => cases message <;> cases hnext
  | @takeNone goal | @release goal => cases goal <;> cases hnext
  | enterStarting =>
    cases hnext
    rfl
  | _ => cases hnext

private theorem Plugin.Moves.gateway_stored {k : Nat} {launch : Launch}
    (h : s.Moves (.task k) t out) (htask : s.tasks k = .storeGateway launch) :
    t.gateway = launch.gateway := by
  cases h with
  | storeGatewayMissing hstore | storeGateway hstore =>
    cases htask.symm.trans hstore
    rfl
  | _ => cases htask.symm.trans ‹s.tasks k = _›

private theorem Plugin.Moves.rearming_before {k : Nat} {launch : Launch} (h : s.Moves label t out)
    (hk : (t.tasks k).rearming = some launch) : (s.tasks k).rearming = some launch ∨
      (label = .task k ∧ s.tasks k = .storeGateway launch ∧ t.gateway = launch.gateway) := by
  rcases h.task k with hsame | hnext
  · exact Or.inl (hsame ▸ hk)
  · rcases hnext.rearming_before hk with hbefore | ⟨rfl, htask⟩
    · exact Or.inl hbefore
    · exact Or.inr ⟨rfl, htask, h.gateway_stored htask⟩

private theorem Plugin.Moves.rearming_after {k : Nat} {launch : Launch} (h : s.Moves label t out)
    (hk : (s.tasks k).rearming = some launch) : (t.tasks k).rearming = some launch ∨
      (label = .task k ∧ s.tasks k = .enterStarting launch) := by
  rcases h.task k with hsame | hnext
  · exact Or.inl (by rwa [hsame])
  · exact hnext.rearming_after hk

private theorem Plugin.Moves.spawn_before {k : Nat} {launch : Launch} (h : s.Moves label t out)
    (hk : t.tasks k = .spawn launch) : s.tasks k = .spawn launch ∨
      (s.tasks k).rearming = some launch := by
  rcases h.task k with hsame | hnext
  · exact Or.inl (hsame ▸ hk)
  · exact Or.inr (hnext.spawn_before hk)

private theorem Task.driving_of_rearming {task : Task} {launch : Launch}
    (h : task.rearming = some launch) : task.driving = true := by
  cases task <;> first | rfl | cases h

private theorem Plugin.Moves.gateway_kept {k : Nat} (h : s.Moves label t out) (hone : s.One)
    (hk : (s.tasks k).driving = true) (hpast : ∀ launch, s.tasks k ≠ .storeGateway launch) :
    t.gateway = s.gateway := by
  rcases h.gateway with hsame | ⟨j, launch, _, htask, _⟩
  · exact hsame
  · obtain rfl := hone j k (by rw [htask]; rfl) hk
    exact absurd htask (hpast launch)

/-- When a `Connect` asks for `Starting` it has stopped the session before it, and nobody has
another: only one whose `stop()` gave up may still have a crosswire. -/
private theorem Orderly.earlier_gone {k i : Nat} {launch : Launch} {session : Session}
    (hs : Orderly history s) (hone : s.One) (htask : s.tasks k = .enterStarting launch)
    (hsession : s.sessions i = some session) :
    session.watcher.Gone ∨ .stopReturned i false ∈ history := by
  rcases hs.accounted i session hsession with hover | hheld | hgaveUp
  · exact Or.inl ((hs.wf.sound i session hsession).gone hover)
  · rcases hheld with hslot | ⟨h, hholds⟩
    · simp [hs.emptied k (by rw [htask]; rfl)] at hslot
    · obtain rfl := hone h k (Task.driving_of_holds hholds) (by rw [htask]; rfl)
      simp [htask, Task.holds] at hholds
  · exact Or.inr hgaveUp

theorem Plugin.Moves.pins (h : s.Moves label t out) (horderly : Orderly history s) (hs : s.Pins)
    (hkeeps : keepsGateway history s label) : t.Pins where
  one := h.one hs.one hkeeps.1
  rearming := by
    intro k launch hk
    rcases h.rearming_before hk with hbefore | ⟨_, _, hgateway⟩
    · rw [h.gateway_kept hs.one (Task.driving_of_rearming hbefore) fun _ htask => by
        simp [htask, Task.rearming] at hbefore]
      exact hs.rearming k launch hbefore
    · exact hgateway
  spawn := by
    intro k launch hk
    rcases h.spawn_before hk with hbefore | hbefore
    · rw [h.gateway_kept hs.one (k := k) (by rw [hbefore]; rfl) (by simp [hbefore])]
      exact hs.spawn k launch hbefore
    · rw [h.gateway_kept hs.one (Task.driving_of_rearming hbefore) fun _ htask => by
        simp [htask, Task.rearming] at hbefore]
      exact hs.rearming k launch hbefore
  matching := by
    intro hnone
    by_cases hbefore : ∀ k, (s.tasks k).rearming = none
    · refine h.matching horderly.wf (hs.matching hbefore) ?_ hs.spawn
      rcases h.gateway with hsame | ⟨k, launch, rfl, htask, hgateway⟩
      · exact hsame
      · rw [hgateway]
        refine (hkeeps.2 k rfl).1 launch htask ?_
        -- with its secrets the `Connect` would be about to ask for `Starting`
        intro hready
        cases h with
        | storeGateway htask' =>
          have hself := hnone k
          simp [Task.rearming] at hself
        | _ => simp_all
    · obtain ⟨k, hk⟩ := not_forall.mp hbefore
      obtain ⟨launch, hlaunch⟩ := Option.ne_none_iff_exists'.mp hk
      rcases h.rearming_after hlaunch with hafter | ⟨rfl, htask⟩
      · simp [hnone k] at hafter
      · have hgateway := hs.rearming k launch hlaunch
        refine h.matching horderly.wf (fun i session hsession => ?_) ?_ hs.spawn
        · rw [hgateway]
          rcases horderly.earlier_gone hs.one htask hsession with hgone | hgaveUp
          · exact Or.inl hgone
          · exact (hkeeps.2 k rfl).2 launch htask i hgaveUp session hsession
        · exact h.gateway_kept hs.one (Task.driving_of_rearming hlaunch) (by simp [htask])

end Steps

theorem plugin_pins {pppdPlugin ifname : String} {history : List Event} {s : Plugin}
    (run : Run Plugin.step keepsGateway (.start pppdPlugin ifname) history s) : s.Pins := by
  have hboth : Orderly history s ∧ s.Pins := by
    refine run.invariant (fun history s => Orderly history s ∧ s.Pins)
      ⟨Plugin.start_orderly pppdPlugin ifname, ?_⟩ ?_
    · exact ⟨by simp [Plugin.One, Plugin.start, Task.driving],
        by simp [Plugin.start, Task.rearming], by simp [Plugin.start],
        fun _ => by simp [Plugin.Matches, Plugin.start]⟩
    · rintro history s label t out ⟨horderly, hs⟩ hkeeps hstep
      have hmoves := Plugin.step_moves hstep
      exact ⟨hmoves.orderly horderly hs.one.callsApart, hmoves.pins horderly hs hkeeps⟩
  exact hboth.2

/-- The right server is pinned in every run in which a `Connect` without its secrets names the
stored gateway, and no session its `stop()` gave up on may still have a crosswire with another
gateway when a `Connect` asks for `Starting`. -/
theorem right_server {pppdPlugin ifname : String} {history : List Event} {s : Plugin}
    (run : Run Plugin.step keepsGateway (.start pppdPlugin ifname) history s) :
    s.Pinned ∧ ∀ h t out, (s.tasks h).secretless = true → keepsGateway history s (.task h) →
      s.step (.task h) = some (t, out) → s.Untouched t := by
  have hs := plugin_pins run
  refine ⟨fun hquiet i session hsession hlive => ?_, fun h t out hsecretless hkeeps hstep => ?_⟩
  · have hnone : ∀ h, (s.tasks h).rearming = none := by
      intro h
      by_contra hsome
      obtain ⟨launch, hlaunch⟩ := Option.ne_none_iff_exists'.mp hsome
      have hdriving := Task.driving_of_rearming hlaunch
      simp [hquiet h] at hdriving
    rcases hs.matching hnone i session hsession with hgone | hgateway
    · exact absurd hlive hgone.dead
    · exact hgateway.symm
  · cases Plugin.step_moves hstep with
    | storeGatewayMissing htask hmissing =>
      exact ⟨(hkeeps.2 h rfl).1 _ htask (by simp [hmissing]), rfl, rfl⟩
    | askSecrets => exact ⟨rfl, rfl, rfl⟩
    | storeGateway htask hmissing => simp [htask, Task.secretless, hmissing] at hsecretless
    | _ => simp_all [Task.secretless]

def passwordConnection (gateway : String) : Connection :=
  vpnConnection [("gateway", gateway), ("user", "me")] []

def namesGateway (n : Nat) (history : List Event) (s : Plugin) (label : Label) : Bool :=
  serialBelow n history s label && timelySoFar history &&
    match label with
    | .task h =>
      match s.tasks h with
      | .storeGateway launch => launch.missingSecret.isNone || launch.gateway == s.gateway
      | _ => true
    | _ => true

private theorem namesGateway_run {n : Nat} {pppdPlugin ifname : String} {history : List Event}
    {s : Plugin} {labels : List Label}
    (hexec : exec Plugin.step (namesGateway n) [] (.start pppdPlugin ifname) labels =
      some (history, s)) :
    Run Plugin.step keepsGateway (.start pppdPlugin ifname) history s := by
  refine serialBelow_run n _ (exec_run (fun history s label hok => ?_) .refl hexec)
  obtain ⟨hboth, hnames⟩ := Bool.and_eq_true_iff.mp hok
  obtain ⟨hserial, htimely⟩ := Bool.and_eq_true_iff.mp hboth
  refine ⟨hserial, ?_⟩
  rintro h rfl
  refine ⟨fun launch htask hmissing => ?_, fun launch htask i hgaveUp => ?_⟩
  · simpa [htask, hmissing] using hnames
  · exact absurd hgaveUp (timelySoFar_spec htimely i)

/-- A second `Connect` replaces the first session, for another gateway, and a third one that finds
no password names the gateway of the second. -/
def replacedGateway : List Label :=
  connectLabels 0 (samlConnection "vpn.example") ++
    [.connect 1 (samlConnection "other.example"), .task 1, .task 1, .task 1, .watch 0 .pollStop,
      .watch 0 (.exits true), .watch 0 .reap, .task 1, .task 1, .task 1, .task 1, .task 1, .task 1,
      .connect 2 (passwordConnection "other.example"), .task 2, .task 2]

theorem right_server_replacedGateway :
    ∃ history s, Run Plugin.step keepsGateway (.start "plugin.so" "ppp0") history s ∧
      history = [.signal (.connect 0) (.stateChanged .starting), .stopReturned 0 true,
        .signal (.connect 1) (.stateChanged .stopped),
        .signal (.connect 1) (.stateChanged .starting), .secretsRequired 2 "password"] ∧
      ∃ session, s.sessions 1 = some session ∧ session.watcher.exit = none ∧
        session.launch.gateway = some "other.example" ∧ s.gateway = session.launch.gateway := by
  obtain ⟨history, s, hexec, hhistory, hquiet, session, hsession, hlive, hlaunch⟩ : ∃ history s,
      exec Plugin.step (namesGateway 3) [] (.start "plugin.so" "ppp0") replacedGateway =
        some (history, s) ∧
      history = [.signal (.connect 0) (.stateChanged .starting), .stopReturned 0 true,
        .signal (.connect 1) (.stateChanged .stopped),
        .signal (.connect 1) (.stateChanged .starting), .secretsRequired 2 "password"] ∧
      s.Quiet ∧ ∃ session, s.sessions 1 = some session ∧ session.watcher.exit = none ∧
        session.launch.gateway = some "other.example" :=
    ⟨_, _, rfl, rfl, fun h => match h with
      | 0 => rfl
      | 1 => rfl
      | 2 => rfl
      | _ + 3 => rfl, _, rfl, rfl, rfl⟩
  have run := namesGateway_run hexec
  have hpinned := (right_server run).1 hquiet 1 session hsession hlive
  exact ⟨history, s, run, hhistory, session, hsession, hlive, hlaunch, hpinned⟩

def otherGateway : List Label :=
  connectLabels 0 (samlConnection "vpn.example") ++
    [.connect 1 (passwordConnection "other.example"), .task 1, .task 1]

theorem otherGateway_not_pinned :
    ∃ history s, Run Plugin.step serial (.start "plugin.so" "ppp0") history s ∧ ¬ s.Pinned := by
  obtain ⟨history, s, hexec, hquiet, hgateway, session, hsession, hlive, hlaunch⟩ : ∃ history s,
      exec Plugin.step (serialBelow 2) [] (.start "plugin.so" "ppp0") otherGateway =
        some (history, s) ∧ s.Quiet ∧ s.gateway = some "other.example" ∧
      ∃ session, s.sessions 0 = some session ∧ session.watcher.exit = none ∧
        session.launch.gateway = some "vpn.example" :=
    ⟨_, _, rfl, fun h => match h with
      | 0 => rfl
      | 1 => rfl
      | _ + 2 => rfl, rfl, _, rfl, rfl, rfl⟩
  have run := serialBelow_run 2 anyLabel (exec_run (fun _ _ _ hok => ⟨hok, trivial⟩) .refl hexec)
  refine ⟨history, s, run.mono (fun _ _ _ => And.left), fun hpinned => ?_⟩
  have hsame := hpinned hquiet 0 session hsession hlive
  rw [hgateway, hlaunch] at hsame
  simp at hsame

end CrosswireNm.Service
