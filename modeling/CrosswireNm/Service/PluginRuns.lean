import CrosswireNm.Service.PluginWf

/-!
# Sessions and calls in a run

How one step may change a session, and what it means that calls are handled one after the other.
-/

namespace CrosswireNm.Service

open Library

/-! ## What a step does to one session -/

/-- One step's effect on a watcher, whoever's step it is; a watcher that reads the state machine
finds the state the step leaves it in. -/
inductive Watcher.Next (state : ServiceState) : Watcher → Watcher → Prop
  | same {w : Watcher} : Next state w w
  | moves {w v : Watcher} {act : Act} {out : List WatcherEvent} : act.sees state = true →
      w.Moves act v out → Next state w v
  | sent {w : Watcher} : Next state w { w with request := .buffered }
  | dropped {w : Watcher} : Next state w w.dropSender
  | started {w : Watcher} : w.point = .unwatched → Next state w w.watched

theorem Watcher.Next.over {w v : Watcher} {state : ServiceState} (h : w.Next state v)
    (hw : w.point.over = true) : v.point.over = true := by
  cases h with
  | same | sent | dropped => exact hw
  | moves _ hmoves => exact (hmoves.over hw).1
  | started hpoint => simp [hpoint, Point.over] at hw

section Session

variable {s t : Plugin} {label : Label} {out : List Event} {i : Nat}

private theorem Plugin.dropSup_next {session : Session} (old : Nat) (state : ServiceState)
    (hsession : s.sessions i = some session) :
    ∃ after, (s.dropSup old).sessions i = some after ∧ after.launch = session.launch ∧
      session.watcher.Next state after.watcher := by
  rw [Plugin.dropSup_sessions]
  split
  · rename_i hi
    subst hi
    exact ⟨session.dropSender, by simp [hsession], rfl, .dropped⟩
  · exact ⟨session, hsession, rfl, .same⟩

private theorem Plugin.setSession_next {k : Nat} {session changed : Session} {w : Watcher}
    {state : ServiceState} (hsession : s.sessions i = some session)
    (hchanged : s.sessions k = some changed) (hnext : changed.watcher.Next state w) :
    ∃ after, (s.setSession k ⟨changed.launch, w⟩).sessions i = some after ∧
      after.launch = session.launch ∧ session.watcher.Next state after.watcher := by
  rw [Plugin.setSession_sessions]
  split
  · rename_i hi
    subst hi
    obtain rfl : session = changed := Option.some.inj (hsession.symm.trans hchanged)
    exact ⟨_, rfl, rfl, hnext⟩
  · exact ⟨session, hsession, rfl, .same⟩

/-- A session lasts, keeps its launch, and its watcher changes in one of five ways. -/
theorem Plugin.Moves.session {session : Session} (h : s.Moves label t out) (hs : s.Wf)
    (hsession : s.sessions i = some session) :
    ∃ after, t.sessions i = some after ∧ after.launch = session.launch ∧
      session.watcher.Next t.inner.state after.watcher := by
  cases h with
  | stop _ hold => exact Plugin.setSession_next hsession hold .sent
  | @reset h old =>
    exact Plugin.dropSup_next (s := (s.drive (.connect h) (.to .stopped)).1) old _ hsession
  | release | storeSup => exact Plugin.dropSup_next _ _ hsession
  | @spawn h launch htask =>
    have hne : i ≠ h := by
      rintro rfl
      have hborn := hs.born i session hsession
      simp [htask] at hborn
    exact ⟨session, by simp [hne, hsession], rfl, .same⟩
  | feed htask hfed =>
    obtain ⟨fed, hfed', _, hpoint⟩ := hs.feeding _ htask
    obtain rfl : fed = _ := Option.some.inj (hfed'.symm.trans hfed)
    exact Plugin.setSession_next hsession hfed (.started hpoint)
  | watch hwatched hmoves _ hsees =>
    exact Plugin.setSession_next hsession hwatched (.moves hsees hmoves)
  | report _ hwatched hpoint =>
    exact Plugin.setSession_next hsession hwatched (.moves rfl (Watcher.report_moves hpoint))
  | _ => exact ⟨session, hsession, rfl, .same⟩

theorem Plugin.Moves.session_new {after : Session} (h : s.Moves label t out)
    (hafter : t.sessions i = some after) (hnone : s.sessions i = none) :
    ∃ launch, label = .task i ∧ s.tasks i = .spawn launch ∧ after = ⟨launch, .spawned⟩ := by
  cases h with
  | @spawn h launch htask =>
    rw [Plugin.setTask_sessions, Plugin.setSession_sessions] at hafter
    split at hafter
    · rename_i hi
      subst hi
      cases hafter
      exact ⟨launch, rfl, htask, rfl⟩
    · simp [hnone] at hafter
  | stop _ hold | feed _ hold | watch hold | report _ hold =>
    simp_all
  | _ => simp_all

end Session

/-! ## What a step does to one call -/

/-- The handlers' control flow: where a label of its own takes call `k`. -/
inductive Task.Next (k : Nat) : Label → Task → Task → Prop
  | connect {connection : Connection} {launch : Launch} :
      Next k (.connect k connection) .fresh (.storeGateway launch)
  | disconnect : Next k (.disconnect k) .fresh .leave
  | deliver {message : Message} : Next k (.deliver k message) .fresh message.task
  | storeGatewayMissing {launch : Launch} {key : String} : launch.missingSecret = some key →
      Next k (.task k) (.storeGateway launch) (.askSecrets key)
  | storeGateway {launch : Launch} : launch.missingSecret = none →
      Next k (.task k) (.storeGateway launch) (.take (.reconnect launch))
  | askSecrets {key : String} : Next k (.task k) (.askSecrets key) .finished
  | leave : Next k (.task k) .leave (.take .down)
  | take {goal : Goal} {old : Nat} : Next k (.task k) (.take goal) (.stop goal old)
  | takeNone {goal : Goal} : Next k (.task k) (.take goal) goal.next
  | stop {goal : Goal} {old : Nat} : Next k (.task k) (.stop goal old) (.awaitStop goal old)
  | stopEnded {goal : Goal} {old : Nat} : Next k (.task k) (.stop goal old) (.release goal old)
  | awaitStop {goal : Goal} {old : Nat} :
      Next k (.task k) (.awaitStop goal old) (.release goal old)
  | limit {goal : Goal} {old : Nat} : Next k (.limit k) (.awaitStop goal old) (.release goal old)
  | release {goal : Goal} {old : Nat} : Next k (.task k) (.release goal old) goal.next
  | settle : Next k (.task k) .settle .finished
  | enterStarting {launch : Launch} : Next k (.task k) (.enterStarting launch) (.spawn launch)
  | spawn {launch : Launch} : Next k (.task k) (.spawn launch) .feed
  | spawnError {launch : Launch} : Next k (.spawnError k) (.spawn launch) .spawnFailed
  | feed : Next k (.task k) .feed .storeSup
  | storeSup : Next k (.task k) .storeSup .finished
  | spawnFailed : Next k (.task k) .spawnFailed .finished
  | readGateway {session : Nat} {host : String} :
      Next k (.task k) (.readGateway session) (.resolve session host)
  | readGatewayNone {session : Nat} : Next k (.task k) (.readGateway session) .finished
  | resolve {session : Nat} {host : String} : Next k (.task k) (.resolve session host) .finished
  | ip4Config {session : Nat} : Next k (.task k) (.ip4Config session) (.ip4Started session)
  | ip4Started {session : Nat} : Next k (.task k) (.ip4Started session) .finished

section Task

variable {s t : Plugin} {label : Label} {out : List Event} {h k : Nat}

private theorem Plugin.setTask_next {task next : Task} (htask : s.tasks h = task)
    (htasks : ∀ k, t.tasks k = s.tasks k) (hnext : Task.Next h label task next) :
    (t.setTask h next).tasks k = s.tasks k ∨
      Task.Next k label (s.tasks k) ((t.setTask h next).tasks k) := by
  rw [Plugin.setTask_tasks]
  split
  · rename_i hself
    subst hself
    exact Or.inr (htask ▸ hnext)
  · exact Or.inl (htasks k)

/-- A call stays where it is, or a label of its own takes it on. -/
theorem Plugin.Moves.task (hmoves : s.Moves label t out) (k : Nat) :
    t.tasks k = s.tasks k ∨ Task.Next k label (s.tasks k) (t.tasks k) := by
  cases hmoves with
  | send | watch | report => exact Or.inl rfl
  | connect htask => exact Plugin.setTask_next htask (fun _ => rfl) .connect
  | disconnect htask => exact Plugin.setTask_next htask (fun _ => rfl) .disconnect
  | deliver htask => exact Plugin.setTask_next htask (fun _ => rfl) .deliver
  | storeGatewayMissing htask hmissing =>
    exact Plugin.setTask_next htask (fun _ => rfl) (.storeGatewayMissing hmissing)
  | storeGateway htask hmissing =>
    exact Plugin.setTask_next htask (fun _ => rfl) (.storeGateway hmissing)
  | askSecrets htask => exact Plugin.setTask_next htask (fun _ => rfl) .askSecrets
  | leave htask => exact Plugin.setTask_next htask (fun _ => rfl) .leave
  | take htask => exact Plugin.setTask_next htask (fun _ => rfl) .take
  | takeNone htask => exact Plugin.setTask_next htask (fun _ => rfl) .takeNone
  | stop htask => exact Plugin.setTask_next htask (fun _ => rfl) .stop
  | stopEnded htask => exact Plugin.setTask_next htask (fun _ => rfl) .stopEnded
  | awaitStop htask => exact Plugin.setTask_next htask (fun _ => rfl) .awaitStop
  | limit htask => exact Plugin.setTask_next htask (fun _ => rfl) .limit
  | reset htask => exact Plugin.setTask_next htask (by simp) .release
  | release htask => exact Plugin.setTask_next htask (by simp) .release
  | settle htask => exact Plugin.setTask_next htask (fun _ => rfl) .settle
  | enterStarting htask => exact Plugin.setTask_next htask (fun _ => rfl) .enterStarting
  | spawn htask => exact Plugin.setTask_next htask (fun _ => rfl) .spawn
  | spawnError htask => exact Plugin.setTask_next htask (fun _ => rfl) .spawnError
  | feed htask => exact Plugin.setTask_next htask (fun _ => rfl) .feed
  | storeSup htask => exact Plugin.setTask_next htask (by simp) .storeSup
  | storeSupNone htask => exact Plugin.setTask_next htask (fun _ => rfl) .storeSup
  | spawnFailed htask => exact Plugin.setTask_next htask (fun _ => rfl) .spawnFailed
  | readGateway htask => exact Plugin.setTask_next htask (fun _ => rfl) .readGateway
  | readGatewayNone htask => exact Plugin.setTask_next htask (fun _ => rfl) .readGatewayNone
  | resolve htask => exact Plugin.setTask_next htask (fun _ => rfl) .resolve
  | ip4Config htask => exact Plugin.setTask_next htask (fun _ => rfl) .ip4Config
  | ip4Started htask => exact Plugin.setTask_next htask (fun _ => rfl) .ip4Started

end Task

def Task.ip4 : Task → Option Nat
  | .ip4Config i | .ip4Started i => some i
  | _ => none

theorem Task.Next.ip4 {k i : Nat} {label : Label} {task next : Task}
    (hnext : Task.Next k label task next) (hip : next.ip4 = some i) :
    task.ip4 = some i ∨ label = .deliver k (.setIp4Config i) := by
  cases hnext with
  | @deliver message =>
    cases message with
    | setConfig => cases hip
    | setIp4Config session =>
      obtain rfl := Option.some.inj hip
      exact Or.inr rfl
  | ip4Config => exact Or.inl hip
  | @takeNone goal | @release goal => cases goal <;> cases hip
  | _ => cases hip

/-! ## Calls handled one after the other -/

def Task.driving : Task → Bool
  | .fresh | .finished | .readGateway _ | .resolve _ _ | .ip4Config _ | .ip4Started _ => false
  | _ => true

/-- No `Connect` or `Disconnect` is in progress. -/
def Plugin.Quiet (s : Plugin) : Prop := ∀ h, (s.tasks h).driving = false

/-- NM makes a call only when the one before it has been replied to. -/
def serial (_ : List Event) (s : Plugin) : Label → Prop
  | .connect _ _ | .disconnect _ => s.Quiet
  | _ => True

def Label.opens : Label → Option Nat
  | .connect h _ | .disconnect h => some h
  | _ => none

private theorem Task.Next.driving {k : Nat} {label : Label} {task next : Task}
    (h : Task.Next k label task next) (hnext : next.driving = true) :
    task.driving = true ∨ label.opens = some k := by
  cases h with
  | connect | disconnect => exact Or.inr rfl
  | @deliver message => cases message <;> cases hnext
  | readGateway | ip4Config => cases hnext
  | readGatewayNone | resolve | ip4Started => cases hnext
  | _ => exact Or.inl rfl

theorem Plugin.Moves.driving {s t : Plugin} {label : Label} {out : List Event} {k : Nat}
    (h : s.Moves label t out) (hk : (t.tasks k).driving = true) :
    (s.tasks k).driving = true ∨ label.opens = some k := by
  rcases h.task k with hsame | hnext
  · exact Or.inl (hsame ▸ hk)
  · exact hnext.driving hk

def Plugin.One (s : Plugin) : Prop :=
  ∀ h k, (s.tasks h).driving = true → (s.tasks k).driving = true → h = k

theorem Plugin.Moves.one {s t : Plugin} {label : Label} {out : List Event}
    (h : s.Moves label t out) (hs : s.One) (hserial : serial [] s label) : t.One := by
  intro j k hj hk
  have hquiet : ∀ {k}, label.opens = some k → s.Quiet := by
    intro k hopens
    cases label <;> first | exact hserial | cases hopens
  rcases h.driving hj with hj | hj <;> rcases h.driving hk with hk | hk
  · exact hs j k hj hk
  · simp [hquiet hk j] at hj
  · simp [hquiet hj k] at hk
  · exact Option.some.inj (hj.symm.trans hk)

def Label.begins : Label → Option Nat
  | .connect h _ | .disconnect h | .deliver h _ => some h
  | _ => none

def serialBelow (n : Nat) (_ : List Event) (s : Plugin) (label : Label) : Bool :=
  (label.begins.all (· < n)) &&
    match label with
    | .connect _ _ | .disconnect _ => (List.range n).all (fun h => !(s.tasks h).driving)
    | _ => true

theorem Task.driving_of_fresh {task : Task} (h : task = .fresh) : task.driving = false := by
  subst h
  rfl

private theorem Task.Next.begins {k : Nat} {label : Label} {task next : Task}
    (h : Task.Next k label task next) (hfresh : task = .fresh) : label.begins = some k := by
  cases h with
  | connect | disconnect | deliver => rfl
  | _ => cases hfresh

private theorem Plugin.Moves.stays_fresh {s t : Plugin} {label : Label} {out : List Event} {h : Nat}
    (hmoves : s.Moves label t out) (hfresh : s.tasks h = .fresh) (hbegins : label.begins ≠ some h) :
    t.tasks h = .fresh := by
  rcases hmoves.task h with hsame | hnext
  · exact hsame.trans hfresh
  · exact absurd (hnext.begins hfresh) hbegins

theorem fresh_beyond (n : Nat) {allowed : List Event → Plugin → Label → Prop}
    {pppdPlugin ifname : String} {history : List Event} {s : Plugin}
    (run : Run Plugin.step allowed (.start pppdPlugin ifname) history s)
    (hbegins : ∀ history s label, allowed history s label → label.begins.all (· < n) = true) :
    ∀ h, n ≤ h → s.tasks h = .fresh := by
  refine run.state_invariant (fun s => ∀ h, n ≤ h → s.tasks h = .fresh) (fun _ _ => rfl) ?_
  intro s label t out history hfresh hallowed hstep h hh
  refine (Plugin.step_moves hstep).stays_fresh (hfresh h hh) ?_
  intro heq
  have hbelow := hbegins history s label hallowed
  simp [heq] at hbelow
  omega

theorem serialBelow_run (n : Nat) (more : List Event → Plugin → Label → Prop)
    {pppdPlugin ifname : String} {history : List Event} {s : Plugin}
    (run : Run Plugin.step
      (fun history s label => serialBelow n history s label = true ∧ more history s label)
      (.start pppdPlugin ifname) history s) :
    Run Plugin.step (fun history s label => serial history s label ∧ more history s label)
        (.start pppdPlugin ifname) history s := by
  induction run with
  | refl => exact .refl
  | @tail history s t label out run hallowed hstep ih =>
    have hfresh := fresh_beyond n run (fun _ _ _ h => (Bool.and_eq_true_iff.mp h.1).1)
    obtain ⟨-, hquiet⟩ := Bool.and_eq_true_iff.mp hallowed.1
    have hall : (List.range n).all (fun h => !(s.tasks h).driving) = true → s.Quiet := by
      intro hall h
      by_cases hh : n ≤ h
      · exact Task.driving_of_fresh (hfresh h hh)
      · simpa using List.all_eq_true.mp hall h (List.mem_range.mpr (by omega))
    have hserial : serial history s label := by
      cases label with
      | connect | disconnect => exact hall hquiet
      | _ => trivial
    exact ih.tail ⟨hserial, hallowed.2⟩ hstep

/-! ## Runs of one connection -/

def samlConnection (gateway : String) : Connection :=
  vpnConnection [("gateway", gateway), ("auth-type", "saml")] []

def connectLabels (h : Nat) (connection : Connection) : List Label :=
  .connect h connection :: List.replicate 6 (.task h)

/-- Call `h` is a whole `Disconnect` that stops session `i`, whose crosswire obeys. -/
def disconnectLabels (h i : Nat) : List Label :=
  [.disconnect h, .task h, .task h, .task h, .watch i .pollStop, .watch i (.exits true),
    .watch i .reap, .task h, .task h, .task h]

end CrosswireNm.Service
