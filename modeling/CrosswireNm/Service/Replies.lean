import CrosswireNm.Service.PluginRuns
import CrosswireNm.Service.Teardown

/-!
# Every call is replied to

A call waits for one of the two locks, for a watcher it has asked to tear down, or for another
process. Whoever holds a lock waits for no lock, and a watcher that is asked comes to its end. So a
call can be held up by another process only, and is replied to where each wait on one ends.
-/

namespace CrosswireNm.Service

open Library

section Fields

variable (s : Plugin) (h i : Nat) (task : Task) (session : Session) (cause : Cause) (call : Call)

@[simp] theorem Plugin.setTask_gatewayGuard :
    (s.setTask h task).gatewayGuard = s.gatewayGuard := rfl

@[simp] theorem Plugin.setSession_gatewayGuard :
    (s.setSession i session).gatewayGuard = s.gatewayGuard := rfl

@[simp] theorem Plugin.dropSup_gatewayGuard : (s.dropSup i).gatewayGuard = s.gatewayGuard := by
  unfold Plugin.dropSup
  split <;> rfl

@[simp] theorem Plugin.drive_gatewayGuard :
    (s.drive cause call).1.gatewayGuard = s.gatewayGuard := rfl

end Fields

def Task.resolving : Task → Bool
  | .resolve _ _ => true
  | _ => false

/-- What waiting relies on: the gateway is locked by the call that resolves it, every watcher keeps
track of its request, and a call waits only for one it has sent. -/
structure Plugin.Waits (s : Plugin) : Prop where
  gateway : ∀ h, (s.tasks h).resolving = true ↔ s.gatewayGuard = some h
  tracked : ∀ i session, s.sessions i = some session → session.watcher.Tracked
  watched : ∀ i session, s.sessions i = some session → s.tasks i ≠ .feed →
    session.watcher.point ≠ .unwatched
  requested : ∀ h goal old session, s.tasks h = .awaitStop goal old →
    s.sessions old = some session → session.watcher.request ≠ .none

theorem Plugin.start_waits (pppdPlugin ifname : String) :
    (Plugin.start pppdPlugin ifname).Waits where
  gateway := by simp [Plugin.start, Task.resolving]
  tracked := by simp [Plugin.start]
  watched := by simp [Plugin.start]
  requested := by simp [Plugin.start]

section Steps

variable {s t : Plugin} {label : Label} {out : List Event}

private theorem Plugin.setTask_gatewayLock {h : Nat} {task : Task}
    (hs : ∀ h, (s.tasks h).resolving = true ↔ s.gatewayGuard = some h)
    (htasks : ∀ k, t.tasks k = s.tasks k) (hguard : t.gatewayGuard = s.gatewayGuard)
    (hsame : task.resolving = (s.tasks h).resolving) (k : Nat) :
    ((t.setTask h task).tasks k).resolving = true ↔ (t.setTask h task).gatewayGuard = some k := by
  rw [Plugin.setTask_tasks, Plugin.setTask_gatewayGuard, hguard, ← hs k]
  split
  · rename_i hk
    rw [hk, hsame]
  · rw [htasks]

private theorem Plugin.step_readGateway {h i : Nat} (htask : s.tasks h = .readGateway i)
    (hstep : s.step (.task h) = some (t, out)) : s.gatewayGuard = none := by
  simp only [Plugin.step, Plugin.advance, htask] at hstep
  split at hstep
  · assumption
  · cases hstep

private theorem Plugin.step_gatewayLock (hstep : s.step label = some (t, out))
    (hs : ∀ h, (s.tasks h).resolving = true ↔ s.gatewayGuard = some h) (k : Nat) :
    (t.tasks k).resolving = true ↔ t.gatewayGuard = some k := by
  cases Plugin.step_moves hstep with
  | send | watch | report => exact hs k
  | @readGateway h i host htask =>
    rw [Plugin.setTask_tasks]
    split
    · rename_i hk
      simp [hk, Task.resolving]
    · rename_i hk
      simp [hs k, Plugin.step_readGateway htask hstep, Ne.symm hk]
  | @resolve h i host htask =>
    have hholder : s.gatewayGuard = some h := (hs h).mp (by rw [htask]; rfl)
    have hk := hs k
    rw [hholder] at hk
    rw [Plugin.setTask_tasks]
    split
    · simp [Task.resolving]
    · rename_i hne
      simp [hk, Ne.symm hne]
  | @deliver h message htask =>
    refine Plugin.setTask_gatewayLock hs (fun _ => rfl) rfl ?_ k
    rw [htask]
    cases message <;> rfl
  | @takeNone h goal htask =>
    refine Plugin.setTask_gatewayLock hs (fun _ => rfl) rfl ?_ k
    rw [htask]
    cases goal <;> rfl
  | connect htask | disconnect htask | storeGatewayMissing htask | storeGateway htask
  | askSecrets htask | leave htask | take htask | stop htask | stopEnded htask | awaitStop htask
  | limit htask | reset htask | release htask | settle htask | enterStarting htask | spawn htask
  | spawnError htask | feed htask | storeSup htask | storeSupNone htask | spawnFailed htask
  | readGatewayNone htask | ip4Config htask | ip4Started htask =>
    exact Plugin.setTask_gatewayLock hs (by simp) (by simp) (by rw [htask]; rfl) k

private theorem Plugin.dropSup_tracked {old i : Nat} {after : Session}
    (hs : ∀ i session, s.sessions i = some session → session.watcher.Tracked)
    (hafter : (s.dropSup old).sessions i = some after) : after.watcher.Tracked := by
  rw [Plugin.dropSup_sessions] at hafter
  split at hafter
  · obtain ⟨session, hsession, rfl⟩ := Option.map_eq_some_iff.mp hafter
    exact (hs old session hsession).dropSender
  · exact hs i after hafter

private theorem Plugin.setSession_tracked {i k : Nat} {changed after : Session}
    (hs : ∀ i session, s.sessions i = some session → session.watcher.Tracked)
    (hchanged : changed.watcher.Tracked)
    (hafter : (s.setSession k changed).sessions i = some after) :
    after.watcher.Tracked := by
  rw [Plugin.setSession_sessions] at hafter
  split at hafter
  · cases hafter
    exact hchanged
  · exact hs i after hafter

private theorem Plugin.Moves.tracked (h : s.Moves label t out) (hwf : s.Wf)
    (hs : ∀ i session, s.sessions i = some session → session.watcher.Tracked) {i : Nat}
    {after : Session} (hafter : t.sessions i = some after) : after.watcher.Tracked := by
  cases h with
  | stop _ hold hended => exact Plugin.setSession_tracked hs (.buffered hended) hafter
  | @reset h old =>
    exact Plugin.dropSup_tracked (s := (s.drive (.connect h) (.to .stopped)).1) hs hafter
  | release | storeSup => exact Plugin.dropSup_tracked hs hafter
  | spawn => exact Plugin.setSession_tracked hs Watcher.tracked_spawned hafter
  | feed htask hfed =>
    obtain ⟨fed, hfed', hasked, hpoint⟩ := hwf.feeding _ htask
    obtain rfl : fed = _ := Option.some.inj (hfed'.symm.trans hfed)
    refine Plugin.setSession_tracked hs ⟨fun htaken => ?_, fun hended => by cases hended⟩ hafter
    have hserving := (hs _ _ hfed).taken htaken
    simp [hpoint] at hserving
  | watch hwatched hmoves =>
    exact Plugin.setSession_tracked hs (hmoves.tracked (hs _ _ hwatched)) hafter
  | report _ hwatched hpoint =>
    exact Plugin.setSession_tracked hs
      ((Watcher.report_moves hpoint).tracked (hs _ _ hwatched)) hafter
  | _ => exact hs i after hafter

private theorem Plugin.Moves.watched (h : s.Moves label t out) (hwf : s.Wf)
    (hs : ∀ i session, s.sessions i = some session → s.tasks i ≠ .feed →
      session.watcher.point ≠ .unwatched) {i : Nat} {after : Session}
    (hafter : t.sessions i = some after) (hfed : t.tasks i ≠ .feed) :
    after.watcher.point ≠ .unwatched := by
  cases hsession : s.sessions i with
  | none =>
    obtain ⟨launch, rfl, htask, rfl⟩ := h.session_new hafter hsession
    rcases h.task i with hsame | hnext
    · cases h <;> simp_all
    · rw [htask] at hnext
      generalize t.tasks i = task at hnext hfed
      cases hnext
      exact absurd rfl hfed
  | some session =>
    obtain ⟨after', hafter', _, hnext⟩ := h.session hwf hsession
    obtain rfl : after' = after := Option.some.inj (hafter'.symm.trans hafter)
    by_cases hfeed : s.tasks i = .feed
    · have hchanged : t.tasks i ≠ s.tasks i := by rwa [hfeed]
      cases h with
      | @feed k =>
        obtain rfl : i = k := by
          by_contra hne
          simp [hne] at hchanged
        rw [Plugin.setTask_sessions, Plugin.setSession_sessions, if_pos rfl] at hafter'
        cases hafter'
        intro hpoint
        cases hpoint
      | _ => simp_all
    · have hwatched := hs i session hsession hfeed
      generalize after'.watcher = w at hnext ⊢
      cases hnext with
      | same | sent | dropped => exact hwatched
      | moves _ hmoves => exact hmoves.watched hwatched
      | started => intro hpoint; cases hpoint

private theorem Plugin.Moves.requested (h : s.Moves label t out) (hwf : s.Wf)
    (hs : ∀ h goal old session, s.tasks h = .awaitStop goal old →
      s.sessions old = some session → session.watcher.request ≠ .none) {k old : Nat} {goal : Goal}
    {after : Session} (htask : t.tasks k = .awaitStop goal old)
    (hafter : t.sessions old = some after) : after.watcher.request ≠ .none := by
  rcases h.task k with hsame | hnext
  · rw [htask] at hsame
    obtain ⟨_, session, hsession⟩ := hwf.taken k old (by rw [← hsame]; rfl)
    have hrequest := hs k goal old session hsame.symm hsession
    obtain ⟨after', hafter', _, hnext⟩ := h.session hwf hsession
    obtain rfl : after' = after := Option.some.inj (hafter'.symm.trans hafter)
    generalize after'.watcher = w at hnext ⊢
    cases hnext with
    | same | dropped | started => exact hrequest
    | sent => nofun
    | moves _ hmoves => exact hmoves.requested hrequest
  · rw [htask] at hnext
    generalize hbefore : s.tasks k = before at hnext
    generalize hnow : Task.awaitStop goal old = now at hnext
    cases hnext with
    | stop =>
      cases hnow
      cases h with
      | @stop _ old' goal' session htask' =>
        obtain ⟨rfl, rfl⟩ := Task.stop.inj (htask'.symm.trans hbefore)
        rw [Plugin.setTask_sessions, Plugin.setSession_sessions, if_pos rfl] at hafter
        cases hafter
        nofun
      | _ => simp_all
    | @deliver message => cases message <;> cases hnow
    | @takeNone goal | @release goal => cases goal <;> cases hnow
    | _ => cases hnow

theorem Plugin.step_waits (hstep : s.step label = some (t, out)) (hwf : s.Wf) (hs : s.Waits) :
    t.Waits where
  gateway := Plugin.step_gatewayLock hstep hs.gateway
  tracked := fun _ _ hafter => (Plugin.step_moves hstep).tracked hwf hs.tracked hafter
  watched := fun _ _ hafter hfed => (Plugin.step_moves hstep).watched hwf hs.watched hafter hfed
  requested := fun _ _ _ _ htask hafter =>
    (Plugin.step_moves hstep).requested hwf hs.requested htask hafter

def Plugin.Live (s : Plugin) : Prop := s.Wf ∧ s.Waits

theorem Plugin.step_live (hstep : s.step label = some (t, out)) (hs : s.Live) : t.Live :=
  ⟨(Plugin.step_moves hstep).wf hs.1, Plugin.step_waits hstep hs.1 hs.2⟩

theorem plugin_live {allowed : List Event → Plugin → Label → Prop} {pppdPlugin ifname : String}
    {history : List Event} (run : Run Plugin.step allowed (.start pppdPlugin ifname) history s) :
    s.Live :=
  run.state_invariant Plugin.Live
    ⟨Plugin.start_wf pppdPlugin ifname, Plugin.start_waits pppdPlugin ifname⟩
    (fun _ _ _ _ _ hs _ hstep => Plugin.step_live hstep hs)

end Steps

/-! ## The pieces of one call -/

/-- How many pieces a call has left at most. -/
def Task.pieces : Task → Nat
  | .fresh | .finished => 0
  | .askSecrets _ | .storeSup | .spawnFailed | .settle | .resolve _ _ | .ip4Started _ => 1
  | .feed | .readGateway _ | .ip4Config _ | .release .down _ => 2
  | .spawn _ | .awaitStop .down _ => 3
  | .enterStarting _ | .stop .down _ => 4
  | .release (.reconnect _) _ | .take .down => 5
  | .awaitStop (.reconnect _) _ | .leave => 6
  | .stop (.reconnect _) _ => 7
  | .take (.reconnect _) => 8
  | .storeGateway _ => 9

theorem Task.Next.pieces {k : Nat} {label : Label} {task next : Task}
    (h : Task.Next k label task next) (hopen : task ≠ .fresh) :
    next ≠ .fresh ∧ next.pieces < task.pieces := by
  cases h with
  | connect | disconnect | deliver => exact absurd rfl hopen
  | @takeNone goal | @release goal | @take goal | @stop goal | @stopEnded goal | @awaitStop goal
  | @limit goal => cases goal <;> simp [Goal.next, Task.pieces]
  | _ => simp [Task.pieces]

private theorem Task.Next.own {h k : Nat} {task next : Task}
    (hnext : Task.Next h (.task k) task next) : h = k := by
  cases hnext <;> rfl

def piecesOf (h : Nat) (_ : Plugin) : Label → Nat
  | .task k | .limit k | .spawnError k => if k = h then 1 else 0
  | _ => 0

section Pieces

variable {s t : Plugin} {label : Label} {out : List Event} {h k : Nat}

private theorem Plugin.Moves.changes (hmoves : s.Moves label t out)
    (hlabel : label = .task h ∨ label = .limit h ∨ label = .spawnError h) :
    t.tasks h ≠ s.tasks h := by
  cases hmoves with
  | connect | disconnect | send | deliver | watch | report => simp at hlabel
  | @takeNone _ goal htask =>
    obtain rfl : _ = h := by simpa using hlabel
    cases goal <;> simp [htask, Goal.next]
  | _ =>
    obtain rfl : _ = h := by simpa using hlabel
    simp_all

private theorem Plugin.Moves.pays (hmoves : s.Moves label t out) (hopen : s.tasks h ≠ .fresh) :
    t.tasks h ≠ .fresh ∧ piecesOf h s label + (t.tasks h).pieces ≤ (s.tasks h).pieces := by
  rcases hmoves.task h with hsame | hnext
  · refine ⟨by rwa [hsame], ?_⟩
    have hother : piecesOf h s label = 0 := by
      by_contra hcost
      have hown : label = .task h ∨ label = .limit h ∨ label = .spawnError h := by
        cases label <;> simp [piecesOf] at hcost ⊢ <;> exact hcost
      exact hmoves.changes hown hsame
    rw [hsame, hother]
    omega
  · obtain ⟨hopen', hless⟩ := hnext.pieces hopen
    have hone : piecesOf h s label ≤ 1 := by
      simp only [piecesOf]
      split <;> first | decide | (split <;> decide)
    exact ⟨hopen', by omega⟩

private theorem Plugin.Moves.others (hmoves : s.Moves (.task k) t out) (hne : h ≠ k) :
    t.tasks h = s.tasks h := by
  rcases hmoves.task h with hsame | hnext
  · exact hsame
  · exact absurd hnext.own hne

end Pieces

/-! ## Waiting -/

def Task.locks : Task → Bool
  | .take _ | .storeSup => true
  | _ => false

def Task.locksGateway : Task → Bool
  | .storeGateway _ | .readGateway _ => true
  | _ => false

def Task.awaits : Task → Option OtherWait
  | .feed => some .stdin
  | .resolve _ _ => some .resolver
  | _ => none

/-- The wait a call stands in, itself or with the watcher it has asked to tear down. -/
def Plugin.awaits (s : Plugin) (h : Nat) : Option OtherWait :=
  match s.tasks h with
  | .awaitStop _ old => (s.sessions old).bind fun session => session.watcher.point.awaits
  | task => task.awaits

def Plugin.HeldUp (ends : OtherWait → Prop) (s : Plugin) (h : Nat) : Prop :=
  ∃ wait, s.awaits h = some wait ∧ ¬ ends wait

/-- The call is held up, or wants the lock of a call that is. -/
def Plugin.Delayed (ends : OtherWait → Prop) (s : Plugin) (h : Nat) : Prop :=
  s.HeldUp ends h ∨ ∃ k, s.HeldUp ends k ∧
    ((s.tasks h).locks = true ∧ s.slotGuard = some k ∨
      (s.tasks h).locksGateway = true ∧ s.gatewayGuard = some k)

/-- What goes on by itself: the calls in progress and the watchers. No call is made, no `stop()`
runs into its limit, a child exits by itself only when it was killed, and of the waits on other
processes only those end that are known to. -/
def settling (ends : OtherWait → Prop) (_ : List Event) (s : Plugin) : Label → Prop
  | .task h => ∀ wait, (s.tasks h).awaits = some wait → ends wait
  | .watch i act => ∃ session, s.sessions i = some session ∧ session.watcher.Unforced ends act
  | _ => False

section Waiting

variable {s t : Plugin} {history : List Event} {out : List Event} {h k i old : Nat} {goal : Goal}
  {ends : OtherWait → Prop}

theorem Plugin.not_delayed (s : Plugin) (h : Nat) : ¬ s.Delayed othersEnd h := by
  rintro (⟨_, _, hends⟩ | ⟨_, ⟨_, _, hends⟩, _⟩) <;> exact hends trivial

private theorem Task.old_of_locks {task : Task} (hlocks : task.locks = true) : task.old = none := by
  cases task <;> simp [Task.locks] at hlocks <;> rfl

private theorem Task.awaits_of_locks {task : Task} (hlocks : task.locks = true) :
    task.awaits = none := by
  cases task <;> simp [Task.locks] at hlocks <;> rfl

private theorem Task.not_resolving {task : Task} (hlocks : task.locksGateway = true) :
    task.resolving = false ∧ task.awaits = none := by
  cases task <;> simp [Task.locksGateway] at hlocks <;> exact ⟨rfl, rfl⟩

private theorem Plugin.hear_same (s : Plugin) (i : Nat) (out : List WatcherEvent) :
    (s.hear i out).1.tasks = s.tasks ∧ (s.hear i out).1.sessions = s.sessions ∧
      (s.hear i out).1.slotGuard = s.slotGuard := by
  unfold Plugin.hear
  split <;> exact ⟨rfl, rfl, rfl⟩

/-- A watcher's unforced step is a step of the service that leaves the calls alone. -/
theorem Plugin.step_watch {session : Session} {v : Watcher} {act : Act}
    {events : List WatcherEvent} (hsession : s.sessions i = some session)
    (hmove : session.watcher.step act = some (v, events))
    (hsees : ∀ seen, act = .judge seen → seen = s.inner.state) :
    ∃ t out, s.step (.watch i act) = some (t, out) ∧ t.tasks = s.tasks ∧
      t.sessions i = some ⟨session.launch, v⟩ := by
  have hact : act.sees s.inner.state = true := by
    cases act with
    | judge seen => simp [Act.sees, hsees seen rfl]
    | _ => rfl
  obtain ⟨htasks, hsessions, _⟩ := (s.setSession i ⟨session.launch, v⟩).hear_same i events
  refine ⟨((s.setSession i ⟨session.launch, v⟩).hear i events).1,
    ((s.setSession i ⟨session.launch, v⟩).hear i events).2, ?_, htasks, ?_⟩
  · simp [Plugin.step, hsession, hact, hmove]
  · rw [hsessions, Plugin.setSession_sessions, if_pos rfl]

private def Plugin.toAnswer (s : Plugin) (old : Nat) : Nat :=
  match s.sessions old with
  | some session => session.watcher.toReturn
  | none => 0

private theorem Plugin.Live.answered (hs : s.Live) (htask : s.tasks k = .awaitStop goal old) :
    Leads Plugin.step (settling ends) (fun _ t => t.Live ∧ t.tasks = s.tasks ∧
      (t.HeldUp ends k ∨
        ∃ session, t.sessions old = some session ∧ session.watcher.answered = true))
      history s := by
  refine Leads.of_rank (fun t => t.Live ∧ t.tasks = s.tasks) (fun t => t.toAnswer old) ?_ ⟨hs, rfl⟩
  rintro history t ⟨ht, htasks⟩
  have htask' : t.tasks k = .awaitStop goal old := by rw [htasks, htask]
  obtain ⟨hfinished, session, hsession⟩ := ht.1.taken k old (by rw [htask']; rfl)
  by_cases hanswered : session.watcher.answered = true
  · exact Or.inl ⟨ht, htasks, Or.inr ⟨session, hsession, hanswered⟩⟩
  · by_cases hheld : session.watcher.HeldUp ends
    · obtain ⟨wait, hawaits, hends⟩ := hheld
      exact Or.inl ⟨ht, htasks, Or.inl ⟨wait, by simp [Plugin.awaits, htask', hsession, hawaits],
        hends⟩⟩
    · right
      obtain ⟨act, v, events, hmove, hunforced, hsees, hless⟩ :=
        Watcher.down t.inner.state (ht.1.sound _ _ hsession) (ht.2.tracked _ _ hsession)
          (ht.2.watched _ _ hsession (by simp [hfinished]))
          (ht.2.requested _ _ _ _ htask' hsession) hanswered hheld
      obtain ⟨u, out, hstep, htasks', hafter⟩ := Plugin.step_watch hsession hmove hsees
      refine .step (.watch old act) ⟨session, hsession, hunforced⟩ hstep (.here (Or.inr ⟨?_, ?_⟩))
      · exact ⟨Plugin.step_live hstep ht, htasks'.trans htasks⟩
      · simpa [Plugin.toAnswer, hafter, hsession] using hless

/-- The slot is unlocked or `k` is held up with it, and the other calls are where they were. -/
private def Plugin.Unlocked (ends : OtherWait → Prop) (s : Plugin) (k : Nat) (_ : List Event)
    (t : Plugin) : Prop :=
  t.Live ∧ (t.slotGuard = none ∨ t.slotGuard = some k ∧ t.HeldUp ends k) ∧
    ∀ j, j ≠ k → t.tasks j = s.tasks j

private theorem Plugin.Unlocked.head (hstep : s.step (.task k) = some (t, out))
    (hawaits : (s.tasks k).awaits = none)
    (h : ∀ history, Leads Plugin.step (settling ends) (t.Unlocked ends k) history t) :
    Leads Plugin.step (settling ends) (s.Unlocked ends k) history s := by
  refine .step (.task k) (by simp [settling, hawaits]) hstep ((h _).mono ?_)
  rintro history u ⟨hu, hguard, hothers⟩
  exact ⟨hu, hguard, fun j hne => (hothers j hne).trans ((Plugin.step_moves hstep).others hne)⟩

private theorem Plugin.Live.unlocked_release (hs : s.Live) (htask : s.tasks k = .release goal old) :
    Leads Plugin.step (settling ends) (s.Unlocked ends k) history s := by
  obtain ⟨t, out, hstep, hguard⟩ : ∃ t out, s.step (.task k) = some (t, out) ∧
      t.slotGuard = none := by
    simp only [Plugin.step, Plugin.advance, htask]
    cases goal <;> exact ⟨_, _, rfl, rfl⟩
  have hlive := Plugin.step_live hstep hs
  exact Plugin.Unlocked.head hstep (by rw [htask]; rfl)
    fun _ => .here ⟨hlive, Or.inl hguard, fun _ _ => rfl⟩

private theorem Plugin.Live.unlocked_awaitStop (hs : s.Live)
    (htask : s.tasks k = .awaitStop goal old) :
    Leads Plugin.step (settling ends) (s.Unlocked ends k) history s := by
  refine (hs.answered htask).bind ?_
  rintro history t ⟨ht, htasks, hanswer⟩
  have htask' : t.tasks k = .awaitStop goal old := by rw [htasks, htask]
  rcases hanswer with hheld | ⟨session, hsession, hanswered⟩
  · have hguard := (ht.1.locked k).mp (by rw [htask']; rfl)
    exact .here ⟨ht, Or.inr ⟨hguard, hheld⟩, fun j _ => congrFun htasks j⟩
  · have hstep : t.step (.task k) =
        some (t.setTask k (.release goal old), [.stopReturned old true]) := by
      simp [Plugin.step, Plugin.advance, htask', hsession, hanswered]
    have hlive := Plugin.step_live hstep ht
    have hnext : (t.setTask k (.release goal old)).tasks k = .release goal old := by simp
    refine (Plugin.Unlocked.head hstep (by rw [htask']; rfl)
      fun _ => hlive.unlocked_release hnext).mono ?_
    rintro history u ⟨hu, hguard, hothers⟩
    exact ⟨hu, hguard, fun j hne => (hothers j hne).trans (congrFun htasks j)⟩

/-- Whoever has the slot locked unlocks it or is held up. -/
private theorem Plugin.Live.unlocked (hs : s.Live) (hguard : s.slotGuard = some k) :
    Leads Plugin.step (settling ends) (s.Unlocked ends k) history s := by
  have hold := (hs.1.locked k).mpr hguard
  cases htask : s.tasks k with
  | release => exact hs.unlocked_release htask
  | awaitStop => exact hs.unlocked_awaitStop htask
  | stop goal old =>
    obtain ⟨_, session, hsession⟩ := hs.1.taken k old (by rw [htask]; rfl)
    by_cases hended : session.watcher.point = .ended
    · have hstep : s.step (.task k) =
          some (s.setTask k (.release goal old), [.stopReturned old true]) := by
        simp [Plugin.step, Plugin.advance, htask, hsession, Watcher.send, hended]
      have hlive := Plugin.step_live hstep hs
      have hnext : (s.setTask k (.release goal old)).tasks k = .release goal old := by simp
      exact Plugin.Unlocked.head hstep (by rw [htask]; rfl) fun _ => hlive.unlocked_release hnext
    · obtain ⟨t, hstep, hnext⟩ : ∃ t, s.step (.task k) = some (t, []) ∧
          t.tasks k = .awaitStop goal old := by
        simp only [Plugin.step, Plugin.advance, htask, hsession, Watcher.send, if_neg hended]
        exact ⟨_, rfl, by simp⟩
      have hlive := Plugin.step_live hstep hs
      exact Plugin.Unlocked.head hstep (by rw [htask]; rfl) fun _ => hlive.unlocked_awaitStop hnext
  | _ => simp [htask, Task.old] at hold

private theorem Plugin.Live.gateway_unlocked (hs : s.Live) (hguard : s.gatewayGuard = some k) :
    Leads Plugin.step (settling ends) (fun _ t => t.Live ∧
      (t.gatewayGuard = none ∨ t.gatewayGuard = some k ∧ t.HeldUp ends k) ∧
      ∀ j, j ≠ k → t.tasks j = s.tasks j) history s := by
  have hresolving := (hs.2.gateway k).mpr hguard
  cases htask : s.tasks k with
  | resolve i host =>
    by_cases hends : ends .resolver
    · have hstep : s.step (.task k) = some ({ s with gatewayGuard := none }.setTask k .finished,
          [.config i (some host)]) := by
        simp [Plugin.step, Plugin.advance, htask]
      exact .step (.task k) (by simp [settling, htask, Task.awaits, hends]) hstep
        (.here ⟨Plugin.step_live hstep hs, Or.inl rfl,
          fun j hne => (Plugin.step_moves hstep).others hne⟩)
    · have hheld : s.HeldUp ends k :=
        ⟨.resolver, by simp [Plugin.awaits, htask, Task.awaits], hends⟩
      exact .here ⟨hs, Or.inr ⟨hguard, hheld⟩, fun _ _ => rfl⟩
  | _ => simp [htask, Task.resolving] at hresolving

/-- What a call is on the way to: its end, a delay, or fewer pieces. -/
private def Plugin.Nearer (ends : OtherWait → Prop) (n h : Nat) (_ : List Event) (t : Plugin) :
    Prop :=
  (t.tasks h = .finished ∨ t.Delayed ends h) ∨
    ((t.Live ∧ t.tasks h ≠ .fresh) ∧ (t.tasks h).pieces < n)

private theorem Plugin.Live.piece {n : Nat} (hs : s.Live) (hopen : s.tasks h ≠ .fresh)
    (hn : (s.tasks h).pieces ≤ n) (hends : ∀ wait, (s.tasks h).awaits = some wait → ends wait)
    (hready : s.advance h (s.tasks h) ≠ none) :
    Leads Plugin.step (settling ends) (Plugin.Nearer ends n h) history s := by
  obtain ⟨⟨t, out⟩, hstep⟩ := Option.ne_none_iff_exists'.mp hready
  have hlabel : s.step (.task h) = some (t, out) := hstep
  obtain ⟨hopen', hpays⟩ := (Plugin.step_moves hlabel).pays hopen
  simp only [piecesOf, if_true] at hpays
  exact .step (.task h) hends hlabel
    (.here (Or.inr ⟨⟨Plugin.step_live hlabel hs, hopen'⟩, by omega⟩))

private theorem Plugin.Live.slot_piece (hs : s.Live) (hopen : s.tasks h ≠ .fresh)
    (hlocks : (s.tasks h).locks = true)
    (hready : ∀ t : Plugin, t.Live → t.slotGuard = none → t.tasks h = s.tasks h →
      t.advance h (t.tasks h) ≠ none) :
    Leads Plugin.step (settling ends) (Plugin.Nearer ends (s.tasks h).pieces h) history s := by
  have hawaits := Task.awaits_of_locks hlocks
  cases hguard : s.slotGuard with
  | none =>
    exact hs.piece hopen (Nat.le_refl _) (by simp [hawaits]) (hready s hs hguard rfl)
  | some k =>
    have hne : h ≠ k := by
      rintro rfl
      have hold := (hs.1.locked h).mpr hguard
      simp [Task.old_of_locks hlocks] at hold
    refine (hs.unlocked hguard).bind ?_
    rintro history t ⟨ht, hguard', hothers⟩
    have hsame := hothers h hne
    rcases hguard' with hfree | ⟨hlocked, hheld⟩
    · exact ht.piece (hsame ▸ hopen) (Nat.le_of_eq (congrArg _ hsame)) (by simp [hsame, hawaits])
        (hready t ht hfree hsame)
    · exact .here (Or.inl (Or.inr (Or.inr ⟨k, hheld, Or.inl ⟨hsame ▸ hlocks, hlocked⟩⟩)))

private theorem Plugin.Live.gateway_piece (hs : s.Live) (hopen : s.tasks h ≠ .fresh)
    (hlocks : (s.tasks h).locksGateway = true)
    (hready : ∀ t : Plugin, t.gatewayGuard = none → t.tasks h = s.tasks h →
      t.advance h (t.tasks h) ≠ none) :
    Leads Plugin.step (settling ends) (Plugin.Nearer ends (s.tasks h).pieces h) history s := by
  obtain ⟨hnone, hawaits⟩ := Task.not_resolving hlocks
  cases hguard : s.gatewayGuard with
  | none =>
    exact hs.piece hopen (Nat.le_refl _) (by simp [hawaits]) (hready s hguard rfl)
  | some k =>
    have hne : h ≠ k := by
      rintro rfl
      have hresolving := (hs.2.gateway h).mpr hguard
      simp [hnone] at hresolving
    refine (hs.gateway_unlocked hguard).bind ?_
    rintro history t ⟨ht, hguard', hothers⟩
    have hsame := hothers h hne
    rcases hguard' with hfree | ⟨hlocked, hheld⟩
    · exact ht.piece (hsame ▸ hopen) (Nat.le_of_eq (congrArg _ hsame)) (by simp [hsame, hawaits])
        (hready t hfree hsame)
    · exact .here (Or.inl (Or.inr (Or.inr ⟨k, hheld, Or.inr ⟨hsame ▸ hlocks, hlocked⟩⟩)))

private theorem Plugin.Live.nearer (hs : s.Live) (hopen : s.tasks h ≠ .fresh) :
    Leads Plugin.step (settling ends) (Plugin.Nearer ends (s.tasks h).pieces h) history s := by
  cases htask : s.tasks h with
  | fresh => exact absurd htask hopen
  | finished => exact .here (Or.inl (Or.inl htask))
  | storeGateway launch =>
    rw [← htask]
    refine hs.gateway_piece hopen (by rw [htask]; rfl) ?_
    intro t hfree hsame
    simp [hsame, htask, Plugin.advance, hfree]
  | readGateway i =>
    rw [← htask]
    refine hs.gateway_piece hopen (by rw [htask]; rfl) ?_
    intro t hfree hsame
    cases hgateway : t.gateway <;> simp [hsame, htask, Plugin.advance, hfree, hgateway]
  | take goal =>
    rw [← htask]
    refine hs.slot_piece hopen (by rw [htask]; rfl) ?_
    intro t _ hfree hsame
    cases hslot : t.slot <;> simp [hsame, htask, Plugin.advance, hfree, hslot]
  | storeSup =>
    rw [← htask]
    refine hs.slot_piece hopen (by rw [htask]; rfl) ?_
    intro t _ hfree hsame
    simp [hsame, htask, Plugin.advance, hfree]
  | stop goal old =>
    obtain ⟨_, session, hsession⟩ := hs.1.taken h old (by rw [htask]; rfl)
    rw [← htask]
    refine hs.piece hopen (Nat.le_refl _) (by simp [htask, Task.awaits]) ?_
    simp only [htask, Plugin.advance, hsession, Watcher.send]
    split <;> simp
  | awaitStop goal old =>
    refine (hs.answered htask).bind ?_
    rintro history t ⟨ht, htasks, hanswer⟩
    have htask' : t.tasks h = .awaitStop goal old := by rw [htasks, htask]
    rcases hanswer with hheld | ⟨session, hsession, hanswered⟩
    · exact .here (Or.inl (Or.inr (Or.inl hheld)))
    · refine ht.piece (by simp [htask']) (by rw [htask']) (by simp [htask', Task.awaits]) ?_
      simp [htask', Plugin.advance, hsession, hanswered]
  | feed =>
    by_cases hends : ends .stdin
    · obtain ⟨session, hsession, _⟩ := hs.1.feeding h htask
      rw [← htask]
      exact hs.piece hopen (Nat.le_refl _) (by simp [htask, Task.awaits, hends])
        (by simp [htask, Plugin.advance, hsession])
    · exact .here (Or.inl (Or.inr (Or.inl
        ⟨.stdin, by simp [Plugin.awaits, htask, Task.awaits], hends⟩)))
  | resolve i host =>
    by_cases hends : ends .resolver
    · rw [← htask]
      exact hs.piece hopen (Nat.le_refl _) (by simp [htask, Task.awaits, hends])
        (by simp [htask, Plugin.advance])
    · exact .here (Or.inl (Or.inr (Or.inl
        ⟨.resolver, by simp [Plugin.awaits, htask, Task.awaits], hends⟩)))
  | askSecrets | leave | release | settle | enterStarting | spawn | spawnFailed | ip4Config
  | ip4Started =>
    rw [← htask]
    exact hs.piece hopen (Nat.le_refl _) (by simp [htask, Task.awaits])
      (by simp [htask, Plugin.advance])

private theorem Plugin.Live.returns (hs : s.Live) (hopen : s.tasks h ≠ .fresh)
    (ends : OtherWait → Prop) :
    Leads Plugin.step (settling ends) (fun _ t => t.tasks h = .finished ∨ t.Delayed ends h)
      history s :=
  Leads.of_rank (fun s => s.Live ∧ s.tasks h ≠ .fresh) (fun s => (s.tasks h).pieces)
    (fun _ _ hs => Or.inr (hs.1.nearer hs.2)) ⟨hs, hopen⟩

end Waiting

/-- In every state of every run, whatever calls are in progress and wherever they stand, a call has
at most nine pieces left. The calls in progress and the watchers go on by themselves until it is
done, or until it or the call whose lock it wants waits on another process that leaves it waiting:
nothing waits in a circle. Where every such wait ends, every call is replied to. -/
theorem calls_return {pppdPlugin ifname : String} {history : List Event} {s : Plugin} {h : Nat}
    (run : Run Plugin.step anyLabel (.start pppdPlugin ifname) history s)
    (hopen : s.tasks h ≠ .fresh) :
    (∀ n t, Spends Plugin.step (piecesOf h) s n t → n ≤ 9) ∧
      (∀ ends, Leads Plugin.step (settling ends)
        (fun _ t => t.tasks h = .finished ∨ t.Delayed ends h) history s) ∧
      Leads Plugin.step (settling othersEnd) (fun _ t => t.tasks h = .finished) history s := by
  have hlive := plugin_live run
  refine ⟨?_, fun ends => hlive.returns hopen ends,
    (hlive.returns hopen othersEnd).resolve fun _ t => t.not_delayed h⟩
  intro n t hspends
  have hpaid := hspends.bounded (fun s => (s.tasks h).pieces)
    (fun s => s.tasks h ≠ .fresh)
    (fun _ _ _ _ hs hstep => ((Plugin.step_moves hstep).pays hs).1)
    (fun _ _ _ _ hs hstep => ((Plugin.step_moves hstep).pays hs).2) hopen
  have hmost : (s.tasks h).pieces ≤ 9 := by
    cases s.tasks h with
    | take goal | stop goal | awaitStop goal | release goal => cases goal <;> simp [Task.pieces]
    | _ => simp [Task.pieces]
  omega

/-- A `Disconnect` waits for the watcher of the session it stops, a second `Connect` for the slot
the `Disconnect` has locked. -/
def twoWait : List Label :=
  connectLabels 0 (samlConnection "vpn.example") ++ (disconnectLabels 1 0).take 4 ++
    [.connect 2 (samlConnection "other.example"), .task 2]

theorem calls_return_twoWait :
    ∃ history s, Run Plugin.step anyLabel (.start "plugin.so" "ppp0") history s ∧
      s.advance 2 (s.tasks 2) = none ∧ (∀ n t, Spends Plugin.step (piecesOf 2) s n t → n ≤ 9) ∧
      (∀ ends, Leads Plugin.step (settling ends)
        (fun _ t => t.tasks 2 = .finished ∨ t.Delayed ends 2) history s) ∧
      Leads Plugin.step (settling othersEnd) (fun _ t => t.tasks 2 = .finished) history s := by
  obtain ⟨history, s, hexec, htask, hwaits⟩ : ∃ history s,
      exec Plugin.step (fun _ _ _ => true) [] (.start "plugin.so" "ppp0") twoWait =
        some (history, s) ∧ s.tasks 2 ≠ .fresh ∧ s.advance 2 (s.tasks 2) = none :=
    ⟨_, _, rfl, nofun, rfl⟩
  have run := exec_run (fun _ _ _ _ => trivial) .refl hexec
  exact ⟨history, s, run, hwaits, calls_return run htask⟩

end CrosswireNm.Service
