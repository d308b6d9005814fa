import CrosswireNm.Service.PluginSteps

/-!
# What every interleaving keeps

`Plugin.Wf` ties the slot, its lock, the calls in progress and the sessions together, whatever
order their steps come in.
-/

namespace CrosswireNm.Service

open Library

def Task.old : Task → Option Nat
  | .stop _ old | .awaitStop _ old | .release _ old => some old
  | _ => none

@[simp, grind =] theorem Task.old_finished : Task.finished.old = none := rfl
@[simp, grind =] theorem Task.old_feed : Task.feed.old = none := rfl
@[simp, grind =] theorem Task.old_storeSup : Task.storeSup.old = none := rfl
@[simp, grind =] theorem Task.old_stop {goal : Goal} {old : Nat} :
    (Task.stop goal old).old = some old := rfl
@[simp, grind =] theorem Task.old_awaitStop {goal : Goal} {old : Nat} :
    (Task.awaitStop goal old).old = some old := rfl
@[simp, grind =] theorem Task.old_release {goal : Goal} {old : Nat} :
    (Task.release goal old).old = some old := rfl

/-- A call that has no `Supervisor` of its own in hand, neither one to stop nor one to store. -/
def Task.bare : Task → Bool
  | .finished | .stop _ _ | .awaitStop _ _ | .release _ _ | .feed | .storeSup => false
  | _ => true

@[grind →] theorem Task.bare_spec {task : Task} (h : task.bare = true) :
    task.old = none ∧ task ≠ .finished ∧ task ≠ .feed ∧ task ≠ .storeSup := by
  cases task <;> simp [Task.bare, Task.old] at h ⊢

structure Plugin.Wf (s : Plugin) : Prop where
  sound : ∀ i session, s.sessions i = some session → session.watcher.Sound
  locked : ∀ h, (s.tasks h).old.isSome = true ↔ s.slotGuard = some h
  emptied : s.slotGuard ≠ none → s.slot = none
  taken : ∀ h old, (s.tasks h).old = some old →
    s.tasks old = .finished ∧ ∃ session, s.sessions old = some session
  held : ∀ i, s.slot = some i → s.tasks i = .finished ∧
    ∃ session, s.sessions i = some session ∧ session.watcher.asked = false
  feeding : ∀ h, s.tasks h = .feed → ∃ session, s.sessions h = some session ∧
    session.watcher.asked = false ∧ session.watcher.point = .unwatched
  storing : ∀ h, s.tasks h = .storeSup →
    ∃ session, s.sessions h = some session ∧ session.watcher.asked = false
  born : ∀ i session, s.sessions i = some session →
    s.tasks i = .feed ∨ s.tasks i = .storeSup ∨ s.tasks i = .finished
  kept : ∀ i session, s.sessions i = some session → session.watcher.asked = false →
    s.slot = some i ∨ s.tasks i = .feed ∨ s.tasks i = .storeSup ∨
      ∃ h, (s.tasks h).old = some i

section Wf

variable {s t : Plugin} {label : Label} {out : List Event}

theorem Plugin.Wf.congr (hs : s.Wf) (hslot : t.slot = s.slot) (hguard : t.slotGuard = s.slotGuard)
    (hsessions : t.sessions = s.sessions) (htasks : t.tasks = s.tasks) : t.Wf := by
  obtain ⟨⟩ := s
  obtain ⟨⟩ := t
  subst hslot hguard hsessions htasks
  exact ⟨hs.sound, hs.locked, hs.emptied, hs.taken, hs.held, hs.feeding, hs.storing, hs.born,
    hs.kept⟩

/-- A session that somebody is about to stop keeps its claim when another task changes. -/
theorem Plugin.Wf.setTask_kept (h : Nat) (task : Task) (hs : s.Wf)
    (hold : ∀ i, (s.tasks h).old = some i → task.old = some i)
    (hfeed : s.tasks h ≠ .feed) (hstore : s.tasks h ≠ .storeSup) : ∀ i session,
    s.sessions i = some session → session.watcher.asked = false →
    s.slot = some i ∨ (s.setTask h task).tasks i = .feed ∨ (s.setTask h task).tasks i = .storeSup ∨
      ∃ k, ((s.setTask h task).tasks k).old = some i := by
  intro i session hsession hasked
  rcases hs.kept i session hsession hasked with hslot | hkeep | hkeep | ⟨k, hk⟩
  · exact Or.inl hslot
  · exact Or.inr (Or.inl (by grind))
  · exact Or.inr (Or.inr (Or.inl (by grind)))
  · exact Or.inr (Or.inr (Or.inr ⟨k, by grind⟩))

theorem Plugin.Wf.setTask {h : Nat} {task : Task} (hs : s.Wf)
    (hold : task.old = (s.tasks h).old)
    (hfrom : s.tasks h ≠ .finished ∧ s.tasks h ≠ .feed ∧ s.tasks h ≠ .storeSup)
    (hto : task ≠ .feed ∧ task ≠ .storeSup) : (s.setTask h task).Wf where
  sound := hs.sound
  locked := by grind [hs.locked]
  emptied := hs.emptied
  taken := by grind [hs.taken]
  held := by grind [hs.held]
  feeding := by grind [hs.feeding]
  storing := by grind [hs.storing]
  born := by grind [hs.born]
  kept := hs.setTask_kept h task (fun i hi => hold.trans hi) hfrom.2.1 hfrom.2.2

theorem Plugin.Wf.proceed {h : Nat} {task : Task} (hs : s.Wf) (hbare : (s.tasks h).bare = true)
    (hnext : task.bare = true ∨ task = .finished) : (s.setTask h task).Wf := by
  obtain ⟨hold, hfrom⟩ := Task.bare_spec hbare
  rcases hnext with hnext | rfl
  · obtain ⟨hnone, _, hto⟩ := Task.bare_spec hnext
    exact hs.setTask (hnone.trans hold.symm) hfrom hto
  · exact hs.setTask hold.symm hfrom (by simp)

theorem Plugin.Wf.goOn {h old : Nat} {task : Task} (hs : s.Wf) (htask : (s.tasks h).old = some old)
    (hold : task.old = some old) : (s.setTask h task).Wf := by
  refine hs.setTask (hold.trans htask.symm) ⟨?_, ?_, ?_⟩ ⟨?_, ?_⟩ <;> intro hpoint
  · simp [hpoint] at htask
  · simp [hpoint] at htask
  · simp [hpoint] at htask
  · simp [hpoint] at hold
  · simp [hpoint] at hold

theorem Plugin.Wf.take {h old : Nat} {goal : Goal} (hs : s.Wf) (htask : (s.tasks h).bare = true)
    (hguard : s.slotGuard = none) (hslot : s.slot = some old) :
    ({ s with slot := none, slotGuard := some h }.setTask h (.stop goal old)).Wf where
  sound := hs.sound
  locked := by grind [hs.locked]
  emptied := by grind
  taken := by grind [hs.taken, hs.held]
  held := by grind
  feeding := by grind [hs.feeding]
  storing := by grind [hs.storing]
  born := by grind [hs.born]
  kept := by
    intro i session hsession hasked
    have hkept := hs.setTask_kept h (.stop goal old) (by grind) (by grind) (by grind)
    rcases hkept i session hsession hasked with hheld | hkeep
    · exact Or.inr (Or.inr (Or.inr ⟨h, by grind⟩))
    · exact Or.inr hkeep

theorem Plugin.Wf.setWatcher {i : Nat} {session : Session} {w : Watcher} (hs : s.Wf)
    (hsession : s.sessions i = some session) (hsound : w.Sound)
    (hasked : w.asked = session.watcher.asked ∨
      (w.asked = true ∧ s.slot ≠ some i ∧ s.tasks i = .finished))
    (hfeed : session.watcher.point = .unwatched → w.point = .unwatched) :
    (s.setSession i ⟨session.launch, w⟩).Wf where
  sound := by grind [hs.sound]
  locked := by grind [hs.locked]
  emptied := hs.emptied
  taken := by grind [hs.taken]
  held := by grind [hs.held]
  feeding := by grind [hs.feeding]
  storing := by grind [hs.storing]
  born := by grind [hs.born]
  kept := by
    intro k session' hsession' hasked'
    by_cases hk : k = i
    · exact hs.kept k session (by grind) (by grind)
    · exact hs.kept k session' (by grind) hasked'

theorem Plugin.Wf.holder {h old : Nat} (hs : s.Wf) (hold : (s.tasks h).old = some old) :
    s.slotGuard = some h :=
  (hs.locked h).mp (by simp [hold])

theorem Plugin.Wf.slot_none {h old : Nat} (hs : s.Wf) (hold : (s.tasks h).old = some old) :
    s.slot = none :=
  hs.emptied (by simp [hs.holder hold])

theorem Plugin.Wf.dropSup {h old : Nat} (hs : s.Wf) (hold : (s.tasks h).old = some old) :
    (s.dropSup old).Wf := by
  obtain ⟨hfinished, session, hsession⟩ := hs.taken h old hold
  have hslot := hs.slot_none hold
  simp only [Plugin.dropSup, hsession]
  refine hs.setWatcher hsession (hs.sound _ _ hsession).dropSender (Or.inr ⟨?_, ?_, hfinished⟩) id
  · simp [Watcher.asked, Watcher.dropSender]
  · simp [hslot]

theorem Plugin.Wf.unlock {h old : Nat} {task : Task} (hs : s.Wf)
    (hold : (s.tasks h).old = some old) (hnext : task.bare = true)
    (hasked : ∀ session, s.sessions old = some session → session.watcher.asked = true) :
    ({ s with slotGuard := none }.setTask h task).Wf where
  sound := hs.sound
  locked := by
    have hguard := hs.holder hold
    intro k
    by_cases hk : k = h
    · simp [hk, (Task.bare_spec hnext).1]
    · have hother := hs.locked k
      rw [hguard] at hother
      simpa [hk, Ne.symm hk] using hother
  emptied := nofun
  taken := by grind [hs.taken]
  held := by grind [hs.held]
  feeding := by grind [hs.feeding]
  storing := by grind [hs.storing]
  born := by grind [hs.born]
  kept := by
    intro i session hsession hunasked
    rcases hs.kept i session hsession hunasked with hslot | hkeep | hkeep | ⟨k, hk⟩
    · exact Or.inl hslot
    · exact Or.inr (Or.inl (by grind))
    · exact Or.inr (Or.inr (Or.inl (by grind)))
    · exact Or.inr (Or.inr (Or.inr ⟨k, by grind⟩))

theorem Plugin.Wf.release {h old : Nat} {task : Task} (hs : s.Wf)
    (hold : (s.tasks h).old = some old) (hnext : task.bare = true) :
    ({ s.dropSup old with slotGuard := none }.setTask h task).Wf := by
  have hdropped : ((s.dropSup old).tasks h).old = some old := by simpa using hold
  refine (hs.dropSup hold).unlock hdropped hnext ?_
  intro session hsession
  rw [Plugin.dropSup_sessions, if_pos rfl] at hsession
  obtain ⟨session', _, rfl⟩ := Option.map_eq_some_iff.mp hsession
  simp [Watcher.asked, Session.dropSender, Watcher.dropSender]

theorem Plugin.Wf.spawn {h : Nat} {launch : Launch} (hs : s.Wf) (htask : (s.tasks h).bare = true) :
    ((s.setSession h ⟨launch, .spawned⟩).setTask h .feed).Wf where
  sound := by grind [hs.sound, Watcher.sound_spawned]
  locked := by grind [hs.locked]
  emptied := hs.emptied
  taken := by grind [hs.taken]
  held := by grind [hs.held]
  feeding := by
    intro k hk
    by_cases hself : k = h
    · exact ⟨⟨launch, .spawned⟩, by simp [hself], rfl, rfl⟩
    · simpa [hself] using hs.feeding k (by simpa [hself] using hk)
  storing := by grind [hs.storing]
  born := by grind [hs.born]
  kept := by
    intro i session hsession hasked
    by_cases hi : i = h
    · exact Or.inr (Or.inl (by grind))
    · have hkept := hs.setTask_kept h .feed (by grind) (by grind) (by grind)
      exact hkept i session (by grind) hasked

theorem Plugin.Wf.feed {h : Nat} {session : Session} (hs : s.Wf) (htask : s.tasks h = .feed)
    (hsession : s.sessions h = some session) :
    ((s.setSession h ⟨session.launch, session.watcher.watched⟩).setTask h .storeSup).Wf := by
  obtain ⟨session', hsession', hasked, hpoint⟩ := hs.feeding h htask
  obtain rfl : session = session' := by grind
  have hsound := hs.sound h session hsession
  have hwatched : session.watcher.watched.Sound := by
    refine ⟨nofun, fun hanswered => ?_, nofun⟩
    have hover := hsound.answered hanswered
    simp [hpoint, Point.over] at hover
  have hasked' : session.watcher.watched.asked = false := hasked
  exact {
    sound := by grind [hs.sound]
    locked := by grind [hs.locked]
    emptied := hs.emptied
    taken := by grind [hs.taken]
    held := by grind [hs.held]
    feeding := by grind [hs.feeding]
    storing := by grind [hs.storing]
    born := by grind [hs.born]
    kept := by
      intro i session' hsession' hasked
      by_cases hi : i = h
      · exact Or.inr (Or.inr (Or.inl (by grind)))
      · rcases hs.kept i session' (by grind) hasked with hslot | hkeep | hkeep | ⟨k, hk⟩
        · exact Or.inl hslot
        · exact Or.inr (Or.inl (by grind))
        · exact Or.inr (Or.inr (Or.inl (by grind)))
        · exact Or.inr (Or.inr (Or.inr ⟨k, by grind⟩)) }

theorem Plugin.Wf.storeSup {h : Nat} (hs : Plugin.Wf { s with slot := none })
    (htask : s.tasks h = .storeSup) (hguard : s.slotGuard = none) :
    ({ s with slot := some h }.setTask h .finished).Wf where
  sound := hs.sound
  locked := by grind [hs.locked]
  emptied := by grind
  taken := by grind [hs.taken]
  held := by grind [hs.storing]
  feeding := by grind [hs.feeding]
  storing := by grind [hs.storing]
  born := by grind [hs.born]
  kept := by
    intro i session hsession hasked
    rcases hs.kept i session hsession hasked with hheld | hkeep | hkeep | ⟨k, hk⟩
    · grind
    · exact Or.inr (Or.inl (by grind))
    · by_cases hi : i = h
      · exact Or.inl (by grind)
      · exact Or.inr (Or.inr (Or.inl (by grind)))
    · exact Or.inr (Or.inr (Or.inr ⟨k, by grind⟩))

theorem Plugin.Wf.replace {old : Nat} (hs : s.Wf) (hslot : s.slot = some old) :
    Plugin.Wf { s.dropSup old with slot := none } := by
  obtain ⟨hfinished, session, hsession, _⟩ := hs.held old hslot
  have hguard : s.slotGuard = none := by
    by_contra hlocked
    simp [hs.emptied hlocked] at hslot
  simp only [Plugin.dropSup, hsession]
  have hempty : ({ s with slot := none } : Plugin).slot = none := rfl
  have hdropped : (session.dropSender.watcher).Sound := (hs.sound _ _ hsession).dropSender
  have hasked : session.dropSender.watcher.asked = true := by
    simp [Watcher.asked, Session.dropSender, Watcher.dropSender]
  exact {
    sound := by grind [hs.sound]
    locked := by grind [hs.locked]
    emptied := fun _ => rfl
    taken := by grind [hs.taken]
    held := by simp
    feeding := by grind [hs.feeding]
    storing := by grind [hs.storing]
    born := by grind [hs.born]
    kept := by
      intro i session' hsession' hunasked
      by_cases hi : i = old
      · grind
      · rcases hs.kept i session' (by grind) hunasked with hheld | hkeep
        · grind
        · exact Or.inr hkeep }

theorem Goal.next_bare (goal : Goal) : goal.next.bare = true := by
  cases goal <;> rfl

theorem Message.task_bare (message : Message) : message.task.bare = true := by
  cases message <;> rfl

theorem Plugin.Moves.wf (h : s.Moves label t out) (hs : s.Wf) : t.Wf := by
  cases h with
  | connect htask | disconnect htask | storeGatewayMissing htask | storeGateway htask
  | leave htask | enterStarting htask | spawnError htask | readGateway htask
  | ip4Config htask =>
    exact Plugin.Wf.proceed (hs.congr rfl rfl rfl rfl) (by simp [htask, Task.bare]) (Or.inl rfl)
  | askSecrets htask | settle htask | spawnFailed htask | readGatewayNone htask | resolve htask
  | ip4Started htask =>
    exact Plugin.Wf.proceed (hs.congr rfl rfl rfl rfl) (by simp [htask, Task.bare]) (Or.inr rfl)
  | send => exact hs.congr rfl rfl rfl rfl
  | @deliver h message htask =>
    exact Plugin.Wf.proceed (hs.congr rfl rfl rfl rfl) (by simp [htask, Task.bare])
      (Or.inl message.task_bare)
  | take htask hguard hslot => exact hs.take (by simp [htask, Task.bare]) hguard hslot
  | @takeNone h goal htask =>
    exact hs.proceed (by simp [htask, Task.bare]) (Or.inl goal.next_bare)
  | @stop h old goal session htask hsession =>
    have hold : (s.tasks h).old = some old := by simp [htask]
    have hslot := hs.slot_none hold
    have hsent := hs.setWatcher hsession (hs.sound _ _ hsession).buffered
      (Or.inr ⟨rfl, by simp [hslot], (hs.taken h old hold).1⟩) id
    exact hsent.goOn hold rfl
  | stopEnded htask | awaitStop htask | limit htask =>
    exact hs.goOn (by rw [htask, Task.old]) rfl
  | reset htask =>
    exact Plugin.Wf.release (hs.congr rfl rfl rfl rfl) (by simp [htask, Task.old]) rfl
  | release htask => exact hs.release (by simp [htask]) rfl
  | spawn htask => exact hs.spawn (by simp [htask, Task.bare])
  | feed htask hsession => exact hs.feed htask hsession
  | storeSup htask hguard hslot =>
    exact (hs.replace hslot).storeSup (by simpa using htask) (by simpa using hguard)
  | storeSupNone htask hguard hslot =>
    exact Plugin.Wf.storeSup (hs.congr hslot.symm rfl rfl rfl) htask hguard
  | @watch i act session watcher out hsession hmoves =>
    have hsound := hs.sound i session hsession
    refine hs.setWatcher hsession (hmoves.sound hsound) (Or.inl (hmoves.asked hsound.serving)) ?_
    exact hmoves.unwatched
  | @report i session report hsession hpoint =>
    have hsound := hs.sound i session hsession
    have hmoves := Watcher.report_moves hpoint
    exact Plugin.Wf.congr (hs.setWatcher hsession (hmoves.sound hsound) (Or.inl rfl)
      hmoves.unwatched) rfl rfl rfl rfl

theorem Plugin.start_wf (pppdPlugin ifname : String) : (Plugin.start pppdPlugin ifname).Wf where
  sound := by simp [Plugin.start]
  locked := by simp [Plugin.start, Task.old]
  emptied := fun _ => rfl
  taken := by simp [Plugin.start, Task.old]
  held := by simp [Plugin.start]
  feeding := by simp [Plugin.start]
  storing := by simp [Plugin.start]
  born := by simp [Plugin.start]
  kept := by simp [Plugin.start]

/-- Every state any run reaches is well formed. -/
theorem plugin_wf {allowed : List Event → Plugin → Label → Prop} {pppdPlugin ifname : String}
    {history : List Event} (run : Run Plugin.step allowed (.start pppdPlugin ifname) history s) :
    s.Wf :=
  run.state_invariant Plugin.Wf (Plugin.start_wf pppdPlugin ifname)
    (fun _ _ _ _ _ hs _ hstep => (Plugin.step_moves hstep).wf hs)

end Wf

end CrosswireNm.Service
