import CrosswireNm.Service.PluginRuns

/-!
# Who has which session

The slot, or a call: while calls keep apart in taking the slot and launching, no session with a
crosswire is forgotten unless its `stop()` gives up on it.
-/

namespace CrosswireNm.Service

open Library

/-- The session call `h` has in hand: the one it launched and has not stored, or the one whose
watcher it is stopping. -/
def Task.holds (h : Nat) : Task → Option Nat
  | .feed | .storeSup => some h
  | .stop _ old | .awaitStop _ old => some old
  | _ => none

def Plugin.Held (s : Plugin) (i : Nat) : Prop :=
  s.slot = some i ∨ ∃ h, (s.tasks h).holds h = some i

def Plugin.Up (s : Plugin) : Prop := s.inner.state = .starting ∨ s.inner.state = .started

/-- A `Connect` between its request for `Starting` and the end of its launch. -/
def Task.launching : Task → Bool
  | .spawn _ | .feed | .storeSup | .spawnFailed => true
  | _ => false

/-- A call between taking the slot and its end. -/
def Task.pastTake : Task → Bool
  | .stop _ _ | .awaitStop _ _ | .release _ _ | .settle | .enterStarting _ => true
  | task => task.launching

/-- No call takes the slot while a `Connect` is launching, and no `Connect` asks for `Starting`
while another call is past taking the slot. -/
def callsApart (_ : List Event) (s : Plugin) (label : Label) : Prop :=
  ∀ h, label = .task h →
    (∀ goal, s.tasks h = .take goal → ∀ k, (s.tasks k).launching = false) ∧
    ∀ launch, s.tasks h = .enterStarting launch → ∀ k, k ≠ h → (s.tasks k).pastTake = false

theorem Task.driving_of_holds {task : Task} {h i : Nat} (hholds : task.holds h = some i) :
    task.driving = true := by
  cases task <;> first | rfl | cases hholds

theorem Task.pastTake_of_holds {task : Task} {h i : Nat} (hholds : task.holds h = some i) :
    task.pastTake = true := by
  cases task <;> first | rfl | cases hholds

theorem Task.pastTake_of_launching {task : Task} (h : task.launching = true) :
    task.pastTake = true := by
  cases task <;> first | rfl | cases h

theorem Task.driving_of_pastTake {task : Task} (h : task.pastTake = true) :
    task.driving = true := by
  cases task <;> first | rfl | cases h

theorem Task.Next.launching {k : Nat} {label : Label} {task next : Task}
    (h : Task.Next k label task next) (hnext : next.launching = true) :
    task.launching = true ∨ (label = .task k ∧ ∃ launch, task = .enterStarting launch) := by
  cases h with
  | enterStarting => exact Or.inr ⟨rfl, _, rfl⟩
  | @deliver message => cases message <;> cases hnext
  | @takeNone goal | @release goal => cases goal <;> cases hnext
  | spawn | spawnError | feed => exact Or.inl rfl
  | _ => cases hnext

theorem Task.Next.pastTake {k : Nat} {label : Label} {task next : Task}
    (h : Task.Next k label task next) (hnext : next.pastTake = true) :
    task.pastTake = true ∨ (label = .task k ∧ ∃ goal, task = .take goal) := by
  cases h with
  | take | takeNone => exact Or.inr ⟨rfl, _, rfl⟩
  | @deliver message => cases message <;> cases hnext
  | connect | disconnect | storeGatewayMissing | storeGateway | askSecrets | leave | settle
  | storeSup | spawnFailed | readGateway | readGatewayNone | resolve | ip4Config | ip4Started =>
    cases hnext
  | _ => exact Or.inl rfl

section Steps

variable {s t : Plugin} {label : Label} {out history : List Event} {i : Nat}

/-- The slot is emptied by a call that goes on to stop what was there, and filled only by a
`Connect` that ends with it. -/
theorem Plugin.Moves.slot (h : s.Moves label t out) :
    t.slot = s.slot ∨
      (t.slot = none ∧ ∃ k goal old, t.tasks k = .stop goal old ∧ s.slot = some old) ∨
      ∃ k, s.tasks k = .storeSup ∧ t.slot = some k ∧
        ∀ j, t.tasks j = if j = k then .finished else s.tasks j := by
  cases h with
  | @take k old goal htask hguard hslot =>
    exact Or.inr (Or.inl ⟨rfl, k, goal, old, by simp, hslot⟩)
  | storeSup htask | storeSupNone htask => exact Or.inr (Or.inr ⟨_, htask, rfl, fun _ => by simp⟩)
  | _ => exact Or.inl (by simp)

private theorem Plugin.Moves.slot_taken {h : Nat} {goal : Goal} (hmoves : s.Moves (.task h) t out)
    (htask : s.tasks h = .take goal) : t.slot = none ∨ t.tasks h = .take goal := by
  cases hmoves with
  | take => exact Or.inl rfl
  | takeNone _ _ hslot => exact Or.inl hslot
  | _ => simp_all

theorem Plugin.Held.setTask {h : Nat} {task : Task} (hheld : s.Held i)
    (hkeep : (s.tasks h).holds h = some i → task.holds h = some i) : (s.setTask h task).Held i := by
  rcases hheld with hslot | ⟨k, hk⟩
  · exact Or.inl hslot
  · refine Or.inr ⟨k, ?_⟩
    rw [Plugin.setTask_tasks]
    split
    · rename_i hself
      subst hself
      exact hkeep hk
    · exact hk

theorem Plugin.Held.congr (hheld : s.Held i) (hslot : t.slot = s.slot)
    (htasks : ∀ k, t.tasks k = s.tasks k) : t.Held i := by
  rcases hheld with hheld | ⟨k, hk⟩
  · exact Or.inl (hslot ▸ hheld)
  · exact Or.inr ⟨k, by rwa [htasks]⟩

/-- A session stays held until its watcher is over, unless a `stop()` gives up on it. -/
theorem Plugin.Moves.held (h : s.Moves label t out) (hwf : s.Wf)
    (hempty : ∀ h, s.tasks h = .storeSup → s.slot = none) (hheld : s.Held i) :
    t.Held i ∨ (∃ session, s.sessions i = some session ∧ session.watcher.point.over = true) ∨
      .stopReturned i false ∈ out := by
  cases h with
  | send | watch | report => exact Or.inl (hheld.congr rfl (fun _ => rfl))
  | @limit h old goal htask =>
    by_cases hi : old = i
    · subst hi
      exact Or.inr (Or.inr List.mem_cons_self)
    · exact Or.inl (hheld.setTask (by simp [htask, Task.holds, hi]))
  | @take h old goal htask hguard hslot =>
    left
    rcases hheld with hheld | hheld
    · refine Or.inr ⟨h, ?_⟩
      obtain rfl : old = i := Option.some.inj (hslot.symm.trans hheld)
      simp [Task.holds]
    · have htaken : Plugin.Held { s with slot := none, slotGuard := some h } i := Or.inr hheld
      exact htaken.setTask (by simp [htask, Task.holds])
  | stop htask | feed htask =>
    left
    refine Plugin.Held.setTask (hheld.congr rfl (fun _ => rfl)) (fun hold => ?_)
    simpa [htask, Task.holds] using hold
  | @stopEnded h old goal session htask hsession hended =>
    by_cases hi : old = i
    · subst hi
      exact Or.inr (Or.inl ⟨session, hsession, by simp [hended, Point.over]⟩)
    · exact Or.inl (hheld.setTask (by simp [htask, Task.holds, hi]))
  | @awaitStop h old goal session htask hsession hanswered =>
    by_cases hi : old = i
    · subst hi
      exact Or.inr (Or.inl ⟨session, hsession, (hwf.sound _ _ hsession).answered hanswered⟩)
    · exact Or.inl (hheld.setTask (by simp [htask, Task.holds, hi]))
  | storeSup htask _ hslot => simp [hempty _ htask] at hslot
  | @storeSupNone h htask hguard hslot =>
    left
    rcases hheld with hheld | ⟨k, hk⟩
    · simp [hslot] at hheld
    · by_cases hself : k = h
      · subst hself
        exact Or.inl (by simpa [htask, Task.holds] using hk)
      · exact Or.inr ⟨k, by simpa [hself] using hk⟩
  | connect htask | disconnect htask | deliver htask | storeGatewayMissing htask
  | storeGateway htask | askSecrets htask | leave htask | takeNone htask | reset htask
  | release htask | settle htask | enterStarting htask | spawn htask | spawnError htask
  | spawnFailed htask | readGateway htask | readGatewayNone htask | resolve htask
  | ip4Config htask | ip4Started htask =>
    left
    refine Plugin.Held.setTask (hheld.congr (by simp) (by simp)) ?_
    simp [htask, Task.holds]

theorem Plugin.Moves.timely (h : s.Moves label t out) (hlimit : ∀ h, label ≠ .limit h) (i : Nat) :
    .stopReturned i false ∉ out := by
  cases h with
  | limit => exact absurd rfl (hlimit _)
  | leave | settle | enterStarting | spawnFailed | ip4Started | reset | report =>
    intro hmem
    obtain ⟨_, _, hevent⟩ := List.mem_map.mp hmem
    cases hevent
  | _ => simp

/-- Every session is over or held, or its `stop()` has given up on it. -/
def Plugin.Accounted (history : List Event) (s : Plugin) : Prop :=
  ∀ i session, s.sessions i = some session →
    session.watcher.point.over = true ∨ s.Held i ∨ .stopReturned i false ∈ history

theorem Plugin.Moves.accounted (h : s.Moves label t out) (hwf : s.Wf)
    (hempty : ∀ h, s.tasks h = .storeSup → s.slot = none) (hs : s.Accounted history) :
    t.Accounted (history ++ out) := by
  intro i after hafter
  cases hsession : s.sessions i with
  | none =>
    obtain ⟨launch, rfl, htask, rfl⟩ := h.session_new hafter hsession
    cases h with
    | spawn => exact Or.inr (Or.inl (Or.inr ⟨i, by simp [Task.holds]⟩))
    | _ => simp_all
  | some session =>
    obtain ⟨after', hafter', _, hnext⟩ := h.session hwf hsession
    obtain rfl : after' = after := Option.some.inj (hafter'.symm.trans hafter)
    rcases hs i session hsession with hover | hheld | hgaveUp
    · exact Or.inl (hnext.over hover)
    · rcases h.held hwf hempty hheld with hheld | ⟨session', hsession', hover⟩ | hgaveUp
      · exact Or.inr (Or.inl hheld)
      · obtain rfl : session = session' := Option.some.inj (hsession.symm.trans hsession')
        exact Or.inl (hnext.over hover)
      · exact Or.inr (Or.inr (List.mem_append_right history hgaveUp))
    · exact Or.inr (Or.inr (List.mem_append_left out hgaveUp))

/-- What every run whose calls keep apart keeps. -/
structure Orderly (history : List Event) (s : Plugin) : Prop where
  wf : s.Wf
  apart : ∀ h k, (s.tasks h).launching = true → (s.tasks k).pastTake = true → h = k
  emptied : ∀ h, (s.tasks h).pastTake = true → s.slot = none
  accounted : s.Accounted history

theorem Orderly.storeSup_empty (hs : Orderly history s) (h : Nat) (htask : s.tasks h = .storeSup) :
    s.slot = none :=
  hs.emptied h (by rw [htask]; rfl)

theorem Orderly.held_unique {j : Nat} (hs : Orderly history s) (hi : s.Held i) (hj : s.Held j) :
    i = j := by
  have hcalls : ∀ {h k i j}, (s.tasks h).holds h = some i → (s.tasks k).holds k = some j →
      h = k := by
    intro h k i j hi hj
    have hpast := Task.pastTake_of_holds hi
    have hpast' := Task.pastTake_of_holds hj
    cases hh : s.tasks h with
    | feed | storeSup => exact hs.apart h k (by rw [hh]; rfl) hpast'
    | stop | awaitStop =>
      cases hk : s.tasks k with
      | feed | storeSup => exact (hs.apart k h (by rw [hk]; rfl) hpast).symm
      | stop | awaitStop =>
        -- both have the slot locked
        have hlocked := (hs.wf.locked h).mp (by rw [hh]; rfl)
        have hlocked' := (hs.wf.locked k).mp (by rw [hk]; rfl)
        exact Option.some.inj (hlocked.symm.trans hlocked')
      | _ => simp [hk, Task.holds] at hj
    | _ => simp [hh, Task.holds] at hi
  rcases hi with hi | ⟨h, hi⟩ <;> rcases hj with hj | ⟨k, hj⟩
  · exact Option.some.inj (hi.symm.trans hj)
  · simp [hs.emptied k (Task.pastTake_of_holds hj)] at hi
  · simp [hs.emptied h (Task.pastTake_of_holds hi)] at hj
  · obtain rfl := hcalls hi hj
    exact Option.some.inj (hi.symm.trans hj)

theorem Plugin.Moves.orderly (h : s.Moves label t out) (hs : Orderly history s)
    (hapart : callsApart history s label) : Orderly (history ++ out) t where
  wf := h.wf hs.wf
  apart := by
    intro j k hj hk
    have hbefore : (s.tasks k).pastTake = true ∨
        (label = .task k ∧ ∃ goal, s.tasks k = .take goal) := by
      rcases h.task k with hsame | hnext
      · exact Or.inl (hsame ▸ hk)
      · exact hnext.pastTake hk
    have hlaunch : (s.tasks j).launching = true ∨
        (label = .task j ∧ ∃ launch, s.tasks j = .enterStarting launch) := by
      rcases h.task j with hsame | hnext
      · exact Or.inl (hsame ▸ hj)
      · exact hnext.launching hj
    by_contra hne
    rcases hlaunch with hlaunch | ⟨rfl, launch, htask⟩
    · rcases hbefore with hbefore | ⟨rfl, goal, htask⟩
      · exact hne (hs.apart j k hlaunch hbefore)
      · simp [(hapart k rfl).1 goal htask j] at hlaunch
    · rcases hbefore with hbefore | ⟨hlabel, _⟩
      · simp [(hapart j rfl).2 launch htask k (Ne.symm hne)] at hbefore
      · exact hne (Label.task.inj hlabel)
  emptied := by
    intro k hk
    have hbefore : s.slot = none ∨ t.slot = none := by
      rcases h.task k with hsame | hnext
      · exact Or.inl (hs.emptied k (hsame ▸ hk))
      · rcases hnext.pastTake hk with hpast | ⟨rfl, goal, htask⟩
        · exact Or.inl (hs.emptied k hpast)
        · right
          rcases h.slot_taken htask with hslot | hsame
          · exact hslot
          · simp [hsame, Task.pastTake, Task.launching] at hk
    rcases hbefore with hbefore | hafter
    · rcases h.slot with hsame | ⟨hnone, _⟩ | ⟨j, hstore, _, htasks⟩
      · rw [hsame, hbefore]
      · exact hnone
      · -- the `Connect` that fills the slot is the only one past taking it, and ends with it
        rw [htasks] at hk
        split at hk
        · cases hk
        · exact absurd (hs.apart j k (by rw [hstore]; rfl) hk).symm ‹_›
    · exact hafter
  accounted := h.accounted hs.wf hs.storeSup_empty hs.accounted

end Steps

theorem Plugin.start_orderly (pppdPlugin ifname : String) :
    Orderly [] (.start pppdPlugin ifname) where
  wf := Plugin.start_wf pppdPlugin ifname
  apart := by simp [Plugin.start, Task.launching]
  emptied := fun _ _ => rfl
  accounted := by simp [Plugin.Accounted, Plugin.start]

/-- Every run whose calls keep apart forgets no session that may have a crosswire, unless a `stop()`
gives up on it. -/
theorem plugin_orderly {pppdPlugin ifname : String} {history : List Event} {s : Plugin}
    (run : Run Plugin.step callsApart (.start pppdPlugin ifname) history s) : Orderly history s :=
  run.invariant Orderly (Plugin.start_orderly pppdPlugin ifname)
    (fun _ _ _ _ _ hs hapart hstep => (Plugin.step_moves hstep).orderly hs hapart)

/-- Calls handled one after the other keep apart. -/
theorem Plugin.One.callsApart {s : Plugin} {history : List Event} {label : Label} (hs : s.One) :
    callsApart history s label := by
  rintro h rfl
  refine ⟨fun goal htask k => ?_, fun launch htask k hne => ?_⟩
  · by_contra hlaunching
    have hdriving :=
      Task.driving_of_pastTake (Task.pastTake_of_launching (by simpa using hlaunching))
    obtain rfl := hs h k (by rw [htask]; rfl) hdriving
    simp [htask, Task.launching] at hlaunching
  · by_contra hpast
    exact hne (hs k h (Task.driving_of_pastTake (by simpa using hpast)) (by rw [htask]; rfl))

theorem timely_history {allowed : List Event → Plugin → Label → Prop} {pppdPlugin ifname : String}
    {history : List Event} {s : Plugin}
    (run : Run Plugin.step allowed (.start pppdPlugin ifname) history s)
    (hlimit : ∀ history s label, allowed history s label → ∀ h, label ≠ .limit h) (i : Nat) :
    .stopReturned i false ∉ history := by
  refine run.invariant (fun history _ => .stopReturned i false ∉ history) (by simp) ?_
  intro history s label t out hnone hallowed hstep hmem
  rcases List.mem_append.mp hmem with hmem | hmem
  · exact hnone hmem
  · exact (Plugin.step_moves hstep).timely (hlimit _ _ _ hallowed) i hmem

def apartBelow (n : Nat) (_ : List Event) (s : Plugin) (label : Label) : Bool :=
  (label.begins.all (· < n)) &&
    match label with
    | .task h =>
      match s.tasks h with
      | .take _ => (List.range n).all (fun k => !(s.tasks k).launching)
      | .enterStarting _ => (List.range n).all (fun k => k == h || !(s.tasks k).pastTake)
      | _ => true
    | _ => true

theorem apartBelow_run (n : Nat) (more : List Event → Plugin → Label → Prop)
    {pppdPlugin ifname : String} {history : List Event} {s : Plugin}
    (run : Run Plugin.step
      (fun history s label => apartBelow n history s label = true ∧ more history s label)
      (.start pppdPlugin ifname) history s) :
    Run Plugin.step (fun history s label => callsApart history s label ∧ more history s label)
      (.start pppdPlugin ifname) history s := by
  induction run with
  | refl => exact .refl
  | @tail history s t label out run hallowed hstep ih =>
    have hfresh := fresh_beyond n run (fun _ _ _ h => (Bool.and_eq_true_iff.mp h.1).1)
    obtain ⟨-, hpoint⟩ := Bool.and_eq_true_iff.mp hallowed.1
    refine ih.tail ⟨?_, hallowed.2⟩ hstep
    rintro h rfl
    refine ⟨fun goal htask k => ?_, fun launch htask k hne => ?_⟩
    · by_cases hk : n ≤ k
      · rw [hfresh k hk]
        rfl
      · simp only [htask] at hpoint
        simpa using List.all_eq_true.mp hpoint k (List.mem_range.mpr (by omega))
    · by_cases hk : n ≤ k
      · rw [hfresh k hk]
        rfl
      · simp only [htask] at hpoint
        simpa [hne] using List.all_eq_true.mp hpoint k (List.mem_range.mpr (by omega))

def timelySoFar (history : List Event) : Bool :=
  history.all fun
    | .stopReturned _ timely => timely
    | _ => true

theorem timelySoFar_spec {history : List Event} (h : timelySoFar history = true) (i : Nat) :
    .stopReturned i false ∉ history := by
  intro hmem
  cases List.all_eq_true.mp h _ hmem

end CrosswireNm.Service
