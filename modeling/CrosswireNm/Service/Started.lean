import CrosswireNm.Service.Held

/-!
# Connected means connected

`Started` is announced for a `SetIp4Config` call, which may belong to any session so far. The
state machine looks only at the state it is in, so a call that comes late is taken for the next
session's.
-/

namespace CrosswireNm.Service

open Library

def lastStarting (history : List Event) : Option Cause :=
  history.foldl (fun last event =>
    match event with
    | .signal cause (.stateChanged .starting) => some cause
    | _ => last) none

/-- Every `StateChanged(Started)` is caused by a `SetIp4Config` of the session whose `Connect`
caused the last `StateChanged(Starting)`. -/
def RightlyStarted (history : List Event) : Prop :=
  ∀ before cause after, history = before ++ .signal cause (.stateChanged .started) :: after →
    ∃ i, cause = .setIp4Config i ∧ lastStarting before = some (.connect i)

/-- Calls keep apart. No `SetIp4Config` of a session that has been torn down, or that its `stop()`
gave up on, is dispatched while the state machine is in `Starting`, and none is being handled when
a `Connect` takes it there. -/
def ipInTime (history : List Event) (s : Plugin) (label : Label) : Prop :=
  callsApart history s label ∧
    (∀ h i session, label = .deliver h (.setIp4Config i) → s.sessions i = some session →
      s.inner.state = .starting →
      session.watcher.point.over = false ∧ .stopReturned i false ∉ history) ∧
    ∀ h launch, label = .task h → s.tasks h = .enterStarting launch →
      legal s.inner.state .starting = true → ∀ k, (s.tasks k).ip4 = none

def Task.inHand : Task → Bool
  | .enterStarting _ => false
  | task => task.pastTake

/-- What ties the last `Starting` to the sessions and the calls. -/
structure Brought (history : List Event) (s : Plugin) : Prop where
  orderly : Orderly history s
  sent : ∀ message ∈ s.inflight, ∃ session, s.sessions message.session = some session
  up : s.Up → s.slot ≠ none ∨ ∃ k, (s.tasks k).inHand = true
  held : s.inner.state = .starting → ∀ i, s.Held i → lastStarting history = some (.connect i)
  launching : s.inner.state = .starting → ∀ i, (s.tasks i).launching = true →
    lastStarting history = some (.connect i)
  handled : s.inner.state = .starting → ∀ h i, (s.tasks h).ip4 = some i →
    lastStarting history = some (.connect i)

theorem lastStarting_silent {history out : List Event}
    (h : ∀ cause, .signal cause (.stateChanged .starting) ∉ out) :
    lastStarting (history ++ out) = lastStarting history := by
  induction out using List.reverseRecOn with
  | nil => rw [List.append_nil]
  | append_singleton out event ih =>
    have hinit := ih (fun cause hmem => h cause (List.mem_append_left _ hmem))
    rw [← List.append_assoc, lastStarting, List.foldl_append, List.foldl_cons, List.foldl_nil]
    split
    · rename_i cause
      exact absurd (List.mem_append_right _ List.mem_cons_self) (h cause)
    · exact hinit

theorem lastStarting_starting (history : List Event) (cause : Cause) :
    lastStarting (history ++ [.signal cause (.stateChanged .starting)]) = some cause := by
  simp [lastStarting]

private theorem Inner.call_starting {inner : Inner} {call : Call}
    (h : (inner.call call).1.state = .starting) :
    (inner.state = .starting ∧ (inner.call call).2 = []) ∨
      (call = .to .starting ∧ legal inner.state .starting = true ∧
        (inner.call call).2 = [.stateChanged .starting]) := by
  match call with
  | .to next =>
    rcases inner.to_cases next with ⟨hsame, _⟩ | ⟨hset, _, hlegal⟩
    · simp only [Inner.call, hsame] at h ⊢
      exact Or.inl ⟨h, trivial⟩
    · simp only [Inner.call, hset, Inner.set_state] at h ⊢
      subst h
      exact Or.inr ⟨rfl, hlegal, rfl⟩
  | .fail reason =>
    rcases inner.fail_cases reason with ⟨hsame, _⟩ | ⟨hstopped, _⟩
    · simp only [Inner.call, hsame] at h ⊢
      exact Or.inl ⟨h, trivial⟩
    · simp [Inner.call, hstopped] at h

private theorem Inner.call_up {inner : Inner} {call : Call}
    (h : (inner.call call).1.state = .starting ∨ (inner.call call).1.state = .started) :
    (inner.state = .starting ∨ inner.state = .started) ∨ call = .to .starting := by
  match call with
  | .to next =>
    rcases inner.to_cases next with ⟨hsame, _⟩ | ⟨hset, _, hlegal⟩
    · simp only [Inner.call, hsame] at h
      exact Or.inl h
    · simp only [Inner.call, hset, Inner.set_state] at h
      rcases h with rfl | rfl
      · exact Or.inr rfl
      · exact Or.inl (Or.inl (by simpa [legal] using hlegal))
  | .fail reason =>
    rcases inner.fail_cases reason with ⟨hsame, _⟩ | ⟨hstopped, _⟩
    · simp only [Inner.call, hsame] at h
      exact Or.inl h
    · simp [Inner.call, hstopped] at h

private theorem Inner.to_stopped_down (inner : Inner) :
    (inner.to .stopped).1.state ≠ .starting ∧ (inner.to .stopped).1.state ≠ .started := by
  obtain ⟨state, active⟩ := inner
  cases state <;> simp [Inner.to, legal]

private theorem Inner.fail_down (inner : Inner) (reason : Failure) :
    (inner.fail reason).1.state ≠ .starting ∧ (inner.fail reason).1.state ≠ .started := by
  obtain ⟨state, active⟩ := inner
  cases state <;> simp [Inner.fail, failsIn]

section Steps

variable {s t : Plugin} {label : Label} {out history : List Event} {cause : Cause} {k i : Nat}

private theorem Plugin.Moves.starting (history : List Event) (h : s.Moves label t out)
    (hstarting : t.inner.state = .starting) :
    (s.inner.state = .starting ∧ lastStarting (history ++ out) = lastStarting history) ∨
      ∃ k launch, label = .task k ∧ s.tasks k = .enterStarting launch ∧
        legal s.inner.state .starting = true ∧
        lastStarting (history ++ out) = some (.connect k) := by
  cases hcall : s.call label with
  | none =>
    obtain ⟨hinner, hsilent⟩ := h.uncalled hcall
    exact Or.inl ⟨hinner ▸ hstarting, lastStarting_silent (fun cause => hsilent cause _)⟩
  | some made =>
    obtain ⟨cause, call⟩ := made
    obtain ⟨hinner, hout⟩ := h.called hcall
    rw [hinner] at hstarting
    rcases Inner.call_starting hstarting with ⟨hbefore, hnone⟩ | ⟨rfl, hlegal, hone⟩
    · left
      rw [hout, hnone, List.map_nil, List.append_nil]
      exact ⟨hbefore, rfl⟩
    · right
      rw [hout, hone, List.map_singleton, lastStarting_starting]
      obtain ⟨k, launch, hlabel, htask, rfl⟩ := Plugin.call_starting hcall
      exact ⟨k, launch, hlabel, htask, hlegal, rfl⟩

private theorem Plugin.Moves.up (h : s.Moves label t out) (hup : t.Up) :
    s.Up ∨ ∃ k, (t.tasks k).inHand = true := by
  cases hcall : s.call label with
  | none =>
    left
    rwa [Plugin.Up, ← (h.uncalled hcall).1]
  | some made =>
    obtain ⟨cause, call⟩ := made
    rw [Plugin.Up, (h.called hcall).1] at hup
    rcases Inner.call_up hup with hbefore | rfl
    · exact Or.inl hbefore
    · right
      obtain ⟨k, launch, rfl, htask, rfl⟩ := Plugin.call_starting hcall
      refine ⟨k, ?_⟩
      cases h with
      | enterStarting => simp [Task.inHand, Task.pastTake, Task.launching]
      | _ => simp_all

private theorem Plugin.Moves.down {call : Call} (h : s.Moves label t out)
    (hcall : s.call label = some (cause, call))
    (hdown : call = .to .stopped ∨ call = .fail .connectFailed) : ¬ t.Up := by
  rw [Plugin.Up, (h.called hcall).1]
  rcases hdown with rfl | rfl
  · have hstopped := s.inner.to_stopped_down
    simpa [Inner.call] using hstopped
  · have hfailed := s.inner.fail_down .connectFailed
    simpa [Inner.call] using hfailed

private theorem Plugin.Moves.inHand (h : s.Moves label t out) (hk : (s.tasks k).inHand = true) :
    (t.tasks k).inHand = true ∨ t.slot ≠ none ∨ ¬ t.Up := by
  rcases h.task k with hsame | hnext
  · exact Or.inl (hsame ▸ hk)
  generalize htask : s.tasks k = task at hnext hk
  generalize t.tasks k = next at hnext ⊢
  cases hnext with
  | stop | stopEnded | awaitStop | limit | spawn | spawnError | feed => exact Or.inl rfl
  | @release goal old =>
    cases goal with
    | down => exact Or.inl rfl
    | reconnect launch =>
      have hcall : s.call (.task k) = some (.connect k, .to .stopped) := by
        simp [Plugin.call, htask]
      exact Or.inr (Or.inr (h.down hcall (Or.inl rfl)))
  | settle =>
    have hcall : s.call (.task k) = some (.disconnect k, .to .stopped) := by
      simp [Plugin.call, htask]
    exact Or.inr (Or.inr (h.down hcall (Or.inl rfl)))
  | spawnFailed =>
    have hcall : s.call (.task k) = some (.connect k, .fail .connectFailed) := by
      simp [Plugin.call, htask]
    exact Or.inr (Or.inr (h.down hcall (Or.inr rfl)))
  | storeSup =>
    refine Or.inr (Or.inl ?_)
    cases h with
    | storeSup | storeSupNone => simp
    | _ => simp_all
  | _ => cases hk

private theorem Plugin.Moves.held_before (h : s.Moves label t out) (hheld : t.Held i) :
    s.Held i ∨ (s.tasks i).launching = true := by
  rcases hheld with hslot | ⟨k, hk⟩
  · rcases h.slot with hsame | ⟨hnone, _⟩ | ⟨k, hstore, hfilled, _⟩
    · exact Or.inl (Or.inl (hsame ▸ hslot))
    · simp [hnone] at hslot
    · obtain rfl : k = i := Option.some.inj (hfilled.symm.trans hslot)
      exact Or.inr (by rw [hstore]; rfl)
  · rcases h.task k with hsame | hnext
    · exact Or.inl (Or.inr ⟨k, hsame ▸ hk⟩)
    generalize htask : s.tasks k = task at hnext
    generalize hafter : t.tasks k = next at hnext hk
    cases hnext with
    | @take goal old =>
      obtain rfl : old = i := Option.some.inj hk
      cases h with
      | take _ _ hslot => simp_all [Plugin.Held]
      | @takeNone _ goal' => cases goal' <;> simp_all [Goal.next]
      | _ => simp_all
    | @stop goal old =>
      obtain rfl : old = i := Option.some.inj hk
      exact Or.inl (Or.inr ⟨k, by rw [htask]; rfl⟩)
    | spawn | feed =>
      obtain rfl : k = i := Option.some.inj hk
      exact Or.inr (by rw [htask]; rfl)
    | @deliver message => cases message <;> cases hk
    | @takeNone goal | @release goal => cases goal <;> cases hk
    | _ => cases hk

private theorem Plugin.Moves.sent (h : s.Moves label t out) (hwf : s.Wf)
    (hs : ∀ message ∈ s.inflight, ∃ session, s.sessions message.session = some session) :
    ∀ message ∈ t.inflight, ∃ session, t.sessions message.session = some session := by
  intro message hmem
  obtain ⟨session, hsession⟩ : ∃ session, s.sessions message.session = some session := by
    cases h with
    | @send message' hsome =>
      rcases List.mem_cons.mp hmem with rfl | hmem
      · exact Option.isSome_iff_exists.mp hsome
      · exact hs message hmem
    | deliver => exact hs message (List.mem_of_mem_erase hmem)
    | _ => exact hs message (by simpa using hmem)
  obtain ⟨after, hafter, _⟩ := h.session hwf hsession
  exact ⟨after, hafter⟩

private theorem Brought.entering {launch : Launch} (hs : Brought history s)
    (hapart : callsApart history s (.task k)) (htask : s.tasks k = .enterStarting launch) :
    ¬ s.Up ∧ (∀ i, ¬ s.Held i) ∧ ∀ i, (s.tasks i).launching = false := by
  have hothers := (hapart k rfl).2 launch htask
  have hslot := hs.orderly.emptied k (by rw [htask]; rfl)
  refine ⟨fun hup => ?_, ?_, fun i => ?_⟩
  · rcases hs.up hup with hfull | ⟨j, hj⟩
    · exact hfull hslot
    · have hne : j ≠ k := by
        rintro rfl
        simp [htask, Task.inHand] at hj
      have hpast := hothers j hne
      cases htask' : s.tasks j <;> simp_all [Task.inHand]
  · rintro i (hi | ⟨h, hh⟩)
    · simp [hslot] at hi
    · by_cases hself : h = k
      · subst hself
        simp [htask, Task.holds] at hh
      · simpa [hothers h hself] using Task.pastTake_of_holds hh
  · by_cases hself : i = k
    · subst hself
      rw [htask]
      rfl
    · by_contra hlaunching
      have hpast := Task.pastTake_of_launching (by simpa using hlaunching)
      simp [hothers i hself] at hpast

theorem Plugin.Moves.brought (h : s.Moves label t out) (hs : Brought history s)
    (hallowed : ipInTime history s label) : Brought (history ++ out) t where
  orderly := h.orderly hs.orderly hallowed.1
  sent := h.sent hs.orderly.wf hs.sent
  up := by
    intro hup
    rcases h.up hup with hbefore | hcall
    · rcases hs.up hbefore with hfull | ⟨k, hk⟩
      · rcases h.slot with hsame | ⟨_, k, goal, old, htask, _⟩ | ⟨_, _, hfilled, _⟩
        · exact Or.inl (hsame ▸ hfull)
        · exact Or.inr ⟨k, by rw [htask]; rfl⟩
        · exact Or.inl (by simp [hfilled])
      · rcases h.inHand hk with hinHand | hfull | hdown
        · exact Or.inr ⟨k, hinHand⟩
        · exact Or.inl hfull
        · exact absurd hup hdown
    · exact Or.inr hcall
  held := by
    intro hstarting i hheld
    rcases h.starting history hstarting with ⟨hbefore, hlast⟩ | ⟨k, launch, rfl, htask, _, hlast⟩
    · rw [hlast]
      rcases h.held_before hheld with hheld | hlaunching
      · exact hs.held hbefore i hheld
      · exact hs.launching hbefore i hlaunching
    · obtain ⟨_, hnone, hidle⟩ := hs.entering hallowed.1 htask
      rcases h.held_before hheld with hheld | hlaunching
      · exact absurd hheld (hnone i)
      · simp [hidle i] at hlaunching
  launching := by
    intro hstarting i hlaunching
    have hbefore' : (s.tasks i).launching = true ∨
        (label = .task i ∧ ∃ launch, s.tasks i = .enterStarting launch) := by
      rcases h.task i with hsame | hnext
      · exact Or.inl (hsame ▸ hlaunching)
      · exact hnext.launching hlaunching
    rcases h.starting history hstarting with ⟨hbefore, hlast⟩ | ⟨k, launch, rfl, htask, _, hlast⟩
    · rw [hlast]
      rcases hbefore' with hbefore' | ⟨rfl, launch, htask⟩
      · exact hs.launching hbefore i hbefore'
      · exact absurd (Or.inl hbefore) (hs.entering hallowed.1 htask).1
    · rcases hbefore' with hbefore' | ⟨hlabel, _⟩
      · simp [(hs.entering hallowed.1 htask).2.2 i] at hbefore'
      · rw [hlast, Label.task.inj hlabel]
  handled := by
    intro hstarting k i hip4
    have hbefore' : (s.tasks k).ip4 = some i ∨ label = .deliver k (.setIp4Config i) := by
      rcases h.task k with hsame | hnext
      · exact Or.inl (hsame ▸ hip4)
      · exact hnext.ip4 hip4
    rcases h.starting history hstarting with
      ⟨hbefore, hlast⟩ | ⟨j, launch, rfl, htask, hlegal, _⟩
    · rw [hlast]
      rcases hbefore' with hbefore' | rfl
      · exact hs.handled hbefore k i hbefore'
      · cases h with
        | deliver _ hmem =>
          obtain ⟨session, hsession⟩ := hs.sent _ hmem
          obtain ⟨hover, htimely⟩ := hallowed.2.1 k i session rfl hsession hbefore
          rcases hs.orderly.accounted i session hsession with hover' | hheld | hgaveUp
          · simp [hover] at hover'
          · exact hs.held hbefore i hheld
          · exact absurd hgaveUp htimely
    · rcases hbefore' with hbefore' | hlabel
      · simp [hallowed.2.2 j launch rfl htask hlegal k] at hbefore'
      · cases hlabel

end Steps

theorem plugin_brought {pppdPlugin ifname : String} {history : List Event} {s : Plugin}
    (run : Run Plugin.step ipInTime (.start pppdPlugin ifname) history s) : Brought history s := by
  refine run.invariant Brought ?_ ?_
  · refine ⟨Plugin.start_orderly pppdPlugin ifname, ?_, ?_, ?_, ?_, ?_⟩ <;>
      simp [Plugin.start, Plugin.Up, Inner.new]
  · intro history s label t out hs hallowed hstep
    exact (Plugin.step_moves hstep).brought hs hallowed

/-- `Started` is announced for the right session only, in every run whose calls keep apart and in
which no `SetIp4Config` outlives its session into the next `Starting`. -/
theorem rightly_started {pppdPlugin ifname : String} {history : List Event} {s : Plugin}
    (run : Run Plugin.step ipInTime (.start pppdPlugin ifname) history s) :
    RightlyStarted history := by
  intro before cause after hsplit
  obtain ⟨past, u, label, v, pre, post, hpast, _, hstep, rfl⟩ := run.emitted hsplit
  obtain ⟨rfl, _, hcall, hlegal⟩ := (Plugin.step_moves hstep).announces (by decide)
  obtain ⟨k, i, rfl, htask, rfl⟩ := Plugin.call_started hcall
  rw [List.append_nil]
  exact ⟨i, rfl, (plugin_brought hpast).handled (by simpa [legal] using hlegal) k i
    (by rw [htask]; rfl)⟩

def inTimeBelow (n : Nat) (history : List Event) (s : Plugin) (label : Label) : Bool :=
  apartBelow n history s label && timelySoFar history &&
    match label with
    | .deliver _ (.setIp4Config i) =>
      s.inner.state != .starting ||
        (s.sessions i).all (fun session => !session.watcher.point.over)
    | .task h =>
      match s.tasks h with
      | .enterStarting _ => (List.range n).all (fun k => (s.tasks k).ip4.isNone)
      | _ => true
    | _ => true

private theorem inTimeBelow_run {n : Nat} {pppdPlugin ifname : String} {labels : List Label}
    {history : List Event} {s : Plugin}
    (hexec : exec Plugin.step (inTimeBelow n) [] (.start pppdPlugin ifname) labels =
      some (history, s)) :
    Run Plugin.step ipInTime (.start pppdPlugin ifname) history s := by
  have hbelow : ∀ {history s label}, inTimeBelow n history s label = true →
      apartBelow n history s label = true := fun hok =>
    (Bool.and_eq_true_iff.mp (Bool.and_eq_true_iff.mp hok).1).1
  have run := apartBelow_run n (fun history s label => inTimeBelow n history s label = true)
    (exec_run (fun _ _ _ hok => ⟨hbelow hok, hok⟩) .refl hexec)
  clear hexec
  induction run with
  | refl => exact .refl
  | @tail history s t label out run hallowed hstep ih =>
    obtain ⟨hapart, hok⟩ := hallowed
    have hfresh := fresh_beyond n run (fun _ _ _ h => (Bool.and_eq_true_iff.mp (hbelow h.2)).1)
    obtain ⟨hboth, hlabel⟩ := Bool.and_eq_true_iff.mp hok
    obtain ⟨-, htimely⟩ := Bool.and_eq_true_iff.mp hboth
    refine ih.tail ⟨hapart, ?_, ?_⟩ hstep
    · rintro h i session rfl hsession hstarting
      refine ⟨?_, timelySoFar_spec htimely i⟩
      simpa [hstarting, hsession] using hlabel
    · rintro h launch rfl htask - k
      by_cases hk : n ≤ k
      · rw [hfresh k hk]
        rfl
      · simp only [htask] at hlabel
        simpa using List.all_eq_true.mp hlabel k (List.mem_range.mpr (by omega))

def reconnectIp4Config : List Label :=
  connectLabels 0 (samlConnection "vpn.example") ++
    [.send (.setIp4Config 0), .deliver 1 (.setIp4Config 0), .task 1, .task 1,
      .send (.setIp4Config 0)] ++
    disconnectLabels 2 0 ++ [.deliver 3 (.setIp4Config 0), .task 3, .task 3] ++
    connectLabels 4 (samlConnection "vpn.example") ++
    [.send (.setIp4Config 4), .deliver 5 (.setIp4Config 4), .task 5, .task 5]

theorem rightly_started_reconnect :
    ∃ history s, Run Plugin.step ipInTime (.start "plugin.so" "ppp0") history s ∧
      history = [.signal (.connect 0) (.stateChanged .starting), .ip4Config 0,
        .signal (.setIp4Config 0) (.stateChanged .started),
        .signal (.disconnect 2) (.stateChanged .stopping), .stopReturned 0 true,
        .signal (.disconnect 2) (.stateChanged .stopped), .ip4Config 0,
        .signal (.connect 4) (.stateChanged .starting), .ip4Config 4,
        .signal (.setIp4Config 4) (.stateChanged .started)] ∧
      RightlyStarted history := by
  obtain ⟨history, s, hexec, hhistory⟩ : ∃ history s,
      exec Plugin.step (inTimeBelow 6) [] (.start "plugin.so" "ppp0") reconnectIp4Config =
        some (history, s) ∧
      history = [.signal (.connect 0) (.stateChanged .starting), .ip4Config 0,
        .signal (.setIp4Config 0) (.stateChanged .started),
        .signal (.disconnect 2) (.stateChanged .stopping), .stopReturned 0 true,
        .signal (.disconnect 2) (.stateChanged .stopped), .ip4Config 0,
        .signal (.connect 4) (.stateChanged .starting), .ip4Config 4,
        .signal (.setIp4Config 4) (.stateChanged .started)] := ⟨_, _, rfl, rfl⟩
  have run := inTimeBelow_run hexec
  exact ⟨history, s, run, hhistory, rightly_started run⟩

/-- The first session's `SetIp4Config` waits on the bus while it is torn down and a second
session is launched. -/
def lateIp4Config : List Label :=
  connectLabels 0 (samlConnection "vpn.example") ++ [.send (.setIp4Config 0)] ++
    disconnectLabels 1 0 ++ connectLabels 2 (samlConnection "vpn.example") ++
    [.deliver 3 (.setIp4Config 0), .task 3, .task 3]

theorem lateIp4Config_not_right :
    ∃ history s, Run Plugin.step anyLabel (.start "plugin.so" "ppp0") history s ∧
      ¬ RightlyStarted history := by
  obtain ⟨history, s, hexec, hhistory⟩ : ∃ history s,
      exec Plugin.step (fun _ _ _ => true) [] (.start "plugin.so" "ppp0") lateIp4Config =
        some (history, s) ∧
      history = [.signal (.connect 0) (.stateChanged .starting),
        .signal (.disconnect 1) (.stateChanged .stopping), .stopReturned 0 true,
        .signal (.disconnect 1) (.stateChanged .stopped),
        .signal (.connect 2) (.stateChanged .starting), .ip4Config 0] ++
        [.signal (.setIp4Config 0) (.stateChanged .started)] := ⟨_, _, rfl, rfl⟩
  refine ⟨history, s, exec_run (fun _ _ _ _ => trivial) .refl hexec, fun hright => ?_⟩
  obtain ⟨i, hcause, hlast⟩ := hright _ _ [] hhistory
  cases hcause
  cases hlast

end CrosswireNm.Service
