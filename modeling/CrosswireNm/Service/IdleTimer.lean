import CrosswireNm.Library.Progress
import CrosswireNm.Service.IdleQuit

/-!
# When the service quits

No time passes while the main task could go on, its sleep is not slept beyond its end and does not
end while a change waits to be seen: an idle service then quits exactly one timer after the last
state was set.
-/

namespace CrosswireNm.Service

open Library

def lastTime (sent : List Sending) : Nat := (sent.map Sending.time).getLastD 0

/-- The observer is at rest: it has seen every value and awaits the next. -/
def IdleQuit.AtRest (s : IdleQuit) : Prop :=
  s.activeRx.seen = s.activeRx.version ∧ s.point ≠ .looking

/-- Time passes only while the observer is at rest and up to the end of its sleep, which is taken
with every value seen; the sender lives. -/
def Prompt (_ : List IdleEvent) (s : IdleQuit) : IdleLabel → Prop
  | .tick elapsed => s.point = .resolved ∨
      (s.AtRest ∧ ∀ deadline, s.point = .sleeping deadline → s.now + elapsed ≤ deadline)
  | .sleep => s.AtRest
  | .close => False
  | .set _ | .borrow | .changed => True

def PromptAlone (history : List IdleEvent) (s : IdleQuit) (label : IdleLabel) : Prop :=
  Prompt history s label ∧ ∀ next, label ≠ .set next

/-- What the clock shows at each point of the observer. -/
structure IdleQuit.OnTime (history : List IdleEvent) (s : IdleQuit) : Prop where
  channel : Watch.Sent false ((sendings history).map Sending.active) s.activeRx
  lives : s.activeRx.closed = false
  follows : s.point ≠ .resident
  unseen : s.activeRx.seen ≠ s.activeRx.version → s.point ≠ .resolved →
    s.now = lastTime (sendings history)
  looking : s.point = .looking → s.now = lastTime (sendings history)
  waiting : s.point = .waiting → s.activeRx.seen = s.activeRx.version → s.activeRx.value = true
  sleeping : ∀ deadline, s.point = .sleeping deadline → s.now ≤ deadline ∧
    (s.activeRx.seen = s.activeRx.version → s.activeRx.value = false ∧
      deadline = lastTime (sendings history) + quitTimer)

theorem lastTime_append (sent : List Sending) (sending : Sending) :
    lastTime (sent ++ [sending]) = sending.time := by
  unfold lastTime
  rw [List.map_append, List.map_singleton, List.getLastD_concat]

private theorem onTime_start : (IdleQuit.start false).OnTime [] where
  channel := Watch.sent_new
  lives := rfl
  follows := nofun
  unseen := fun hunseen => absurd rfl hunseen
  looking := fun _ => rfl
  waiting := nofun
  sleeping := nofun

section Step

variable {history out : List IdleEvent} {s t : IdleQuit} {label : IdleLabel}

private theorem IdleQuit.OnTime.set (h : s.OnTime history) (next : ServiceState)
    (hstep : idleStep s (.set next) = some (t, out)) : t.OnTime (history ++ out) := by
  cases hstep
  have hlast : lastTime (sendings (history ++ [.sent ⟨s.now, (s.inner.set next).1.activeTx⟩])) =
      s.now := by
    rw [sendings_append]
    exact lastTime_append _ _
  have hunseen : s.activeRx.seen ≠ s.activeRx.version + 1 := by
    have hseen := h.channel.seen
    omega
  constructor
  · rw [sendings_append, List.map_append]
    exact h.channel.send _
  · exact h.lives
  · exact h.follows
  · exact fun _ _ => hlast.symm
  · exact fun _ => hlast.symm
  · exact fun _ hseen => absurd hseen hunseen
  · intro deadline hpoint
    exact ⟨(h.sleeping deadline hpoint).1, fun hseen => absurd hseen hunseen⟩

private theorem IdleQuit.OnTime.borrow (h : s.OnTime history)
    (hstep : idleStep s .borrow = some (t, out)) : t.OnTime (history ++ out) := by
  cases hpoint : s.point with
  | looking =>
    simp only [idleStep, hpoint] at hstep
    cases hstep
    rw [List.append_nil]
    have hnow := h.looking hpoint
    cases hvalue : s.activeRx.value with
    | true =>
      exact ⟨h.channel, h.lives, by simp, fun _ _ => hnow, by simp, fun _ _ => hvalue, by simp⟩
    | false =>
      refine ⟨h.channel, h.lives, by simp, fun _ _ => hnow, by simp, by simp, ?_⟩
      intro deadline hdeadline
      obtain rfl := IdlePoint.sleeping.inj hdeadline
      exact ⟨Nat.le_add_right _ _, fun _ => ⟨hvalue, by rw [hnow]⟩⟩
  | resident | waiting | sleeping | resolved => simp [idleStep, hpoint] at hstep

private theorem IdleQuit.OnTime.changed (h : s.OnTime history)
    (hstep : idleStep s .changed = some (t, out)) : t.OnTime (history ++ out) := by
  have hclosed := Watch.changed_ne_closed h.lives
  have hnewer : ∀ {activeRx}, s.activeRx.changed = .newer activeRx → s.point ≠ .resolved →
      ({ s with activeRx := activeRx, point := .looking } : IdleQuit).OnTime history := by
    intro activeRx hchanged hopen
    obtain ⟨rfl, hunseen⟩ := Watch.changed_newer hchanged
    exact ⟨h.channel.changed hchanged, h.lives, by simp, fun _ _ => h.unseen hunseen hopen,
      fun _ => h.unseen hunseen hopen, by simp, by simp⟩
  simp only [idleStep] at hstep
  split at hstep
  · rename_i hpoint hchanged
    cases hstep
    rw [List.append_nil]
    exact hnewer hchanged (by simp [hpoint])
  · rename_i hpoint hchanged
    cases hstep
    rw [List.append_nil]
    exact hnewer hchanged (by simp [hpoint])
  · exact absurd ‹_› hclosed
  · exact absurd ‹_› hclosed
  · cases hstep

private theorem IdleQuit.OnTime.step (h : s.OnTime history) (hallowed : Prompt history s label)
    (hstep : idleStep s label = some (t, out)) : t.OnTime (history ++ out) := by
  cases label with
  | set next => exact h.set next hstep
  | borrow => exact h.borrow hstep
  | changed => exact h.changed hstep
  | close => exact hallowed.elim
  | tick elapsed =>
    cases hstep
    rw [List.append_nil]
    rcases hallowed with hresolved | ⟨hrest, hdue⟩
    · refine ⟨h.channel, h.lives, h.follows, fun _ hopen => absurd hresolved hopen, ?_, ?_, ?_⟩
      all_goals simp [hresolved]
    · refine ⟨h.channel, h.lives, h.follows, fun hunseen => absurd hrest.1 hunseen,
        fun hpoint => absurd hpoint hrest.2, h.waiting, ?_⟩
      intro deadline hpoint
      exact ⟨hdue deadline hpoint, (h.sleeping deadline hpoint).2⟩
  | sleep =>
    simp only [idleStep] at hstep
    split at hstep
    · split at hstep <;> cases hstep
      have hsent : sendings (history ++ [.resolved s.now]) = sendings history := by
        rw [sendings_append]
        exact List.append_nil _
      refine ⟨by rw [hsent]; exact h.channel, h.lives, by simp, fun _ hopen => absurd rfl hopen,
        by simp, by simp, by simp⟩
    · cases hstep

end Step

section Alone

variable {history : List IdleEvent} {s : IdleQuit}

private theorem sleeping_resolves {deadline : Nat} (hpoint : s.point = .sleeping deadline)
    (hseen : s.activeRx.seen = s.activeRx.version) (hdue : s.now ≤ deadline) :
    Leads idleStep PromptAlone (fun _ t => t.point = .resolved) history s := by
  have hopen : s.point ≠ .looking := by simp [hpoint]
  have htick : PromptAlone history s (.tick (deadline - s.now)) := by
    refine ⟨Or.inr ⟨⟨hseen, hopen⟩, ?_⟩, by simp⟩
    intro deadline' hpoint'
    obtain rfl := IdlePoint.sleeping.inj (hpoint.symm.trans hpoint')
    omega
  have hlater : s.now + (deadline - s.now) = deadline := by omega
  have hsleep : idleStep { s with now := s.now + (deadline - s.now) } .sleep =
      some ({ s with now := deadline, point := .resolved }, [.resolved deadline]) := by
    simp only [idleStep, hpoint, hlater, Nat.le_refl, if_true]
  exact .step (.tick (deadline - s.now)) htick rfl
    (.step .sleep ⟨⟨hseen, hopen⟩, by simp⟩ hsleep (.here rfl))

private theorem looking_resolves (hpoint : s.point = .looking)
    (hseen : s.activeRx.seen = s.activeRx.version) (hvalue : s.activeRx.value = false) :
    Leads idleStep PromptAlone (fun _ t => t.point = .resolved) history s := by
  have hborrow : idleStep s .borrow =
      some ({ s with point := .sleeping (s.now + quitTimer) }, []) := by
    simp [idleStep, hpoint, hvalue]
  exact .step .borrow ⟨trivial, by simp⟩ hborrow
    (sleeping_resolves rfl hseen (Nat.le_add_right _ _))

private theorem unseen_resolves
    (hpoint : s.point = .waiting ∨ ∃ deadline, s.point = .sleeping deadline)
    (hunseen : s.activeRx.seen ≠ s.activeRx.version) (hvalue : s.activeRx.value = false) :
    Leads idleStep PromptAlone (fun _ t => t.point = .resolved) history s := by
  have hnewer : s.activeRx.changed = .newer { s.activeRx with seen := s.activeRx.version } :=
    if_pos hunseen
  have hchanged : idleStep s .changed = some ({ s with
      activeRx := { s.activeRx with seen := s.activeRx.version }, point := .looking }, []) := by
    rcases hpoint with hpoint | ⟨deadline, hpoint⟩ <;> simp [idleStep, hpoint, hnewer]
  exact .step .changed ⟨trivial, by simp⟩ hchanged (looking_resolves rfl rfl hvalue)

private theorem IdleQuit.OnTime.resolves (h : s.OnTime history)
    (hvalue : s.activeRx.value = false) :
    Leads idleStep PromptAlone (fun _ t => t.point = .resolved) history s := by
  by_cases hseen : s.activeRx.seen = s.activeRx.version
  · cases hpoint : s.point with
    | resident => exact absurd hpoint h.follows
    | looking => exact looking_resolves hpoint hseen hvalue
    | waiting =>
      rw [h.waiting hpoint hseen] at hvalue
      cases hvalue
    | sleeping deadline => exact sleeping_resolves hpoint hseen (h.sleeping deadline hpoint).1
    | resolved => exact .here hpoint
  · cases hpoint : s.point with
    | resident => exact absurd hpoint h.follows
    | looking =>
      have hborrow : idleStep s .borrow =
          some ({ s with point := .sleeping (s.now + quitTimer) }, []) := by
        simp [idleStep, hpoint, hvalue]
      exact .step .borrow ⟨trivial, by simp⟩ hborrow
        (unseen_resolves (Or.inr ⟨_, rfl⟩) hseen hvalue)
    | waiting => exact unseen_resolves (Or.inl hpoint) hseen hvalue
    | sleeping deadline => exact unseen_resolves (Or.inr ⟨deadline, hpoint⟩) hseen hvalue
    | resolved => exact .here hpoint

end Alone

theorem onTime_run {history : List IdleEvent} {s : IdleQuit}
    (run : Run idleStep Prompt (.start false) history s) : s.OnTime history := by
  apply run.invariant fun history s => s.OnTime history
  · exact onTime_start
  · intro history s label t out honTime hallowed hstep
    exact honTime.step hallowed hstep

/-- Without `--persist`, a service that goes on with no connection active does so for no longer
than one timer after the last state was set, and left alone it then quits; it quits at no other
time. -/
theorem idleQuit_onTime {history : List IdleEvent} {s : IdleQuit}
    (run : Run idleStep Prompt (.start false) history s) :
    (flag (sendings history) = false →
      (s.point ≠ .resolved → s.now ≤ lastTime (sendings history) + quitTimer) ∧
      Leads idleStep PromptAlone (fun _ t => t.point = .resolved) history s) ∧
    ∀ before after time, history = before ++ .resolved time :: after →
      flag (sendings before) = false ∧ time = lastTime (sendings before) + quitTimer := by
  have honTime := onTime_run run
  constructor
  · intro hflag
    have hvalue : s.activeRx.value = false := honTime.channel.value.trans hflag
    refine ⟨?_, honTime.resolves hvalue⟩
    intro hopen
    by_cases hseen : s.activeRx.seen = s.activeRx.version
    · cases hpoint : s.point with
      | resident => exact absurd hpoint honTime.follows
      | looking => exact (honTime.looking hpoint) ▸ Nat.le_add_right _ _
      | waiting =>
        rw [honTime.waiting hpoint hseen] at hvalue
        cases hvalue
      | sleeping deadline =>
        obtain ⟨hdue, hbegan⟩ := honTime.sleeping deadline hpoint
        rw [← (hbegan hseen).2]
        exact hdue
      | resolved => exact absurd hpoint hopen
    · exact (honTime.unseen hseen hopen) ▸ Nat.le_add_right _ _
  · intro before after time hquit
    obtain ⟨past, u, label, v, pre, post, hpast, hallowed, hstep, rfl⟩ := run.emitted hquit
    have hpastTime := onTime_run hpast
    obtain ⟨rfl, rfl, rfl, deadline, hpoint, hdue⟩ := idleStep_resolved hpastTime.lives hstep
    obtain ⟨hlate, hbegan⟩ := hpastTime.sleeping deadline hpoint
    obtain ⟨hvalue, hdeadline⟩ := hbegan hallowed.1
    rw [List.append_nil]
    refine ⟨hpastTime.channel.value.symm.trans hvalue, ?_⟩
    omega

/-- A connection that fails at once, a second after the service has started. -/
theorem idleQuit_onTime_failed : ∃ history s, Run idleStep Prompt (.start false) history s ∧
    history = [.sent ⟨second, true⟩, .sent ⟨second, false⟩] ∧
    Leads idleStep PromptAlone (fun _ t => t.point = .resolved) history s := by
  have htick : Prompt [] { IdleQuit.start false with point := .sleeping quitTimer }
      (.tick second) := by
    refine Or.inr ⟨⟨rfl, nofun⟩, ?_⟩
    intro deadline hpoint
    obtain rfl := IdlePoint.sleeping.inj hpoint
    decide
  have hsets : ∀ history s next, Prompt history s (.set next) := fun _ _ _ => trivial
  have hborrow : Run idleStep Prompt (.start false) []
      { IdleQuit.start false with point := .sleeping quitTimer } := by
    have hlooks : Prompt [] (.start false) .borrow := trivial
    exact Run.refl.tail hlooks rfl
  have hslept := hborrow.tail htick rfl
  have hstarted := hslept.tail (hsets _ _ .starting) rfl
  have run := hstarted.tail (hsets _ _ .stopped) rfl
  exact ⟨_, _, run, rfl, ((idleQuit_onTime run).1 rfl).2⟩

end CrosswireNm.Service
