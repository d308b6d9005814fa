import CrosswireNm.Library.Watch
import CrosswireNm.Service.State
import CrosswireNm.Service.Supervisor

/-!
# Quitting when idle

The main task observes through a watch channel whether a connection is active, and quits when
none has been for a while. Time passes, and states are set, between any two of its steps.
-/

namespace CrosswireNm.Service

open Library

def quitTimer : Nat := 180 * second

inductive IdlePoint
  /-- `--persist`: pending for ever -/
  | resident
  /-- at the head of the inner loop, about to `borrow()` -/
  | looking
  /-- in the inner loop, `changed()` is awaited -/
  | waiting
  /-- in `select!`, with the time at which the sleep ends -/
  | sleeping (deadline : Nat)
  | resolved
  deriving DecidableEq, Repr

structure IdleQuit where
  now : Nat
  inner : Inner
  activeRx : Watch Bool
  point : IdlePoint
  deriving DecidableEq, Repr

def IdleQuit.start (persist : Bool) : IdleQuit :=
  { now := 0
    inner := .new
    activeRx := .new false
    point := if persist then .resident else .looking }

inductive IdleLabel
  | tick (elapsed : Nat)
  | set (next : ServiceState)
  /-- the sender is dropped -/
  | close
  | borrow
  | changed
  | sleep
  deriving DecidableEq, Repr

/-- One value sent on `active_tx`. -/
structure Sending where
  time : Nat
  active : Bool
  deriving DecidableEq, Repr

inductive IdleEvent
  | sent (sending : Sending)
  | resolved (time : Nat)
  deriving DecidableEq, Repr

/-- `select!` takes any branch that is ready; which one is for the label to say. -/
def idleStep : Step IdleQuit IdleLabel IdleEvent := fun s label =>
  match label with
  | .tick elapsed => some ({ s with now := s.now + elapsed }, [])
  | .set next =>
    let inner := (s.inner.set next).1
    some ({ s with inner := inner, activeRx := s.activeRx.send inner.activeTx },
      [.sent ⟨s.now, inner.activeTx⟩])
  | .close => some ({ s with activeRx := s.activeRx.close }, [])
  | .borrow =>
    match s.point with
    | .looking =>
      some ({ s with
        point := if s.activeRx.value then .waiting else .sleeping (s.now + quitTimer) }, [])
    | _ => none
  | .changed =>
    match s.point, s.activeRx.changed with
    | .waiting, .newer activeRx | .sleeping _, .newer activeRx =>
      some ({ s with activeRx := activeRx, point := .looking }, [])
    | .waiting, .closed | .sleeping _, .closed =>
      some ({ s with point := .resolved }, [.resolved s.now])
    | _, _ => none
  | .sleep =>
    match s.point with
    | .sleeping deadline =>
      if deadline ≤ s.now then some ({ s with point := .resolved }, [.resolved s.now]) else none
    | _ => none

def sendings (history : List IdleEvent) : List Sending :=
  history.filterMap fun
    | .sent sending => some sending
    | .resolved _ => none

def flag (sent : List Sending) : Bool := (sent.map Sending.active).getLastD false

/-- At `time` the flag has been false without interruption for the whole timer: it was false a
timer ago, and only false has been sent since. -/
def IdleFor (time : Nat) (sent : List Sending) : Prop :=
  quitTimer ≤ time ∧ ∃ before after, sent = before ++ after ∧ flag before = false ∧
    (∀ sending ∈ before, sending.time + quitTimer ≤ time) ∧
    ∀ sending ∈ after, sending.active = false

def SenderLives (_ : List IdleEvent) (_ : IdleQuit) (label : IdleLabel) : Prop := label ≠ .close

/-- The sleep is not taken while the start of a connection waits to be seen. -/
def NoStartPending (history : List IdleEvent) (s : IdleQuit) (label : IdleLabel) : Prop :=
  label ≠ .close ∧
    (label = .sleep → ∀ sending ∈ (sendings history).drop s.activeRx.seen, sending.active = false)

instance (history : List IdleEvent) (s : IdleQuit) (label : IdleLabel) :
    Decidable (SenderLives history s label) :=
  inferInstanceAs (Decidable (label ≠ .close))

instance (history : List IdleEvent) (s : IdleQuit) (label : IdleLabel) :
    Decidable (NoStartPending history s label) :=
  inferInstanceAs (Decidable (label ≠ .close ∧ (label = .sleep →
    ∀ sending ∈ (sendings history).drop s.activeRx.seen, sending.active = false)))

private theorem flag_append_false {before after : List Sending} (hbefore : flag before = false)
    (hafter : ∀ sending ∈ after, sending.active = false) : flag (before ++ after) = false := by
  rcases List.eq_nil_or_concat after with rfl | ⟨others, last, rfl⟩
  · rwa [List.append_nil]
  · have hlast := hafter last (by simp)
    unfold flag
    rw [List.concat_eq_append, ← List.append_assoc, List.map_append, List.map_singleton,
      List.getLastD_concat]
    exact hlast

theorem IdleFor.flag {time : Nat} {sent : List Sending} (h : IdleFor time sent) :
    flag sent = false := by
  obtain ⟨_, before, after, rfl, hbefore, _, hafter⟩ := h
  exact flag_append_false hbefore hafter

def Slept (deadline seen : Nat) (sent : List Sending) : Prop :=
  quitTimer ≤ deadline ∧ ∃ before after, sent = before ++ after ∧ seen ≤ before.length ∧
    flag before = false ∧ ∀ sending ∈ before, sending.time + quitTimer ≤ deadline

/-- What the observer knows of what was sent. -/
structure IdleQuit.Knows (history : List IdleEvent) (s : IdleQuit) : Prop where
  channel : Watch.Sent false ((sendings history).map Sending.active) s.activeRx
  past : ∀ sending ∈ sendings history, sending.time ≤ s.now
  lives : s.activeRx.closed = false
  slept : ∀ deadline, s.point = .sleeping deadline →
    Slept deadline s.activeRx.seen (sendings history)

theorem sendings_append (history out : List IdleEvent) :
    sendings (history ++ out) = sendings history ++ sendings out :=
  List.filterMap_append ..

private theorem knows_start (persist : Bool) : (IdleQuit.start persist).Knows [] where
  channel := Watch.sent_new
  past := fun _ h => absurd h List.not_mem_nil
  lives := rfl
  slept := by
    intro deadline hpoint
    cases persist <;> cases hpoint

section Step

variable {history out : List IdleEvent} {s t : IdleQuit} {label : IdleLabel}

private theorem Slept.send {deadline seen : Nat} {sent : List Sending}
    (h : Slept deadline seen sent) (sending : Sending) :
    Slept deadline seen (sent ++ [sending]) := by
  obtain ⟨hdeadline, before, after, rfl, hseen, hflag, htimes⟩ := h
  exact ⟨hdeadline, before, after ++ [sending], List.append_assoc .., hseen, hflag, htimes⟩

private theorem IdleQuit.Knows.sleeps (h : s.Knows history) (hinactive : s.activeRx.value = false) :
    Slept (s.now + quitTimer) s.activeRx.seen (sendings history) := by
  have hlength : s.activeRx.version = (sendings history).length := by
    rw [h.channel.version, List.length_map]
  refine ⟨Nat.le_add_left _ _, sendings history, [], (List.append_nil _).symm, ?_, ?_, ?_⟩
  · rw [← hlength]
    exact h.channel.seen
  · rw [← hinactive, h.channel.value]
    rfl
  · intro sending hsending
    have hpast := h.past sending hsending
    omega

private theorem IdleQuit.Knows.step (h : s.Knows history) (hlabel : label ≠ .close)
    (hstep : idleStep s label = some (t, out)) : t.Knows (history ++ out) := by
  cases label with
  | tick elapsed =>
    cases hstep
    rw [List.append_nil]
    refine ⟨h.channel, ?_, h.lives, h.slept⟩
    intro sending hsending
    exact Nat.le_trans (h.past sending hsending) (Nat.le_add_right _ _)
  | set next =>
    cases hstep
    constructor
    · rw [sendings_append, List.map_append]
      exact h.channel.send _
    · intro sending hsending
      rw [sendings_append] at hsending
      rcases List.mem_append.mp hsending with hold | hnew
      · exact h.past sending hold
      · exact Nat.le_of_eq (congrArg Sending.time (List.mem_singleton.mp hnew))
    · exact h.lives
    · intro deadline hpoint
      rw [sendings_append]
      exact (h.slept deadline hpoint).send _
  | close => exact absurd rfl hlabel
  | borrow =>
    simp only [idleStep] at hstep
    split at hstep <;> cases hstep
    rw [List.append_nil]
    refine ⟨h.channel, h.past, h.lives, ?_⟩
    intro deadline hpoint
    cases hvalue : s.activeRx.value with
    | true => simp [hvalue] at hpoint
    | false =>
      simp only [hvalue, Bool.false_eq_true, if_false, IdlePoint.sleeping.injEq] at hpoint
      rw [← hpoint]
      exact h.sleeps hvalue
  | changed =>
    have hnewer : ∀ {activeRx}, s.activeRx.changed = .newer activeRx →
        ({ s with activeRx := activeRx, point := .looking } : IdleQuit).Knows history := by
      intro activeRx hchanged
      obtain ⟨rfl, _⟩ := Watch.changed_newer hchanged
      exact ⟨h.channel.changed hchanged, h.past, h.lives, nofun⟩
    have hclosed := Watch.changed_ne_closed h.lives
    simp only [idleStep] at hstep
    split at hstep
    · cases hstep
      rw [List.append_nil]
      exact hnewer ‹_›
    · cases hstep
      rw [List.append_nil]
      exact hnewer ‹_›
    · exact absurd ‹_› hclosed
    · exact absurd ‹_› hclosed
    · cases hstep
  | sleep =>
    simp only [idleStep] at hstep
    split at hstep
    · split at hstep <;> cases hstep
      have hsent : sendings (history ++ [.resolved s.now]) = sendings history := by
        rw [sendings_append]
        exact List.append_nil _
      refine ⟨by rw [hsent]; exact h.channel, by rw [hsent]; exact h.past, h.lives, nofun⟩
    · cases hstep

private theorem IdleQuit.Knows.sleep (h : s.Knows history)
    (hallowed : NoStartPending history s .sleep) {deadline : Nat}
    (hpoint : s.point = .sleeping deadline) (hdue : deadline ≤ s.now) :
    IdleFor s.now (sendings history) := by
  obtain ⟨hdeadline, before, after, hsent, hseen, hflag, htimes⟩ := h.slept deadline hpoint
  refine ⟨Nat.le_trans hdeadline hdue, before, after, hsent, hflag, ?_, ?_⟩
  · intro sending hsending
    exact Nat.le_trans (htimes sending hsending) hdue
  · intro sending hsending
    apply hallowed.2 rfl sending
    rw [hsent, List.drop_append_of_le_length hseen]
    exact List.mem_append_right _ hsending

/-- Only a sleep resolves. -/
theorem idleStep_resolved (h : s.activeRx.closed = false) {pre post : List IdleEvent}
    {time : Nat} (hstep : idleStep s label = some (t, pre ++ .resolved time :: post)) :
    label = .sleep ∧ pre = [] ∧ time = s.now ∧
      ∃ deadline, s.point = .sleeping deadline ∧ deadline ≤ s.now := by
  generalize hword : pre ++ .resolved time :: post = out at hstep
  have hnone : pre ++ IdleEvent.resolved time :: post ≠ [] := by simp
  cases label with
  | tick | close =>
    cases hstep
    exact absurd hword hnone
  | set next =>
    cases hstep
    rcases pre with _ | ⟨_, pre⟩ <;> simp at hword
  | borrow =>
    simp only [idleStep] at hstep
    split at hstep <;> cases hstep
    exact absurd hword hnone
  | changed =>
    have hclosed := Watch.changed_ne_closed h
    simp only [idleStep] at hstep
    split at hstep
    · cases hstep
      exact absurd hword hnone
    · cases hstep
      exact absurd hword hnone
    · exact absurd ‹_› hclosed
    · exact absurd ‹_› hclosed
    · cases hstep
  | sleep =>
    simp only [idleStep] at hstep
    split at hstep
    · rename_i deadline hpoint
      split at hstep <;> cases hstep
      rename_i hdue
      cases pre with
      | nil => exact ⟨rfl, rfl, by cases hword; rfl, deadline, hpoint, hdue⟩
      | cons => simp at hword
    · cases hstep

end Step

private theorem knows_run {allowed : List IdleEvent → IdleQuit → IdleLabel → Prop}
    (hallowed : ∀ history s label, allowed history s label → label ≠ .close) {persist : Bool}
    {history : List IdleEvent} {s : IdleQuit}
    (run : Run idleStep allowed (.start persist) history s) : s.Knows history := by
  apply run.invariant fun history s => s.Knows history
  · exact knows_start persist
  · intro history s label t out hknows hlabel hstep
    exact hknows.step (hallowed history s label hlabel) hstep

/-- If no start is pending whenever the sleep is taken, the service never quits under a
connection. -/
theorem idleQuit_idle {persist : Bool} {history : List IdleEvent} {s : IdleQuit}
    (run : Run idleStep NoStartPending (.start persist) history s)
    {before after : List IdleEvent} {time : Nat}
    (hquit : history = before ++ .resolved time :: after) :
    flag (sendings before) = false ∧ IdleFor time (sendings before) := by
  obtain ⟨past, s, label, t, pre, post, hpast, hallowed, hstep, rfl⟩ := run.emitted hquit
  have hknows := knows_run (fun _ _ _ hlabel => hlabel.1) hpast
  obtain ⟨rfl, rfl, rfl, deadline, hpoint, hdue⟩ := idleStep_resolved hknows.lives hstep
  rw [List.append_nil]
  have hidle := hknows.sleep hallowed hpoint hdue
  exact ⟨hidle.flag, hidle⟩

def briefConnection : List IdleLabel :=
  [.borrow, .tick second, .set .starting, .changed, .borrow, .tick second, .set .stopped, .changed,
    .borrow, .tick quitTimer, .sleep]

theorem idleQuit_idle_brief : ∃ history s before,
    Run idleStep NoStartPending (.start false) history s ∧
      history = before ++ [.resolved (2 * second + quitTimer)] ∧
      IdleFor (2 * second + quitTimer) (sendings before) := by
  have hexec : exec idleStep (fun history s label => NoStartPending history s label) []
      (.start false) briefConnection =
      some ([.sent ⟨second, true⟩, .sent ⟨2 * second, false⟩, .resolved (2 * second + quitTimer)],
        ⟨2 * second + quitTimer, ⟨.stopped, false⟩, ⟨false, 2, 2, false⟩, .resolved⟩) := by
    decide
  have run : Run idleStep NoStartPending (.start false) _ _ :=
    exec_run (fun _ _ _ hok => of_decide_eq_true hok) .refl hexec
  have hquit : [.sent ⟨second, true⟩, .sent ⟨2 * second, false⟩,
        .resolved (2 * second + quitTimer)] =
      [.sent ⟨second, true⟩, .sent ⟨2 * second, false⟩] ++
        IdleEvent.resolved (2 * second + quitTimer) :: [] := rfl
  exact ⟨_, _, _, run, hquit, (idleQuit_idle run hquit).2⟩

/-- A connection starts just before the sleep ends, and the sleep is taken. -/
theorem idleQuit_under_connection : ∃ history s before time,
    Run idleStep SenderLives (.start false) history s ∧ history = before ++ [.resolved time] ∧
      flag (sendings before) = true ∧ ¬ IdleFor time (sendings before) := by
  have hexec : exec idleStep (fun history s label => SenderLives history s label) [] (.start false)
      [.borrow, .tick (quitTimer - 1), .set .starting, .tick 1, .sleep] =
      some ([.sent ⟨quitTimer - 1, true⟩, .resolved quitTimer],
        ⟨quitTimer, ⟨.starting, true⟩, ⟨true, 1, 0, false⟩, .resolved⟩) := by
    decide
  have run : Run idleStep SenderLives (.start false) _ _ :=
    exec_run (fun _ _ _ hok => of_decide_eq_true hok) .refl hexec
  refine ⟨_, _, [.sent ⟨quitTimer - 1, true⟩], quitTimer, run, rfl, rfl, ?_⟩
  intro hidle
  exact absurd hidle.flag (by decide)

theorem idleQuit_resident {history : List IdleEvent} {s : IdleQuit}
    (run : Run idleStep anyLabel (.start true) history s) : s.point = .resident := by
  apply run.state_invariant fun s => s.point = .resident
  · rfl
  · intro s label t out _ hpoint _ hstep
    cases label with
    | tick | set | close =>
      cases hstep
      exact hpoint
    | borrow | changed | sleep => simp [idleStep, hpoint] at hstep

end CrosswireNm.Service
