import CrosswireNm.Service.Readers
import CrosswireNm.Service.SupervisorRuns

/-!
# The watcher and the loggers

A session with everything that runs for it: the watcher, its owner and the readers of every
crosswire the watcher has launched. Each crosswire has a scanner of its own, and readers that the
drain has given up on go on. Seen without the readers this is the watcher alone.
-/

namespace CrosswireNm.Service

open Library

structure Supervised where
  solo : Solo
  /-- the crosswire in `running` -/
  current : Nat
  readers : Nat → Readers

/-- `outputs` says what each crosswire writes until its pipes are closed. -/
def Supervised.start (outputs : Nat → Stream → List UInt8) : Supervised :=
  ⟨.start, 0, fun run => .start (outputs run)⟩

def Supervised.alone (s : Supervised) : Solo :=
  { s.solo with watcher := { s.solo.watcher with scanner := (s.readers s.current).scanner } }

inductive SupervisedLabel
  /-- a reader of some crosswire goes on -/
  | turn (run : Nat) (stream : Stream)
  /-- `drain_loggers` awaits its next logger: to the end, or for `DRAIN_TIMEOUT` -/
  | join
  | timeout
  /-- it has awaited both, and the verdict and the clock are read -/
  | classify (elapsed : Nat)
  | solo (label : SoloLabel)

inductive SupervisedEvent
  | solo (event : SoloEvent)
  /-- a logger has been given up on -/
  | abandoned (run : Nat) (stream : Stream)
  deriving DecidableEq, Repr

def Supervised.setReaders (s : Supervised) (run : Nat) (readers : Readers) : Supervised :=
  { s with readers := Function.update s.readers run readers }

/-- `spawn_child` spawns the loggers when the child has its stdin. -/
def Supervised.spawned (s : Supervised) (run : Nat) : Bool :=
  run < s.current || (run == s.current && s.solo.watcher.point != .feeding)

def SoloLabel.reads : SoloLabel → Bool
  | .watch (.line _) | .watch (.drain _) => true
  | _ => false

/-- A relaunch swaps `running`, and an unsuccessful exit begins the drain. -/
def Supervised.follow (s : Supervised) (label : SoloLabel) (solo : Solo) : Supervised :=
  match label, solo.watcher.point with
  | .watch (.respawn true), _ => { s with solo, current := s.current + 1 }
  | .watch .pollChild, .draining =>
    { s with solo }.setReaders s.current
      { s.readers s.current with drain := .joining [.stdout, .stderr] }
  | _, _ => { s with solo }

def Supervised.step : Step Supervised SupervisedLabel SupervisedEvent := fun s label =>
  match label with
  | .turn run stream =>
    if s.spawned run then
      ((s.readers run).turn stream).map fun (readers, _) => (s.setReaders run readers, [])
    else none
  | .join =>
    if s.solo.watcher.point = .draining then
      (Readers.step (s.readers s.current) .join).map fun (readers, _) =>
        (s.setReaders s.current readers, [])
    else none
  | .timeout =>
    match s.solo.watcher.point, (s.readers s.current).drain with
    | .draining, .joining (stream :: left) =>
      some (s.setReaders s.current { s.readers s.current with drain := .joining left },
        [.abandoned s.current stream])
    | _, _ => none
  | .classify elapsed =>
    match Readers.step (s.readers s.current) .classify,
      soloStep s.alone (.watch (.drain elapsed)) with
    | some (readers, _), some (solo, out) =>
      some ({ s with solo }.setReaders s.current readers, out.map .solo)
    | _, _ => none
  | .solo label =>
    if label.reads then none
    else (soloStep s.alone label).map fun (solo, out) => (s.follow label solo, out.map .solo)

/-! ## The moves by name -/

inductive Supervised.Moves (s : Supervised) : Supervised → List SupervisedEvent → Prop
  | turn {run : Nat} {stream : Stream} {readers : Readers} {fed : List Fed} :
      s.spawned run = true → (s.readers run).turn stream = some (readers, fed) →
      Moves s (s.setReaders run readers) []
  | join {readers : Readers} {fed : List Fed} : s.solo.watcher.point = .draining →
      Readers.step (s.readers s.current) .join = some (readers, fed) →
      Moves s (s.setReaders s.current readers) []
  | timeout {stream : Stream} {left : List Stream} : s.solo.watcher.point = .draining →
      (s.readers s.current).drain = .joining (stream :: left) →
      Moves s (s.setReaders s.current { s.readers s.current with drain := .joining left })
        [.abandoned s.current stream]
  | classify {elapsed : Nat} {readers : Readers} {fed : List Fed} {solo : Solo}
      {out : List SoloEvent} : Readers.step (s.readers s.current) .classify = some (readers, fed) →
      soloStep s.alone (.watch (.drain elapsed)) = some (solo, out) →
      Moves s ({ s with solo }.setReaders s.current readers) (out.map .solo)
  | respawn {solo : Solo} {out : List SoloEvent} :
      soloStep s.alone (.watch (.respawn true)) = some (solo, out) →
      Moves s { s with solo, current := s.current + 1 } (out.map .solo)
  | exits {solo : Solo} {out : List SoloEvent} :
      soloStep s.alone (.watch .pollChild) = some (solo, out) → solo.watcher.point = .draining →
      Moves s ({ s with solo }.setReaders s.current
        { s.readers s.current with drain := .joining [.stdout, .stderr] }) (out.map .solo)
  | solo {label : SoloLabel} {solo : Solo} {out : List SoloEvent} : label.reads = false →
      label ≠ .watch (.respawn true) →
      (label = .watch .pollChild → solo.watcher.point ≠ .draining) →
      soloStep s.alone label = some (solo, out) → Moves s { s with solo } (out.map .solo)

theorem Supervised.step_moves {s t : Supervised} {label : SupervisedLabel}
    {out : List SupervisedEvent} (h : s.step label = some (t, out)) : s.Moves t out := by
  cases label with
  | turn run stream =>
    simp only [Supervised.step] at h
    split at h
    · obtain ⟨⟨readers, fed⟩, hturn, hnext⟩ := Option.map_eq_some_iff.mp h
      cases hnext
      exact .turn ‹_› hturn
    · cases h
  | join =>
    simp only [Supervised.step] at h
    split at h
    · obtain ⟨⟨readers, fed⟩, hjoin, hnext⟩ := Option.map_eq_some_iff.mp h
      cases hnext
      exact .join ‹_› hjoin
    · cases h
  | timeout =>
    simp only [Supervised.step] at h
    split at h <;> cases h
    exact .timeout ‹_› ‹_›
  | classify elapsed =>
    simp only [Supervised.step] at h
    split at h <;> cases h
    exact .classify ‹_› ‹_›
  | solo label =>
    simp only [Supervised.step] at h
    split at h
    · cases h
    · rename_i hreads
      obtain ⟨⟨solo, events⟩, hsolo, hnext⟩ := Option.map_eq_some_iff.mp h
      cases hnext
      unfold Supervised.follow
      split
      · exact .respawn hsolo
      · exact .exits hsolo ‹_›
      · rename_i hrespawn hexits
        refine .solo (by simpa using hreads) (fun hlabel => hrespawn hlabel) ?_ hsolo
        exact fun hlabel hpoint => hexits hlabel hpoint

def SupervisedEvent.seen : SupervisedEvent → Option SoloEvent
  | .solo event => some event
  | .abandoned _ _ => none

@[simp] theorem seen_map_solo (out : List SoloEvent) :
    (out.map SupervisedEvent.solo).filterMap SupervisedEvent.seen = out := by
  rw [List.filterMap_map]
  exact List.filterMap_some

section Pieces

variable {r r' : Readers} {fed : List Fed} {s t : Solo} {out : List SoloEvent}

private theorem Readers.turn_scanner {stream : Stream} (h : r.turn stream = some (r', fed)) :
    r'.drain = r.drain ∧
      (r'.scanner = r.scanner ∨ ∃ text, r'.scanner = r.scanner.observe text) := by
  unfold Readers.turn at h
  split at h
  · cases h
  · split at h <;> cases h
    · exact ⟨rfl, Or.inr ⟨_, rfl⟩⟩
    · exact ⟨rfl, Or.inl rfl⟩

private theorem Readers.step_join_eq (h : Readers.step r .join = some (r', fed)) :
    ∃ left, r' = { r with drain := .joining left } := by
  unfold Readers.step at h
  cases hdrain : r.drain with
  | waiting => simp [hdrain] at h
  | classified verdict => simp [hdrain] at h
  | joining loggers =>
    cases loggers with
    | nil => simp [hdrain] at h
    | cons stream left =>
      simp only [hdrain] at h
      split at h <;> cases h
      exact ⟨left, rfl⟩

private theorem Readers.step_classify_eq (h : Readers.step r .classify = some (r', fed)) :
    r' = { r with drain := .classified r.scanner.certChange } := by
  unfold Readers.step at h
  cases hdrain : r.drain with
  | waiting => simp [hdrain] at h
  | classified verdict => simp [hdrain] at h
  | joining loggers =>
    cases loggers with
    | cons stream left => simp [hdrain] at h
    | nil =>
      simp only [hdrain] at h
      cases h
      rfl

private theorem soloStep_watch {act : Act} (h : soloStep s (.watch act) = some (t, out)) :
    ∃ w events, s.watcher.Moves act w events ∧ t = { s with watcher := w } ∧
      out = events.map .watcher := by
  obtain ⟨⟨w, events⟩, hstep, hnext⟩ := Option.map_eq_some_iff.mp h
  cases hnext
  exact ⟨w, events, Watcher.step_moves hstep, rfl, rfl⟩

private theorem soloStep_drain {elapsed : Nat}
    (h : soloStep s (.watch (.drain elapsed)) = some (t, out)) :
    out = [] ∧ t = { s with watcher := { s.watcher with
      point := .judging s.watcher.scanner.certChange (elapsed < fastFailureWindow) } } := by
  obtain ⟨w, events, hmoves, rfl, rfl⟩ := soloStep_watch h
  cases hmoves
  exact ⟨rfl, rfl⟩

private theorem soloStep_respawn (h : soloStep s (.watch (.respawn true)) = some (t, out)) :
    out = [.watcher (.launch true)] ∧ t.watcher.point = .feeding ∧ t.watcher.scanner = {} := by
  obtain ⟨w, events, hmoves, rfl, rfl⟩ := soloStep_watch h
  cases hmoves
  exact ⟨rfl, rfl, rfl⟩

private theorem soloStep_scanner {label : SoloLabel} (hreads : label.reads = false)
    (hrespawn : label ≠ .watch (.respawn true)) (h : soloStep s label = some (t, out)) :
    t.watcher.scanner = s.watcher.scanner := by
  cases label with
  | watch act =>
    obtain ⟨w, events, hmoves, rfl, rfl⟩ := soloStep_watch h
    cases hmoves with
    | line | drain => cases hreads
    | respawn => exact absurd rfl hrespawn
    | _ => rfl
  | stop => grind [soloStep, Watcher.send]
  | stopReturns | stopLimit | drop => grind [soloStep, Watcher.dropSender]

/-- Where the drain is at each point of the watcher. -/
def Drain.Suits (drain : Drain) : Point → Prop
  | .unwatched | .stopPoll | .childPoll | .feeding => drain = .waiting
  | .draining => ∃ left, drain = .joining left
  | .judging verdict _ => drain = .classified verdict
  | _ => True

private theorem soloStep_suits {label : SoloLabel} {drain : Drain} (hreads : label.reads = false)
    (hrespawn : label ≠ .watch (.respawn true))
    (hexits : label = .watch .pollChild → t.watcher.point ≠ .draining)
    (h : soloStep s label = some (t, out)) (hs : drain.Suits s.watcher.point) :
    drain.Suits t.watcher.point ∧ .watcher (.launch true) ∉ out := by
  cases label with
  | watch act =>
    obtain ⟨w, events, hmoves, rfl, rfl⟩ := soloStep_watch h
    cases hmoves with
    | line | drain => cases hreads
    | respawn => exact absurd rfl hrespawn
    | badExit => exact absurd rfl (hexits rfl)
    | exits => exact ⟨hs, by simp⟩
    | _ => simp_all [Drain.Suits]
  | stop => grind [soloStep, Watcher.send]
  | stopReturns | stopLimit | drop => grind [soloStep, Watcher.dropSender]

private theorem soloStep_badExit (h : soloStep s (.watch .pollChild) = some (t, out))
    (hpoint : t.watcher.point = .draining) :
    s.watcher.point = .childPoll ∧ out = [.watcher (.exited false)] := by
  obtain ⟨w, events, hmoves, rfl, rfl⟩ := soloStep_watch h
  cases hmoves with
  | badExit hchild => exact ⟨hchild, rfl⟩
  | childLives | cleanExit => cases hpoint

end Pieces

/-! ## The watcher alone -/

section Refinement

variable {s t : Supervised} {out : List SupervisedEvent}

def Supervised.Unread (s : Supervised) : Prop :=
  ∀ run, s.current < run → (s.readers run).scanner = {}

@[simp] theorem Supervised.setReaders_solo (s : Supervised) (run : Nat) (readers : Readers) :
    (s.setReaders run readers).solo = s.solo := rfl

@[simp] theorem Supervised.setReaders_current (s : Supervised) (run : Nat) (readers : Readers) :
    (s.setReaders run readers).current = s.current := rfl

@[simp] theorem Supervised.setReaders_readers (s : Supervised) (run : Nat) (readers : Readers) :
    (s.setReaders run readers).readers = Function.update s.readers run readers := rfl

theorem Supervised.alone_eq (h : (t.readers t.current).scanner = t.solo.watcher.scanner) :
    t.alone = t.solo := by
  unfold Supervised.alone
  rw [h]

theorem Supervised.alone_setReaders (s : Supervised) (readers : Readers) :
    (s.setReaders s.current readers).alone =
      { s.alone with watcher := { s.alone.watcher with scanner := readers.scanner } } := by
  simp [Supervised.alone]

private theorem Supervised.follows {label : SoloLabel} {events : List SoloEvent}
    (hsolo : soloStep s.alone label = some (t.solo, events))
    (hscanner : (t.readers t.current).scanner = t.solo.watcher.scanner) :
    ∃ label, soloStep s.alone label =
      some (t.alone, (events.map SupervisedEvent.solo).filterMap SupervisedEvent.seen) := by
  refine ⟨label, ?_⟩
  rw [seen_map_solo, Supervised.alone_eq hscanner]
  exact hsolo

theorem Supervised.Moves.refines (h : s.Moves t out) (hunread : s.Unread) :
    (t.alone = s.alone ∧ out.filterMap SupervisedEvent.seen = []) ∨
      ∃ label, soloStep s.alone label = some (t.alone, out.filterMap SupervisedEvent.seen) := by
  cases h with
  | @turn run stream readers fed hspawned hturn =>
    by_cases hrun : run = s.current
    · subst hrun
      rw [Supervised.alone_setReaders]
      obtain ⟨_, hsame | ⟨text, hline⟩⟩ := Readers.turn_scanner hturn
      · rw [hsame]
        exact Or.inl ⟨rfl, rfl⟩
      · rw [hline]
        exact Or.inr ⟨.watch (.line text), rfl⟩
    · left
      refine ⟨?_, rfl⟩
      simp [Supervised.alone, Function.update_of_ne (Ne.symm hrun)]
  | join hpoint hjoin =>
    obtain ⟨left, rfl⟩ := Readers.step_join_eq hjoin
    rw [Supervised.alone_setReaders]
    exact Or.inl ⟨rfl, rfl⟩
  | timeout =>
    rw [Supervised.alone_setReaders]
    exact Or.inl ⟨rfl, rfl⟩
  | classify hclassify hsolo =>
    refine Or.inr (Supervised.follows hsolo ?_)
    obtain ⟨_, rfl⟩ := soloStep_drain hsolo
    simp [Readers.step_classify_eq hclassify, Supervised.alone]
  | respawn hsolo =>
    refine Or.inr (Supervised.follows hsolo ?_)
    rw [(soloStep_respawn hsolo).2.2]
    exact hunread (s.current + 1) (Nat.lt_succ_self _)
  | exits hsolo =>
    refine Or.inr (Supervised.follows hsolo ?_)
    rw [Supervised.setReaders_solo, soloStep_scanner rfl (by simp) hsolo]
    simp [Supervised.alone]
  | solo hreads hrespawn _ hsolo =>
    exact Or.inr (Supervised.follows hsolo (soloStep_scanner hreads hrespawn hsolo).symm)

/-! ## Whose output a verdict is about -/

def relaunches (history : List SupervisedEvent) : Nat :=
  history.count (.solo (.watcher (.launch true)))

/-- How far the readers of one crosswire have come, given up on only if not `timely`. -/
def Readers.Reached (output : Stream → List UInt8) (timely : Prop) (r : Readers) : Prop :=
  ∃ fed, Run Readers.step anyLabel (.start output) fed r ∧
    (timely → Run Readers.step inTime (.start output) fed r)

theorem Readers.Reached.mono {output : Stream → List UInt8} {timely timely' : Prop} {r : Readers}
    (h : r.Reached output timely) (htimely : timely' → timely) : r.Reached output timely' := by
  obtain ⟨fed, run, hrun⟩ := h
  exact ⟨fed, run, fun ht => hrun (htimely ht)⟩

theorem Readers.Reached.step {output : Stream → List UInt8} {timely : Prop} {r r' : Readers}
    {label : ReaderLabel} {fed : List Fed} (h : r.Reached output timely)
    (hstep : Readers.step r label = some (r', fed)) (hlabel : timely → label ≠ .timeout) :
    r'.Reached output timely := by
  obtain ⟨before, run, hrun⟩ := h
  exact ⟨before ++ fed, run.tail trivial hstep, fun ht => (hrun ht).tail (hlabel ht) hstep⟩

structure Supervised.Kept (outputs : Nat → Stream → List UInt8) (history : List SupervisedEvent)
    (s : Supervised) : Prop where
  current : s.current = relaunches history
  later : ∀ run, s.current < run → s.readers run = .start (outputs run)
  reached : ∀ run, (s.readers run).Reached (outputs run)
    (∀ stream, .abandoned run stream ∉ history)
  drain : (s.readers s.current).drain.Suits s.solo.watcher.point

variable {outputs : Nat → Stream → List UInt8} {history : List SupervisedEvent}

theorem Supervised.Kept.unread (hs : s.Kept outputs history) : s.Unread := by
  intro run hrun
  rw [hs.later run hrun]
  rfl

private theorem Supervised.Kept.reached_append (hs : s.Kept outputs history)
    (out : List SupervisedEvent) (run : Nat) :
    (s.readers run).Reached (outputs run) (∀ stream, .abandoned run stream ∉ history ++ out) :=
  (hs.reached run).mono fun h stream hmem => h stream (List.mem_append_left _ hmem)

private theorem Supervised.Kept.readers_step (hs : s.Kept outputs history)
    (out : List SupervisedEvent) {run : Nat} {label : ReaderLabel} {readers : Readers}
    {fed : List Fed} (hrun : run ≤ s.current)
    (hstep : Readers.step (s.readers run) label = some (readers, fed))
    (hlabel : (∀ stream, .abandoned run stream ∉ history ++ out) → label ≠ .timeout) :
    (∀ run', s.current < run' → Function.update s.readers run readers run' =
      .start (outputs run')) ∧
    ∀ run', (Function.update s.readers run readers run').Reached (outputs run')
      (∀ stream, .abandoned run' stream ∉ history ++ out) := by
  constructor
  · intro run' hlater
    rw [Function.update_of_ne (by omega)]
    exact hs.later run' hlater
  · intro run'
    by_cases heq : run' = run
    · subst heq
      rw [Function.update_self]
      exact (hs.reached_append out run').step hstep hlabel
    · rw [Function.update_of_ne heq]
      exact hs.reached_append out run'

theorem Supervised.Moves.kept (h : s.Moves t out) (hs : s.Kept outputs history) :
    t.Kept outputs (history ++ out) := by
  cases h with
  | @turn run stream readers fed hspawned hturn =>
    have hrun : run ≤ s.current := by
      simp only [Supervised.spawned, Bool.or_eq_true, decide_eq_true_eq, Bool.and_eq_true,
        beq_iff_eq] at hspawned
      omega
    rw [← step_turn] at hturn
    obtain ⟨hlater, hreached⟩ := hs.readers_step [] hrun hturn (by simp)
    refine ⟨by simpa using hs.current, hlater, hreached, ?_⟩
    by_cases heq : run = s.current
    · subst heq
      rw [step_turn] at hturn
      simpa [(Readers.turn_scanner hturn).1] using hs.drain
    · simpa [Function.update_of_ne (Ne.symm heq)] using hs.drain
  | join hpoint hjoin =>
    obtain ⟨hlater, hreached⟩ := hs.readers_step [] (Nat.le_refl _) hjoin (by simp)
    refine ⟨by simpa using hs.current, hlater, hreached, ?_⟩
    obtain ⟨left, rfl⟩ := Readers.step_join_eq hjoin
    simp [hpoint, Drain.Suits]
  | @timeout stream left hpoint hdrain =>
    have htimeout : Readers.step (s.readers s.current) .timeout =
        some ({ s.readers s.current with drain := .joining left }, []) := by
      simp [Readers.step, hdrain]
    obtain ⟨hlater, hreached⟩ := hs.readers_step [.abandoned s.current stream]
      (Nat.le_refl _) htimeout (fun h => absurd (List.mem_append_right _ (by simp)) (h stream))
    refine ⟨by simpa [relaunches] using hs.current, hlater, hreached, ?_⟩
    simp [hpoint, Drain.Suits]
  | classify hclassify hsolo =>
    obtain ⟨rfl, rfl⟩ := soloStep_drain hsolo
    obtain ⟨hlater, hreached⟩ := hs.readers_step [] (Nat.le_refl _) hclassify (by simp)
    refine ⟨by simpa using hs.current, hlater, hreached, ?_⟩
    simp [Readers.step_classify_eq hclassify, Drain.Suits, Supervised.alone]
  | respawn hsolo =>
    obtain ⟨rfl, hpoint, _⟩ := soloStep_respawn hsolo
    refine ⟨by simp [relaunches, hs.current], ?_, hs.reached_append _, ?_⟩
    · intro run hrun
      exact hs.later run (Nat.lt_of_succ_lt hrun)
    · simp only [hpoint, Drain.Suits]
      rw [hs.later _ (Nat.lt_succ_self _)]
      rfl
  | exits hsolo hpoint =>
    obtain ⟨hchild, rfl⟩ := soloStep_badExit hsolo hpoint
    have hwaiting := hs.drain
    replace hchild : s.solo.watcher.point = .childPoll := hchild
    rw [hchild] at hwaiting
    have hexit : Readers.step (s.readers s.current) .exit =
        some ({ s.readers s.current with drain := .joining [.stdout, .stderr] }, []) := by
      simp only [Drain.Suits] at hwaiting
      simp [Readers.step, hwaiting]
    obtain ⟨hlater, hreached⟩ := hs.readers_step [.solo (.watcher (.exited false))]
      (Nat.le_refl _) hexit (by simp)
    refine ⟨by simpa [relaunches] using hs.current, hlater, hreached, ?_⟩
    simp [hpoint, Drain.Suits]
  | solo hreads hrespawn hexits hsolo =>
    obtain ⟨hsuits, hlaunch⟩ := soloStep_suits hreads hrespawn hexits hsolo hs.drain
    refine ⟨?_, hs.later, hs.reached_append _, hsuits⟩
    have hnone : (.solo (.watcher (.launch true)) : SupervisedEvent) ∉
        List.map SupervisedEvent.solo _ := fun hmem => hlaunch (by simpa using hmem)
    rw [relaunches, List.count_append, List.count_eq_zero.mpr hnone, Nat.add_zero]
    exact hs.current

theorem supervised_kept (run : Run Supervised.step anyLabel (.start outputs) history s) :
    s.Kept outputs history := by
  apply run.invariant (Supervised.Kept outputs)
  · refine ⟨rfl, fun _ _ => rfl, ?_, rfl⟩
    intro run
    exact ⟨[], .refl, fun _ => .refl⟩
  · intro history s label t out hs _ hstep
    exact (Supervised.step_moves hstep).kept hs

def drains (_ : List SupervisedEvent) (_ : Supervised) : SupervisedLabel → Prop
  | .join | .timeout | .classify _ => True
  | _ => False

private theorem supervised_drains {left : List Stream} (hpoint : s.solo.watcher.point = .draining)
    (hdrain : (s.readers s.current).drain = .joining left) :
    Leads Supervised.step drains
      (fun _ t => ∃ verdict fast, t.solo.watcher.point = .judging verdict fast) history s := by
  induction left generalizing s history with
  | nil =>
    have hstep : s.step (.classify 0) = some
        ({ s with solo := { s.solo with watcher := { s.alone.watcher with
            point := .judging s.alone.watcher.scanner.certChange (0 < fastFailureWindow) } }
           }.setReaders s.current { s.readers s.current with
            drain := .classified (s.readers s.current).scanner.certChange }, []) := by
      simp [Supervised.step, Readers.step, soloStep, Watcher.step, Supervised.alone, hpoint, hdrain]
    exact .step (.classify 0) trivial hstep (.here ⟨_, _, rfl⟩)
  | cons stream left ih =>
    have hstep : s.step .timeout = some
        (s.setReaders s.current { s.readers s.current with drain := .joining left },
          [.abandoned s.current stream]) := by
      simp [Supervised.step, hpoint, hdrain]
    exact .step .timeout trivial hstep (ih hpoint (by simp))

/-- Seen without its readers, a session is the watcher alone, which is fed lines at any time and
drained in one step; and the readers hold the watcher up for no longer than the drain's limits. -/
theorem supervised_refines (run : Run Supervised.step anyLabel (.start outputs) history s) :
    Run soloStep anyLabel .start (history.filterMap SupervisedEvent.seen) s.alone ∧
      (s.solo.watcher.point = .draining → Leads Supervised.step drains
        (fun _ t => ∃ verdict fast, t.solo.watcher.point = .judging verdict fast) history s) := by
  constructor
  · apply run.refines (Supervised.Kept outputs) Supervised.alone SupervisedEvent.seen
      supervised_kept
    intro history s label t out hs _ hstep
    refine ((Supervised.step_moves hstep).refines hs.unread).imp id ?_
    rintro ⟨label', hlabel⟩
    exact ⟨label', trivial, hlabel⟩
  · intro hpoint
    have hdrain := (supervised_kept run).drain
    rw [hpoint] at hdrain
    obtain ⟨left, hleft⟩ := hdrain
    exact supervised_drains hpoint hleft

def exitLabels : List SupervisedLabel :=
  [.solo (.watch .pollStop), .solo (.watch (.exits false)), .solo (.watch .pollChild)]

/-- It has written nothing, and neither pipe is closed. -/
theorem supervised_refines_wedged :
    ∃ history s, Run Supervised.step anyLabel (.start fun _ _ => []) history s ∧
      s.solo.watcher.point = .draining ∧ (∀ stream, (s.readers 0).reader stream = .reading []) ∧
      Leads Supervised.step drains
        (fun _ t => ∃ verdict fast, t.solo.watcher.point = .judging verdict fast) history s := by
  obtain ⟨history, s, hexec, hpoint, hreaders⟩ : ∃ history s,
      exec Supervised.step (fun _ _ _ => true) [] (.start fun _ _ => []) exitLabels =
        some (history, s) ∧ s.solo.watcher.point = .draining ∧
        ∀ stream, (s.readers 0).reader stream = .reading [] :=
    ⟨_, _, rfl, rfl, fun _ => rfl⟩
  have run := exec_run (fun _ _ _ _ => trivial) .refl hexec
  exact ⟨history, s, run, hpoint, hreaders, (supervised_refines run).2 hpoint⟩

/-! ## The dialog -/

def WatcherEvent.judges : WatcherEvent → Bool
  | .judged _ _ | .dialog _ => true
  | _ => false

private theorem Watcher.judge_events (w : Watcher) (verdict : Option String) (fast : Bool)
    (seen : ServiceState) :
    (w.judge verdict fast seen).2 = .judged seen verdict ::
      if seen = .starting then verdict.toList.map .dialog else [] := by
  unfold Watcher.judge
  split
  · rename_i hretry
    obtain ⟨_, rfl, _⟩ := classifyExit_retry hretry
    simp
  · rename_i digest hprompt
    obtain ⟨hseen, rfl⟩ := classifyExit_promptCert hprompt
    obtain rfl : seen = .starting := by simpa using hseen
    simp
  · rename_i hfail
    cases verdict with
    | none => simp
    | some digest =>
      have hseen : seen ≠ .starting := by
        rintro rfl
        simp [classifyExit] at hfail
      simp [hseen]

private theorem Watcher.step_judges {w v : Watcher} {act : Act} {out : List WatcherEvent}
    {e : WatcherEvent} (h : w.step act = some (v, out)) (he : e ∈ out) (hjudges : e.judges = true) :
    ∃ verdict fast seen, w.point = .judging verdict fast ∧
      out = (w.judge verdict fast seen).2 := by
  cases act with
  | judge seen =>
    simp only [Watcher.step] at h
    split at h
    · rename_i verdict fast hpoint
      exact ⟨verdict, fast, seen, hpoint, (congrArg Prod.snd (Option.some.inj h)).symm⟩
    · cases h
  | _ => cases Watcher.step_moves h <;> simp_all [WatcherEvent.judges]

private theorem soloStep_judges {solo solo' : Solo} {label : SoloLabel} {events : List SoloEvent}
    {e : WatcherEvent} (h : soloStep solo label = some (solo', events))
    (he : .watcher e ∈ events) (hjudges : e.judges = true) :
    ∃ verdict fast seen, solo.watcher.point = .judging verdict fast ∧
      events = (solo.watcher.judge verdict fast seen).2.map .watcher := by
  cases label with
  | watch act =>
    obtain ⟨⟨w, out⟩, hstep, hnext⟩ := Option.map_eq_some_iff.mp h
    cases hnext
    obtain ⟨verdict, fast, seen, hpoint, rfl⟩ :=
      Watcher.step_judges hstep (by simpa using he) hjudges
    exact ⟨verdict, fast, seen, hpoint, rfl⟩
  | stop => grind [soloStep, Watcher.send]
  | stopReturns | stopLimit | drop => grind [soloStep]

def verdictEvents (seen : ServiceState) (verdict : Option String) : List SupervisedEvent :=
  .solo (.watcher (.judged seen verdict)) ::
    if seen = .starting then verdict.toList.map fun digest => .solo (.watcher (.dialog digest))
    else []

private theorem verdictEvents_dialog {seen : ServiceState} {verdict : Option String}
    {digest : String} {pre post : List SupervisedEvent}
    (h : pre ++ .solo (.watcher (.dialog digest)) :: post = verdictEvents seen verdict) :
    pre = [.solo (.watcher (.judged seen verdict))] ∧ verdict = some digest := by
  unfold verdictEvents at h
  cases pre with
  | nil => simp at h
  | cons first pre =>
    obtain ⟨rfl, hrest⟩ := List.cons.inj h
    split at hrest
    · cases verdict with
      | none => simp at hrest
      | some shown => cases pre <;> simp_all
    · simp at hrest

private theorem verdictEvents_judged {seen : ServiceState} {verdict verdict' : Option String}
    {pre post : List SupervisedEvent}
    (h : pre ++ .solo (.watcher (.judged .starting verdict)) :: post =
      verdictEvents seen verdict') :
    pre = [] ∧ verdict' = verdict ∧ post = verdict.toList.map fun digest =>
      .solo (.watcher (.dialog digest)) := by
  unfold verdictEvents at h
  cases pre with
  | nil =>
    obtain ⟨hfirst, hpost⟩ := List.cons.inj h
    cases hfirst
    exact ⟨rfl, rfl, hpost⟩
  | cons first pre =>
    have hrest := (List.cons.inj h).2
    split at hrest
    · cases verdict' <;> cases pre <;> simp at hrest
    · simp at hrest

private theorem Supervised.Moves.judges (h : s.Moves t out) {e : WatcherEvent}
    (he : .solo (.watcher e) ∈ out) (hjudges : e.judges = true) :
    ∃ verdict fast seen, s.solo.watcher.point = .judging verdict fast ∧
      out = verdictEvents seen verdict := by
  have hevents : ∀ {label solo events}, soloStep s.alone label = some (solo, events) →
      .watcher e ∈ events → ∃ verdict fast seen, s.solo.watcher.point = .judging verdict fast ∧
        events.map SupervisedEvent.solo = verdictEvents seen verdict := by
    intro label solo events hsolo he
    obtain ⟨verdict, fast, seen, hpoint, rfl⟩ := soloStep_judges hsolo he hjudges
    refine ⟨verdict, fast, seen, hpoint, ?_⟩
    rw [Watcher.judge_events, verdictEvents]
    split <;> simp
  cases h with
  | turn | join => cases he
  | timeout => simp at he
  | classify _ hsolo | respawn hsolo | exits hsolo | solo _ _ _ hsolo =>
    exact hevents hsolo (by simpa using he)

def Prints (output : Stream → List UInt8) (p : String → Prop) : Prop :=
  ∃ stream, ∃ line ∈ validLines (output stream), p line

/-- The dialog is about the crosswire that has just died, whatever readers of earlier ones still
run: that one has printed the rejection and the digest. And a rejection during a connect leads to
the dialog, if all loggers were awaited and no line was garbled. -/
theorem dialog_ownOutput (run : Run Supervised.step anyLabel (.start outputs) history s) :
    (∀ before digest after, history = before ++ .solo (.watcher (.dialog digest)) :: after →
      Prints (outputs (relaunches before)) Rejects ∧
        Prints (outputs (relaunches before)) (Presents · digest)) ∧
    ∀ before verdict after,
      history = before ++ .solo (.watcher (.judged .starting verdict)) :: after →
      (∀ stream, .abandoned (relaunches before) stream ∉ before) →
      (∀ stream, ¬ LosesLines (outputs (relaunches before) stream)) →
      Prints (outputs (relaunches before)) Rejects →
      Prints (outputs (relaunches before)) ShowsDigest →
      ∃ digest rest, after = .solo (.watcher (.dialog digest)) :: rest := by
  constructor
  · intro before digest after hsplit
    obtain ⟨past, u, label, v, pre, post, hpast, _, hstep, rfl⟩ := run.emitted hsplit
    have hkept := supervised_kept hpast
    obtain ⟨verdict, fast, seen, hpoint, hout⟩ :=
      (Supervised.step_moves hstep).judges (e := .dialog digest) (by simp) rfl
    obtain ⟨rfl, rfl⟩ := verdictEvents_dialog hout
    have hdrain := hkept.drain
    rw [hpoint, hkept.current] at hdrain
    obtain ⟨fed, hreaders, _⟩ := hkept.reached (relaunches past)
    have hsame : relaunches (past ++ [.solo (.watcher (.judged seen (some digest)))]) =
        relaunches past := by
      simp [relaunches]
    rw [hsame]
    exact classified_printed hreaders hdrain
  · intro before verdict after hsplit htimely hlines hrejects hshows
    obtain ⟨past, u, label, v, pre, post, later, hpast, _, hstep, rfl, rfl⟩ :=
      run.emitted_between hsplit
    have hkept := supervised_kept hpast
    obtain ⟨verdict', fast, seen, hpoint, hout⟩ :=
      (Supervised.step_moves hstep).judges (e := .judged .starting verdict) (by simp) rfl
    obtain ⟨rfl, rfl, rfl⟩ := verdictEvents_judged hout
    rw [List.append_nil] at htimely hlines hrejects hshows
    have hdrain := hkept.drain
    rw [hpoint, hkept.current] at hdrain
    obtain ⟨fed, _, hreaders⟩ := hkept.reached (relaunches past)
    obtain ⟨digest, rfl⟩ := Option.ne_none_iff_exists'.mp
      (classified_detects (hreaders htimely) hdrain hlines hrejects hshows)
    exact ⟨digest, later, rfl⟩

end Refinement

def newDigest : String := "e34e0d64da8ad0f6cb47a66e6bc9100a2d6ac3636455e12e89dd8663e0f5cf96"

/-- The first crosswire's standard output, with a digest of its own, stays open and is read late. -/
def lateOutputs : Nat → Stream → List UInt8
  | 0, .stdout => ("digest: " ++ String.ofList (List.replicate 64 '0') ++ "\n").toUTF8.toList
  | 0, .stderr => "Error: gateway timeout\n".toUTF8.toList
  | _, .stdout => ("sha256 digest: " ++ newDigest ++ "\n").toUTF8.toList
  | _, .stderr => "Error: gateway certificate not trusted\n".toUTF8.toList

def lateLabels : List SupervisedLabel :=
  exitLabels ++ [.timeout, .turn 0 .stderr, .turn 0 .stderr, .join, .classify 0] ++
    [Act.judge .starting, .pollStop, .pollSleep true, .respawn true, .feed].map
      (fun act => .solo (.watch act)) ++
    [.turn 0 .stdout, .turn 1 .stdout, .turn 1 .stderr, .turn 1 .stdout, .turn 1 .stderr] ++
    exitLabels ++ [.join, .join, .classify 0, .solo (.watch (.judge .starting))]

def lateHistory : List SupervisedEvent :=
  [.solo (.watcher (.exited false)), .abandoned 0 .stdout,
    .solo (.watcher (.judged .starting none)), .solo (.watcher (.launch true)),
    .solo (.watcher (.exited false)), .solo (.watcher (.judged .starting (some newDigest)))]

/-- The late digest of the first crosswire takes no part in the verdict on the second. -/
theorem dialog_ownOutput_late :
    ∃ s, Run Supervised.step anyLabel (.start lateOutputs)
        (lateHistory ++ [.solo (.watcher (.dialog newDigest))]) s ∧
      Prints (lateOutputs 1) Rejects ∧ Prints (lateOutputs 1) (Presents · newDigest) := by
  have hexec : (exec Supervised.step (fun _ _ _ => true) [] (.start lateOutputs) lateLabels).map
      Prod.fst = some (lateHistory ++ [.solo (.watcher (.dialog newDigest))]) := by decide +kernel
  obtain ⟨⟨history, s⟩, hrun, rfl⟩ := Option.map_eq_some_iff.mp hexec
  have run := exec_run (fun _ _ _ _ => trivial) .refl hrun
  exact ⟨s, run, (dialog_ownOutput run).1 lateHistory newDigest [] rfl⟩

end CrosswireNm.Service
