import CrosswireNm.Library.Text
import Mathlib.Data.List.Forall2
import Mathlib.Data.List.Induction

/-!
# Whose desktop a dialog may open on

The sessions and their properties are read from what `loginctl` prints.
-/

namespace CrosswireNm.Service

open CrosswireNm.Library

structure Output where
  success : Bool
  stdout : List Char
  deriving DecidableEq, Repr

structure SessionProps where
  active : Bool := false
  remote : Bool := false
  graphical : Bool := false
  uid : Option Nat := none
  deriving DecidableEq, Repr

def graphicalTypes : List (List Char) := ["wayland".toList, "x11".toList, "mir".toList]

def SessionProps.set (props : SessionProps) (key val : List Char) : SessionProps :=
  if key = "Active".toList then { props with active := val = "yes".toList }
  else if key = "Remote".toList then { props with remote := val = "yes".toList }
  else if key = "Type".toList then { props with graphical := val ∈ graphicalTypes }
  else if key = "User".toList then { props with uid := parseU32 (trim val) }
  else props

def SessionProps.observe (props : SessionProps) (line : List Char) : SessionProps :=
  match splitOnce '=' line with
  | none => props
  | some (key, val) => props.set key val

def parseGraphicalSessionUid (text : List Char) : Option Nat :=
  let props := (lines text).foldl SessionProps.observe {}
  if props.active && !props.remote && props.graphical then props.uid else none

/-- The loop over the listed sessions; `showSession` is told how many sessions it was asked about
before, since a session may have changed in between. -/
def firstGraphicalUid (showSession : Nat → List Char → Option Output) :
    Nat → List (List Char) → Option Nat
  | _, [] => none
  | asked, line :: rest =>
    match firstWord line with
    | none => firstGraphicalUid showSession asked rest
    | some id =>
      match showSession asked id with
      | none => none
      | some answer =>
        match if answer.success then parseGraphicalSessionUid answer.stdout else none with
        | some uid => some uid
        | none => firstGraphicalUid showSession (asked + 1) rest

def activeGraphicalUid (listSessions : Option Output)
    (showSession : Nat → List Char → Option Output) : Option Nat :=
  match listSessions with
  | none => none
  | some list => if list.success then firstGraphicalUid showSession 0 (lines list.stdout) else none

def listed (list : Output) : List (List Char) :=
  if list.success then (lines list.stdout).filterMap firstWord else []

def properties (answer : Output) : List (List Char × List Char) :=
  (lines answer.stdout).filterMap (splitOnce '=')

def answers (list : Output) (answer : Nat → List Char → Output) : List Output :=
  (listed list).mapIdx answer

/-- An answer about an active, local and graphical session of a user; what is given more than
once counts as given last. -/
structure Qualifies (answer : Output) (uid : Nat) : Prop where
  success : answer.success = true
  active : lastValue (properties answer) "Active".toList = some "yes".toList
  remote : lastValue (properties answer) "Remote".toList ≠ some "yes".toList
  graphical : ∃ type ∈ graphicalTypes, lastValue (properties answer) "Type".toList = some type
  user : ∃ val, lastValue (properties answer) "User".toList = some val ∧
    parseU32 (trim val) = some uid

/-- The same properties in another order, none of them given twice. -/
structure Reordered (answer answer' : Output) : Prop where
  success : answer.success = answer'.success
  lines : (lines answer.stdout).Perm (lines answer'.stdout)
  keys : ((properties answer).map Prod.fst).Nodup

def SessionProps.ofLast (pairs : List (List Char × List Char)) : SessionProps :=
  { active := lastValue pairs "Active".toList = some "yes".toList
    remote := lastValue pairs "Remote".toList = some "yes".toList
    graphical := ((lastValue pairs "Type".toList).any (· ∈ graphicalTypes))
    uid := (lastValue pairs "User".toList).bind fun val => parseU32 (trim val) }

private theorem ofLast_append (pairs : List (List Char × List Char)) (key val : List Char) :
    SessionProps.ofLast (pairs ++ [(key, val)]) = (SessionProps.ofLast pairs).set key val := by
  unfold SessionProps.ofLast SessionProps.set
  simp only [lastValue_append]
  by_cases hactive : key = "Active".toList
  · have hremote : ¬ key = "Remote".toList := by rw [hactive]; decide
    have htype : ¬ key = "Type".toList := by rw [hactive]; decide
    have huser : ¬ key = "User".toList := by rw [hactive]; decide
    simp only [if_pos hactive, if_neg hremote, if_neg htype, if_neg huser, Option.some.injEq]
  by_cases hremote : key = "Remote".toList
  · have htype : ¬ key = "Type".toList := by rw [hremote]; decide
    have huser : ¬ key = "User".toList := by rw [hremote]; decide
    simp only [if_neg hactive, if_pos hremote, if_neg htype, if_neg huser, Option.some.injEq]
  by_cases htype : key = "Type".toList
  · have huser : ¬ key = "User".toList := by rw [htype]; decide
    simp only [if_neg hactive, if_neg hremote, if_pos htype, if_neg huser, Option.any_some]
  by_cases huser : key = "User".toList
  · simp only [if_neg hactive, if_neg hremote, if_neg htype, if_pos huser, Option.bind_some]
  · simp only [if_neg hactive, if_neg hremote, if_neg htype, if_neg huser]

private theorem foldl_set (pairs : List (List Char × List Char)) :
    pairs.foldl (fun props pair => props.set pair.1 pair.2) {} = SessionProps.ofLast pairs := by
  induction pairs using List.reverseRecOn with
  | nil => rfl
  | append_singleton pairs pair ih =>
    rw [List.foldl_append, ih, List.foldl_cons, List.foldl_nil, ← ofLast_append]

private theorem foldl_properties (answer : Output) :
    (lines answer.stdout).foldl SessionProps.observe {} =
      SessionProps.ofLast (properties answer) := by
  rw [← foldl_set, properties, List.foldl_filterMap]
  congr 1
  funext props line
  unfold SessionProps.observe
  cases splitOnce '=' line <;> rfl

def answerUid (answer : Output) : Option Nat :=
  if answer.success then parseGraphicalSessionUid answer.stdout else none

theorem answerUid_eq_some {answer : Output} {uid : Nat} :
    answerUid answer = some uid ↔ Qualifies answer uid := by
  unfold answerUid parseGraphicalSessionUid
  dsimp only
  rw [foldl_properties]
  have hgraphical : (SessionProps.ofLast (properties answer)).graphical = true ↔
      ∃ type ∈ graphicalTypes, lastValue (properties answer) "Type".toList = some type := by
    unfold SessionProps.ofLast
    rw [Option.any_eq_true]
    constructor
    · rintro ⟨type, htype, hmem⟩
      exact ⟨type, of_decide_eq_true hmem, htype⟩
    · rintro ⟨type, hmem, htype⟩
      exact ⟨type, htype, decide_eq_true hmem⟩
  have huser : (SessionProps.ofLast (properties answer)).uid = some uid ↔
      ∃ val, lastValue (properties answer) "User".toList = some val ∧
        parseU32 (trim val) = some uid := Option.bind_eq_some_iff
  constructor
  · intro h
    split at h
    · rename_i hsuccess
      split at h
      · rename_i hprops
        simp only [Bool.and_eq_true, Bool.not_eq_true'] at hprops
        obtain ⟨⟨hactive, hremote⟩, htype⟩ := hprops
        exact ⟨hsuccess, of_decide_eq_true hactive, of_decide_eq_false hremote,
          hgraphical.mp htype, huser.mp h⟩
      · cases h
    · cases h
  · intro h
    have hprops : (SessionProps.ofLast (properties answer)).active = true ∧
        (SessionProps.ofLast (properties answer)).remote = false :=
      ⟨decide_eq_true h.active, decide_eq_false h.remote⟩
    rw [if_pos h.success, hprops.1, hprops.2, hgraphical.mpr h.graphical]
    exact huser.mpr h.user

theorem answerUid_eq_none {answer : Output} :
    answerUid answer = none ↔ ∀ uid, ¬ Qualifies answer uid := by
  rw [Option.eq_none_iff_forall_ne_some]
  simp only [ne_eq, answerUid_eq_some]

private theorem answerUid_reordered {answer answer' : Output} (h : Reordered answer answer') :
    answerUid answer = answerUid answer' := by
  have hlast : ∀ key, lastValue (properties answer) key = lastValue (properties answer') key :=
    lastValue_perm (h.lines.filterMap _) h.keys
  apply Option.ext
  intro uid
  rw [answerUid_eq_some, answerUid_eq_some]
  constructor
  · rintro ⟨hsuccess, hactive, hremote, htype, huser⟩
    simp only [hlast] at hactive hremote htype huser
    exact ⟨h.success ▸ hsuccess, hactive, hremote, htype, huser⟩
  · rintro ⟨hsuccess, hactive, hremote, htype, huser⟩
    simp only [← hlast] at hactive hremote htype huser
    exact ⟨h.success ▸ hsuccess, hactive, hremote, htype, huser⟩

private theorem findSome_reordered {given given' : List Output}
    (h : List.Forall₂ (fun answer answer' => answer' = answer ∨ Reordered answer answer')
      given given') : given.findSome? answerUid = given'.findSome? answerUid := by
  induction h with
  | nil => rfl
  | cons hanswer _ ih =>
    rw [List.findSome?_cons, List.findSome?_cons, ih]
    rcases hanswer with rfl | hreordered
    · rfl
    · rw [answerUid_reordered hreordered]

section Loop

variable (list : Output) (answer : Nat → List Char → Output)

private theorem firstGraphicalUid_eq (text : List (List Char)) (asked : Nat) :
    firstGraphicalUid (fun k id => some (answer k id)) asked text =
      ((text.filterMap firstWord).mapIdx fun k id => answer (k + asked) id).findSome?
        answerUid := by
  induction text generalizing asked with
  | nil => rfl
  | cons line rest ih =>
    cases hword : firstWord line with
    | none =>
      rw [List.filterMap_cons_none hword, ← ih]
      simp only [firstGraphicalUid, hword]
    | some id =>
      have hshift : (fun k id => answer (k + 1 + asked) id) =
          fun k id => answer (k + (asked + 1)) id := by
        funext k id
        congr 1
        omega
      rw [List.filterMap_cons_some hword, List.mapIdx_cons, List.findSome?_cons, Nat.zero_add,
        hshift, ← ih]
      simp only [firstGraphicalUid, hword]
      change (match answerUid (answer asked id) with
        | some uid => some uid
        | none => _) = _
      cases answerUid (answer asked id) <;> rfl

theorem activeGraphicalUid_eq :
    activeGraphicalUid (some list) (fun k id => some (answer k id)) =
      (answers list answer).findSome? answerUid := by
  unfold activeGraphicalUid answers listed
  dsimp only
  by_cases hsuccess : list.success = true
  · rw [if_pos hsuccess, if_pos hsuccess, firstGraphicalUid_eq]
    rfl
  · rw [if_neg hsuccess, if_neg hsuccess]
    rfl

/-- The user of the first listed session that is active, local and graphical is found, and nobody
if there is none; the order of the properties does not matter. -/
theorem activeGraphicalUid_first :
    (∀ uid, activeGraphicalUid (some list) (fun k id => some (answer k id)) = some uid ↔
      ∃ before found after, answers list answer = before ++ found :: after ∧
        Qualifies found uid ∧ ∀ passed ∈ before, ∀ other, ¬ Qualifies passed other) ∧
    (activeGraphicalUid (some list) (fun k id => some (answer k id)) = none ↔
      ∀ passed ∈ answers list answer, ∀ other, ¬ Qualifies passed other) ∧
    ∀ answer' : Nat → List Char → Output,
      List.Forall₂ (fun given given' => given' = given ∨ Reordered given given')
        (answers list answer) (answers list answer') →
      activeGraphicalUid (some list) (fun k id => some (answer' k id)) =
        activeGraphicalUid (some list) (fun k id => some (answer k id)) := by
  refine ⟨?_, ?_, ?_⟩
  · intro uid
    rw [activeGraphicalUid_eq, List.findSome?_eq_some_iff]
    simp only [answerUid_eq_some, answerUid_eq_none]
  · rw [activeGraphicalUid_eq, List.findSome?_eq_none_iff]
    simp only [answerUid_eq_none]
  · intro answer' hreordered
    rw [activeGraphicalUid_eq, activeGraphicalUid_eq]
    exact (findSome_reordered hreordered).symm

end Loop

def twoSessions : Output := ⟨true, "   c1   42 gdm    seat0\n    3 1000 alice seat0 \n".toList⟩

def greeterAnswer : Output := ⟨true, "Active=no\nType=wayland\nUser=42\nType=tty".toList⟩

def aliceAnswer : Output := ⟨true, "User=1000\nRemote=no\nActive=yes\nType=x11\n".toList⟩

theorem activeGraphicalUid_first_alice :
    activeGraphicalUid (some twoSessions) (fun k _ =>
      some (if k = 0 then greeterAnswer
        else ⟨true, "Type=x11\nActive=yes\nUser=1000\nRemote=no\n".toList⟩)) = some 1000 := by
  obtain ⟨hfirst, _, hreordered⟩ := activeGraphicalUid_first twoSessions
    fun k _ => if k = 0 then greeterAnswer else aliceAnswer
  have halice : Reordered aliceAnswer
      ⟨true, "Type=x11\nActive=yes\nUser=1000\nRemote=no\n".toList⟩ :=
    ⟨rfl, by decide, by decide⟩
  have hgreeter : ∀ other, ¬ Qualifies greeterAnswer other := by
    intro other hqualifies
    exact absurd hqualifies.active (by decide)
  have hqualifies : Qualifies aliceAnswer 1000 :=
    ⟨rfl, by decide, by decide, ⟨"x11".toList, by decide, by decide⟩,
      ⟨"1000".toList, by decide, by decide⟩⟩
  have hanswers : answers twoSessions (fun k _ => if k = 0 then greeterAnswer else aliceAnswer) =
      [greeterAnswer, aliceAnswer] := by decide
  rw [hreordered]
  · apply (hfirst 1000).mpr
    refine ⟨[greeterAnswer], aliceAnswer, [], hanswers, hqualifies, ?_⟩
    intro passed hpassed
    rw [List.mem_singleton.mp hpassed]
    exact hgreeter
  · rw [hanswers]
    exact .cons (Or.inl rfl) (.cons (Or.inr halice) .nil)

end CrosswireNm.Service
