import CrosswireNm.Service.GraphicalSession
import CrosswireNm.Service.UserSession

/-!
# Opening the dialog for the person at the keyboard

The sessions `loginctl` lists say whose desktop the dialog belongs on, the passwd database what
that user is called.
-/

namespace CrosswireNm.Service

open CrosswireNm.Library

/-- What the commands print that look for a session and its user, and what is installed. -/
structure Machine where
  listSessions : Option Output
  showSession : Nat → List Char → Option Output
  getent : Nat → Option Output
  idNu : Nat → Option Output
  path : Option (List Char)
  isFile : List Char → Bool
  /-- Whether a command could be started and came back with success. -/
  succeeds : List String → Bool

def successText (output : Option Output) : Option (List Char) :=
  (output.filter (·.success)).map (·.stdout)

/-- `uid_name`: the passwd entry's first field, and `id -nu` where there is none. -/
def Machine.uidName (machine : Machine) (uid : Nat) : Option String :=
  match ((successText (machine.getent uid)).map (·.takeWhile (· != ':'))).filter (· != []) with
  | some name => some (String.ofList name)
  | none =>
    (((successText (machine.idNu uid)).map trim).filter (· != [])).map String.ofList

def joinPath (dir name : List Char) : List Char :=
  if dir = [] || dir.getLast? = some '/' then dir ++ name else dir ++ '/' :: name

def Machine.commandExists (machine : Machine) (name : String) : Bool :=
  match machine.path with
  | some path => (path.splitOnP (· == ':')).any fun dir => machine.isFile (joinPath dir name.toList)
  | none => false

def Machine.sessionHost (machine : Machine) : SessionHost :=
  { activeGraphicalUid := activeGraphicalUid machine.listSessions machine.showSession
    uidName := machine.uidName
    commandExists := machine.commandExists
    succeeds := machine.succeeds }

def promptArgs (uuid gateway : Option String) (digest : String) : List String :=
  ["--digest", digest] ++
    (match gateway with
    | some g => ["--gateway", g]
    | none => []) ++
    match uuid with
    | some u => ["--uuid", u]
    | none => []

/-- `prompt_cert_trust`: the commands it runs, and whether a dialog was opened. -/
def promptCertTrust (machine : Machine) (certDialog : String) (uuid gateway : Option String)
    (digest : String) : List (List String) × Bool :=
  spawnInUserSession machine.sessionHost certDialog (promptArgs uuid gateway digest)

/-- The first listed session that is active, local and graphical is this user's. -/
def AtKeyboard (list : Output) (answer : Nat → List Char → Output) (uid : Nat) : Prop :=
  ∃ before found after, answers list answer = before ++ found :: after ∧
    Qualifies found uid ∧ ∀ passed ∈ before, ∀ other, ¬ Qualifies passed other

def RunsAs (user : String) (command : List String) : Prop :=
  (∃ rest, command = "systemd-run" :: "--quiet" :: "--user" :: "--machine" ::
    (user ++ "@.host") :: "--" :: rest) ∨
  ∃ line, command = ["su", user, "-c", line]

theorem spawnInUserSession_runsAs {host : SessionHost} {program : String} {args : List String}
    {command : List String} (h : command ∈ (spawnInUserSession host program args).1) :
    ∃ uid user, host.activeGraphicalUid = some uid ∧ host.uidName uid = some user ∧
      RunsAs user command := by
  unfold spawnInUserSession at h
  cases huser : host.activeGraphicalUid.bind host.uidName with
  | none => simp [huser] at h
  | some user =>
    obtain ⟨uid, huid, hname⟩ := Option.bind_eq_some_iff.mp huser
    refine ⟨uid, user, huid, hname, ?_⟩
    have hsystemd : ∀ rest, RunsAs user (["systemd-run", "--quiet", "--user", "--machine",
        user ++ "@.host", "--"] ++ rest) := fun rest => Or.inl ⟨rest, rfl⟩
    simp only [huser] at h
    split at h
    · split at h
      · rw [List.mem_singleton.mp h]
        exact hsystemd _
      · rcases List.mem_pair.mp h with rfl | rfl
        · exact hsystemd _
        · exact Or.inr ⟨_, rfl⟩
    · rw [List.mem_singleton.mp h]
      exact Or.inr ⟨_, rfl⟩

theorem spawnInUserSession_opened (host : SessionHost) (program : String) (args : List String) :
    (spawnInUserSession host program args).2 = true ↔
      ∃ command ∈ (spawnInUserSession host program args).1, host.succeeds command = true := by
  unfold spawnInUserSession
  cases host.activeGraphicalUid.bind host.uidName with
  | none => simp
  | some user =>
    dsimp only
    generalize ["systemd-run", "--quiet", "--user", "--machine", user ++ "@.host", "--"] ++
      program :: args = systemdRun
    by_cases hexists : host.commandExists "systemd-run" = true
    · by_cases hstarted : host.succeeds systemdRun = true
      · simp [hexists, hstarted]
      · simp [hexists, hstarted]
    · simp [hexists]

section Recipient

variable {machine : Machine} {list : Output} {answer : Nat → List Char → Output}

private theorem sessionHost_atKeyboard (hlist : machine.listSessions = some list)
    (hshow : machine.showSession = fun k id => some (answer k id)) {uid : Nat} :
    machine.sessionHost.activeGraphicalUid = some uid ↔ AtKeyboard list answer uid := by
  unfold Machine.sessionHost AtKeyboard
  dsimp only
  rw [hlist, hshow, activeGraphicalUid_eq, List.findSome?_eq_some_iff]
  simp only [answerUid_eq_some, answerUid_eq_none]

/-- Whatever is run for a dialog is run as the user of the first session that is active, local and
graphical, and what is run is what decides whether the dialog counts as opened. With no such
session, or a user without a name, nothing is run. -/
theorem promptCertTrust_atKeyboard (hlist : machine.listSessions = some list)
    (hshow : machine.showSession = fun k id => some (answer k id)) (certDialog : String)
    (uuid gateway : Option String) (digest : String) :
    (∀ command ∈ (promptCertTrust machine certDialog uuid gateway digest).1,
      ∃ uid user, AtKeyboard list answer uid ∧ machine.uidName uid = some user ∧
        RunsAs user command) ∧
    ((promptCertTrust machine certDialog uuid gateway digest).2 = true ↔
      ∃ command ∈ (promptCertTrust machine certDialog uuid gateway digest).1,
        machine.succeeds command = true) ∧
    ((promptCertTrust machine certDialog uuid gateway digest).1 = [] ↔
      ∀ uid, AtKeyboard list answer uid → machine.uidName uid = none) := by
  refine ⟨?_, spawnInUserSession_opened _ _ _, ?_⟩
  · intro command hcommand
    obtain ⟨uid, user, huid, hname, hruns⟩ := spawnInUserSession_runsAs hcommand
    exact ⟨uid, user, (sessionHost_atKeyboard hlist hshow).mp huid, hname, hruns⟩
  · simp only [← sessionHost_atKeyboard hlist hshow]
    unfold promptCertTrust spawnInUserSession
    cases huid : machine.sessionHost.activeGraphicalUid with
    | none => simp
    | some uid =>
      have hname : machine.sessionHost.uidName uid = machine.uidName uid := rfl
      cases huser : machine.uidName uid with
      | none => simp [hname, huser]
      | some user =>
        simp only [Option.bind_some, hname, huser, Option.some.injEq, forall_eq', reduceCtorEq,
          iff_false]
        split
        · split <;> simp
        · simp

end Recipient

def aliceMachine : Machine :=
  { listSessions := some twoSessions
    showSession := fun k _ => some (if k = 0 then greeterAnswer else aliceAnswer)
    getent := fun _ => none
    idNu := fun uid => if uid = 1000 then some ⟨true, "alice\n".toList⟩ else none
    path := some "/sbin:/usr/bin".toList
    isFile := fun file => file = "/usr/bin/systemd-run".toList
    succeeds := fun command => command.head? = some "su" }

/-- `systemd-run` is found and fails, and `su` opens the dialog, both for the user. -/
theorem promptCertTrust_atKeyboard_alice :
    promptCertTrust aliceMachine "/lib/dialog" none none "ab" =
      ([["systemd-run", "--quiet", "--user", "--machine", "alice@.host", "--", "/lib/dialog",
          "--digest", "ab"],
        ["su", "alice", "-c", "'/lib/dialog' '--digest' 'ab'"]], true) ∧
    (∃ command ∈ (promptCertTrust aliceMachine "/lib/dialog" none none "ab").1,
      aliceMachine.succeeds command = true) ∧
    (∀ command ∈ (promptCertTrust aliceMachine "/lib/dialog" none none "ab").1,
      ∃ uid user, AtKeyboard twoSessions
          (fun k _ => if k = 0 then greeterAnswer else aliceAnswer) uid ∧
        aliceMachine.uidName uid = some user ∧ RunsAs user command) ∧
    ∃ uid, AtKeyboard twoSessions (fun k _ => if k = 0 then greeterAnswer else aliceAnswer) uid ∧
      aliceMachine.uidName uid ≠ none := by
  obtain ⟨hruns, hopened, hnothing⟩ := @promptCertTrust_atKeyboard aliceMachine twoSessions
    (fun k _ => if k = 0 then greeterAnswer else aliceAnswer) rfl rfl "/lib/dialog" none none "ab"
  have hprompt : promptCertTrust aliceMachine "/lib/dialog" none none "ab" =
      ([["systemd-run", "--quiet", "--user", "--machine", "alice@.host", "--", "/lib/dialog",
          "--digest", "ab"],
        ["su", "alice", "-c", "'/lib/dialog' '--digest' 'ab'"]], true) := by decide +kernel
  refine ⟨hprompt, hopened.mp (by rw [hprompt]), hruns, ?_⟩
  by_contra hnobody
  push Not at hnobody
  have hnone := hnothing.mpr hnobody
  rw [hprompt] at hnone
  cases hnone

end CrosswireNm.Service
