import CrosswireNm.Library.ShellWords

/-!
# Launching a helper in the user's session

Without a systemd user manager the helper is started through `su -c`, whose argument a shell
splits again.
-/

namespace CrosswireNm.Service

open CrosswireNm.Library

def shellSingleQuote (s : String) : String :=
  let out := s.toList.foldl
    (fun out c => if c = '\'' then out ++ "'\\''".toList else out ++ [c]) ['\'']
  String.ofList (out ++ ['\''])

def suCommandLine (program : String) (args : List String) : String :=
  " ".intercalate ((program :: args).map shellSingleQuote)

/-- What `spawn_in_user_session` finds out about the machine it runs on. -/
structure SessionHost where
  activeGraphicalUid : Option Nat
  uidName : Nat → Option String
  commandExists : String → Bool
  /-- Whether a command could be started and came back with success. -/
  succeeds : List String → Bool

def spawnInUserSession (host : SessionHost) (program : String) (args : List String) :
    List (List String) × Bool :=
  match host.activeGraphicalUid.bind host.uidName with
  | none => ([], false)
  | some user =>
    let systemdRun := ["systemd-run", "--quiet", "--user", "--machine", user ++ "@.host", "--"] ++
      program :: args
    let su := ["su", user, "-c", suCommandLine program args]
    if host.commandExists "systemd-run" then
      if host.succeeds systemdRun then ([systemdRun], true)
      else ([systemdRun, su], host.succeeds su)
    else ([su], host.succeeds su)

private theorem toList_shellSingleQuote (s : String) :
    (shellSingleQuote s).toList = '\'' :: (quoteBody s.toList ++ ['\'']) := by
  have hfold : ∀ (text out : List Char), text.foldl
      (fun out c => if c = '\'' then out ++ "'\\''".toList else out ++ [c]) out =
      out ++ quoteBody text := by
    intro text
    induction text with
    | nil =>
      intro out
      exact (List.append_nil out).symm
    | cons c text ih =>
      intro out
      have hcons : quoteBody (c :: text) =
          (if c = '\'' then ['\'', '\\', '\'', '\''] else [c]) ++ quoteBody text := rfl
      rw [List.foldl_cons, ih, hcons, ← List.append_assoc]
      split <;> rfl
  unfold shellSingleQuote
  rw [String.toList_ofList, hfold]
  rfl

/-- A shell reads the program and its arguments back, each as one word that is quoted throughout;
nothing in them acts as an operator, an expansion or a comment. -/
theorem suCommandLine_words (program : String) (args : List String) :
    shellSplit (suCommandLine program args).toList =
      some ((program :: args).map fun arg => { text := arg.toList }) := by
  have hline : (suCommandLine program args).toList = [' '].intercalate
      (((program :: args).map String.toList).map
        fun text => '\'' :: (quoteBody text ++ ['\''])) := by
    unfold suCommandLine
    rw [String.toList_intercalate, List.map_map, List.map_map]
    congr 1
    apply List.map_congr_left
    intro arg _
    exact toList_shellSingleQuote arg
  rw [hline, shellSplit_quoted, List.map_map]
  rfl

private theorem spawnInUserSession_su {host : SessionHost} {program user line : String}
    {args : List String}
    (h : ["su", user, "-c", line] ∈ (spawnInUserSession host program args).1) :
    line = suCommandLine program args := by
  unfold spawnInUserSession at h
  cases huser : host.activeGraphicalUid.bind host.uidName with
  | none => simp [huser] at h
  | some user' =>
    have hsu : ∀ {commands : List (List String)}, ["su", user, "-c", line] ∈ commands →
        (∀ command ∈ commands, command.head? = some "systemd-run" ∨
          command = ["su", user', "-c", suCommandLine program args]) →
        line = suCommandLine program args := by
      intro commands hmem hall
      rcases hall _ hmem with hhead | hcommand
      · exact absurd hhead (by simp)
      · simp only [List.cons.injEq] at hcommand
        exact hcommand.2.2.2.1
    apply hsu h
    simp only [huser]
    split
    · split <;> simp
    · simp

/-- The `su` fallback cannot be injected into: whatever the program and the arguments are, the
shell that `su` starts finds exactly them, one quoted word each. -/
theorem spawnInUserSession_words (host : SessionHost) (program : String) (args : List String)
    {user line : String}
    (h : ["su", user, "-c", line] ∈ (spawnInUserSession host program args).1) :
    shellSplit line.toList =
      some ((program :: args).map fun arg => { text := arg.toList, bare := false }) := by
  rw [spawnInUserSession_su h]
  exact suCommandLine_words program args

/-- A host without systemd, and a gateway that tries to start a command of its own. -/
theorem spawnInUserSession_words_hostile :
    shellSplit (suCommandLine "dialog" ["--gateway", "'; reboot '", ""]).toList =
      some (["dialog", "--gateway", "'; reboot '", ""].map
        fun arg => { text := arg.toList, bare := false }) :=
  spawnInUserSession_words
    { activeGraphicalUid := some 1000
      uidName := fun _ => some "alice"
      commandExists := fun _ => false
      succeeds := fun _ => true } "dialog" ["--gateway", "'; reboot '", ""]
    (List.mem_singleton_self ["su", "alice", "-c", _])

end CrosswireNm.Service
