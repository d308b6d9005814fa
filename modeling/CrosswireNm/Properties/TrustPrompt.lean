import CrosswireNm.Properties.CertDialog
import CrosswireNm.Service.Prompt

/-!
# From a changed certificate to the next launch

The service starts the dialog with the digest it scanned; the dialog asks, and on consent pins the
digest and activates the connection again. What it commits is what the next `Connect` maps.
-/

namespace CrosswireNm.Properties

open CrosswireNm.Library CrosswireNm.Service

structure DialogOptions where
  uuid : Option String
  gateway : Option String
  digest : Option String
  deriving DecidableEq, Repr

def optionNames : List (List Char) := ["uuid".toList, "gateway".toList, "digest".toList]

/-- `entries`, as `gtk_init_with_args` fills them in; of an option given twice the last counts. -/
def parseOptions (args : List String) : Option DialogOptions :=
  (readNamed optionNames (args.map String.toList)).map fun pairs =>
    let value := fun name : String => (lastValue pairs name.toList).map String.ofList
    { uuid := value "uuid", gateway := value "gateway", digest := value "digest" }

inductive DialogEffect
  | ask (gateway digest : String)
  | commit (uuid : String) (conn : Connection)
  | activate (uuid : String)
  | showError (primary detail : String)
  | printError (message : String)

/-- The desktop the dialog runs on: NetworkManager's client, and what the user answers. -/
structure Desk where
  /-- why `nm_client_new` fails, if it does -/
  clientError : Option String
  connection : String → Option Connection
  /-- why the commit fails, if it does -/
  commitError : String → Connection → Option String
  trusts : String → String → Bool

def given (opt : Option String) : Option String := opt.filter (· != "")

def Desk.trustAndReconnect (desk : Desk) (uuid digest : String) :
    Except String (List DialogEffect) :=
  match desk.clientError with
  | some message => .error message
  | none =>
    match desk.connection uuid with
    | none => .error ("connection " ++ uuid ++ " not found")
    | some conn =>
      match Properties.trustAndReconnect conn digest with
      | none => .error ("connection " ++ uuid ++ " has no VPN setting")
      | some conn' =>
        match desk.commitError uuid conn' with
        | some message => .error message
        | none => .ok [.commit uuid conn', .activate uuid]

def DialogOptions.host (opts : DialogOptions) : String :=
  (given opts.gateway).getD "the VPN gateway"

/-- The dialog's `main`: the exit code and what it did. -/
def certDialogMain (opts : Except String DialogOptions) (desk : Desk) :
    Nat × List DialogEffect :=
  match opts with
  | .error message => (1, [.printError message])
  | .ok opts =>
    match given opts.digest with
    | none => (1, [.printError "no --digest given; nothing to trust"])
    | some digest =>
      if desk.trusts opts.host digest then
        match given opts.uuid with
        | none =>
          (1, [.ask opts.host digest, .showError "Cannot trust this certificate"
            "The connection to update was not identified (missing UUID)."])
        | some uuid =>
          match desk.trustAndReconnect uuid digest with
          | .error message =>
            (1, [.ask opts.host digest, .showError "Could not update the connection" message])
          | .ok effects => (0, .ask opts.host digest :: effects)
      else (2, [.ask opts.host digest])

/-- The connection as it was, but for one data item of its VPN setting. -/
structure RepinnedTo (digest : String) (conn conn' : Connection) : Prop where
  settings : ∀ setting, setting ≠ "vpn" → conn' setting = conn setting
  vpn : ∃ vpn vpn', conn "vpn" = some vpn ∧ conn' "vpn" = some vpn' ∧
    (∀ field, field ≠ "data" → vpn' field = vpn field) ∧
    ass vpn' "data" = (ass vpn "data").insert "trusted-cert" digest

theorem trustAndReconnect_repins {conn conn' : Connection} {digest : String}
    (h : trustAndReconnect conn digest = some conn') : RepinnedTo digest conn conn' := by
  obtain ⟨vpn, hvpn, rfl⟩ := Option.map_eq_some_iff.mp h
  refine ⟨fun setting hsetting => if_neg hsetting, vpn, withDataItem vpn "trusted-cert" digest,
    hvpn, if_pos rfl, ?_, rfl⟩
  intro field hfield
  exact if_neg hfield

/-- The user agreed to this digest for this connection. -/
structure Consented (opts : DialogOptions) (desk : Desk) (uuid digest : String) : Prop where
  names : opts.uuid = some uuid ∧ uuid ≠ ""
  presents : opts.digest = some digest ∧ digest ≠ ""
  trusts : desk.trusts opts.host digest = true

private theorem given_eq_some {opt : Option String} {text : String} :
    given opt = some text ↔ opt = some text ∧ text ≠ "" := by
  unfold given
  rw [Option.filter_eq_some_iff, bne_iff_ne]

private theorem trustAndReconnect_ok {desk : Desk} {uuid digest : String}
    {effects : List DialogEffect} (h : desk.trustAndReconnect uuid digest = .ok effects) :
    ∃ conn conn', desk.connection uuid = some conn ∧
      Properties.trustAndReconnect conn digest = some conn' ∧
      effects = [.commit uuid conn', .activate uuid] := by
  unfold Desk.trustAndReconnect at h
  split at h
  · cases h
  · split at h
    · cases h
    · rename_i conn hconn
      split at h
      · cases h
      · rename_i conn' hconn'
        split at h
        · cases h
        · exact ⟨conn, conn', hconn, hconn', (Except.ok.inj h).symm⟩

def DialogEffect.Tells : DialogEffect → Prop
  | .commit _ _ | .activate _ => False
  | _ => True

/-- A run of the dialog either commits one re-pinned connection, which the user agreed to, and
activates it, with exit code 0; or it changes nothing, with exit code 2 if the user declined and 1
otherwise. -/
theorem certDialogMain_commits (opts : Except String DialogOptions) (desk : Desk) :
    (∃ asked uuid digest conn conn', opts = .ok asked ∧ Consented asked desk uuid digest ∧
      desk.connection uuid = some conn ∧ RepinnedTo digest conn conn' ∧
      certDialogMain opts desk =
        (0, [.ask asked.host digest, .commit uuid conn', .activate uuid])) ∨
    (((certDialogMain opts desk).1 = 1 ∨ (certDialogMain opts desk).1 = 2) ∧
      (∀ effect ∈ (certDialogMain opts desk).2, effect.Tells) ∧
      ((certDialogMain opts desk).1 = 2 ↔ ∃ asked digest, opts = .ok asked ∧
        asked.digest = some digest ∧ digest ≠ "" ∧ desk.trusts asked.host digest = false)) := by
  cases opts with
  | error message =>
    right
    simp [certDialogMain, DialogEffect.Tells]
  | ok opts =>
    cases hdigest : given opts.digest with
    | none =>
      right
      have hnone : ∀ digest, opts.digest = some digest → digest = "" := by
        intro digest hsome
        by_contra hne
        rw [given_eq_some.mpr ⟨hsome, hne⟩] at hdigest
        cases hdigest
      refine ⟨by simp [certDialogMain, hdigest], by simp [certDialogMain, hdigest,
        DialogEffect.Tells], ?_⟩
      simp only [certDialogMain, hdigest]
      constructor
      · intro h
        cases h
      · rintro ⟨_, digest, hopts, hsome, hne, _⟩
        cases hopts
        exact absurd (hnone digest hsome) hne
    | some digest =>
      obtain ⟨hsome, hne⟩ := given_eq_some.mp hdigest
      have hdeclined : (∃ asked digest, Except.ok (ε := String) opts = .ok asked ∧
          asked.digest = some digest ∧ digest ≠ "" ∧ desk.trusts asked.host digest = false) ↔
          desk.trusts opts.host digest = false := by
        constructor
        · rintro ⟨_, digest', hopts, hsome', _, htrusts⟩
          cases hopts
          rw [hsome] at hsome'
          rwa [Option.some.inj hsome']
        · intro htrusts
          exact ⟨opts, digest, rfl, hsome, hne, htrusts⟩
      rw [hdeclined]
      cases htrusts : desk.trusts opts.host digest with
      | false =>
        right
        simp [certDialogMain, hdigest, htrusts, DialogEffect.Tells]
      | true =>
        cases huuid : given opts.uuid with
        | none =>
          right
          simp [certDialogMain, hdigest, htrusts, huuid, DialogEffect.Tells]
        | some uuid =>
          cases htrust : desk.trustAndReconnect uuid digest with
          | error message =>
            right
            simp [certDialogMain, hdigest, htrusts, huuid, htrust, DialogEffect.Tells]
          | ok effects =>
            left
            obtain ⟨conn, conn', hconn, hstore, rfl⟩ := trustAndReconnect_ok htrust
            refine ⟨opts, uuid, digest, conn, conn', rfl, ?_, hconn,
              trustAndReconnect_repins hstore, ?_⟩
            · exact ⟨given_eq_some.mp huuid, ⟨hsome, hne⟩, htrusts⟩
            · simp [certDialogMain, hdigest, htrusts, huuid, htrust]

/-- The arguments a program is started with: by the user's systemd manager, which expands
environment variables in them, or by the shell of `su -c`. -/
def received (expand : String → List String) : List String → Option (List String)
  | ["su", _, "-c", line] =>
    (shellSplit line.toList).map fun words => words.map fun word => String.ofList word.text
  | command =>
    match command.dropWhile (· != "--") with
    | _ :: program :: args => some (program :: args.flatMap expand)
    | _ => none

private theorem received_su {expand : String → List String} (user program : String)
    (args : List String) :
    received expand ["su", user, "-c", suCommandLine program args] = some (program :: args) := by
  have hwords : (program :: args).map (fun arg => String.ofList arg.toList) = program :: args := by
    simp
  show (shellSplit (suCommandLine program args).toList).map _ = _
  rw [suCommandLine_words, Option.map_some, List.map_map]
  exact congrArg some hwords

private theorem received_systemdRun {expand : String → List String} (user program : String)
    {args : List String} (hexpand : ∀ arg ∈ args, expand arg = [arg]) :
    received expand ("systemd-run" :: "--quiet" :: "--user" :: "--machine" ::
      (user ++ "@.host") :: "--" :: program :: args) = some (program :: args) := by
  have huser : (user ++ "@.host" != "--") = true := by
    rw [bne_iff_ne]
    intro heq
    have hlength := congrArg (fun text => text.toList.length) heq
    simp at hlength
  have hargs : args.flatMap expand = args := by
    clear huser
    induction args with
    | nil => rfl
    | cons arg args ih =>
      rw [List.flatMap_cons, hexpand arg List.mem_cons_self,
        ih (fun arg harg => hexpand arg (List.mem_cons_of_mem _ harg))]
      rfl
  show (match List.dropWhile (· != "--") _ with
    | _ :: program :: args => some (program :: args.flatMap expand)
    | _ => none) = _
  rw [List.dropWhile_cons_of_pos (by decide), List.dropWhile_cons_of_pos (by decide),
    List.dropWhile_cons_of_pos (by decide), List.dropWhile_cons_of_pos (by decide),
    List.dropWhile_cons_of_pos (by exact huser), List.dropWhile_cons_of_neg (by decide)]
  simp only [hargs]

private theorem received_prompt {machine : Machine} {certDialog digest : String}
    {uuid gateway : Option String} {command : List String} {expand : String → List String}
    (hcommand : command ∈ (promptCertTrust machine certDialog uuid gateway digest).1)
    (hexpand : command.head? = some "systemd-run" →
      ∀ arg ∈ promptArgs uuid gateway digest, expand arg = [arg]) :
    received expand command = some (certDialog :: promptArgs uuid gateway digest) := by
  unfold promptCertTrust spawnInUserSession at hcommand
  cases huser : machine.sessionHost.activeGraphicalUid.bind machine.sessionHost.uidName with
  | none => simp [huser] at hcommand
  | some user =>
    simp only [huser] at hcommand
    split at hcommand
    · split at hcommand
      · rw [List.mem_singleton.mp hcommand] at hexpand ⊢
        exact received_systemdRun user certDialog (hexpand rfl)
      · rcases List.mem_pair.mp hcommand with rfl | rfl
        · exact received_systemdRun user certDialog (hexpand rfl)
        · exact received_su user certDialog _
    · rw [List.mem_singleton.mp hcommand]
      exact received_su user certDialog _

def promptPairs (uuid gateway : Option String) (digest : String) :
    List (List Char × List Char) :=
  ("digest".toList, digest.toList) :: (gateway.toList.map fun g => ("gateway".toList, g.toList)) ++
    uuid.toList.map fun u => ("uuid".toList, u.toList)

private theorem promptPairs_values (uuid gateway : Option String) (digest : String) :
    lastValue (promptPairs uuid gateway digest) "uuid".toList = uuid.map String.toList ∧
      lastValue (promptPairs uuid gateway digest) "gateway".toList = gateway.map String.toList ∧
      lastValue (promptPairs uuid gateway digest) "digest".toList = some digest.toList := by
  cases gateway <;> cases uuid <;> exact ⟨rfl, rfl, rfl⟩

private theorem parseOptions_promptArgs (uuid gateway : Option String) (digest : String) :
    parseOptions (promptArgs uuid gateway digest) = some ⟨uuid, gateway, some digest⟩ := by
  have hargs : (promptArgs uuid gateway digest).map String.toList =
      (promptPairs uuid gateway digest).flatMap namedTokens := by
    cases gateway <;> cases uuid <;> rfl
  have hnamed : ∀ pair ∈ promptPairs uuid gateway digest, pair.1 ∈ optionNames := by
    cases gateway <;> cases uuid <;> simp [promptPairs, optionNames]
  obtain ⟨huuid, hgateway, hdigest⟩ := promptPairs_values uuid gateway digest
  have hof : ∀ opt : Option String, (opt.map String.toList).map String.ofList = opt := by
    rintro (_ | text) <;> simp
  unfold parseOptions
  rw [hargs, readNamed_tokens (by decide) hnamed]
  simp only [Option.map_some, huuid, hgateway, hdigest, hof, String.ofList_toList]

private theorem trustAndReconnect_withSecrets {conn conn' : Connection} {digest : String}
    (h : trustAndReconnect conn digest = some conn') (secrets : Dict) :
    trustAndReconnect (withSecrets conn secrets) digest = some (withSecrets conn' secrets) := by
  obtain ⟨vpn, hvpn, rfl⟩ := Option.map_eq_some_iff.mp h
  have hfirst : withSecrets conn secrets "vpn" = some fun field =>
      if field = "secrets" then some (.dict secrets) else vpn field := by
    simp [withSecrets, hvpn]
  unfold trustAndReconnect
  rw [hfirst, Option.map_some]
  congr 1
  funext setting
  by_cases hsetting : setting = "vpn"
  · subst hsetting
    simp only [withSecrets, if_true, Option.map_some]
    congr 1
    funext field
    by_cases hdata : field = "data"
    · subst hdata
      rfl
    · simp only [withDataItem, if_neg hdata]
  · simp only [withSecrets, if_neg hsetting]

/-- The next launch differs from the one before in its pins alone: the digest has taken the place
of whatever was pinned. -/
structure NextLaunch (digest : String) (launch launch' : Launch) : Prop where
  args : ∃ (front back : List (Opt String)) (old : List String) (host : String),
    Opt.read takesValue "--" launch.args =
      some (front ++ old.map (.valued "--trusted-cert") ++ back, [host]) ∧
    Opt.read takesValue "--" launch'.args =
      some (front ++ [.valued "--trusted-cert" digest] ++ back, [host]) ∧
    Opt.values "--trusted-cert" (front ++ back) = []
  rest : launch' = { launch with args := launch'.args }

private theorem nextLaunch {conn conn' : Connection} {digest : String}
    (hdata : vpnData conn' = (vpnData conn).insert "trusted-cert" digest)
    (huuid : connectionUuid conn' = connectionUuid conn) (hpin : pins digest = [digest])
    (pppdPlugin dev : String) :
    NextLaunch digest (mapConnection conn pppdPlugin dev false)
      (mapConnection conn' pppdPlugin dev false) := by
  obtain ⟨hserver, htrust, hauth, hhost, hstdin, hmissing⟩ := frame_trusted_cert hdata
  have hpins : pinned (vpnData conn') = [digest] := by
    simp [pinned, hdata, Dict.insert, hpin]
  constructor
  · refine ⟨delegatedOptions pppdPlugin dev ++ serverOptions (vpnData conn),
      trustOptions (vpnData conn) ++ authOptions (vpnData conn), pinned (vpnData conn),
      hostOf (vpnData conn), ?_, ?_, ?_⟩
    · rw [mapConnection_read]
      simp only [launchOptions, pinOptions, List.append_assoc]
    · rw [mapConnection_read, hhost]
      simp only [launchOptions, pinOptions, hpins, hserver, htrust, hauth, List.map_cons,
        List.map_nil, List.append_assoc]
    · simp [delegatedOptions, serverOptions, values_trustOptions, values_authOptions]
  · simp only [mapConnection, hmissing, hhost, huuid, hstdin, Bool.false_eq_true, if_false]

private theorem certChange_hex {lines : List String} {digest : String}
    (h : (scan lines).certChange = some digest) :
    digest ≠ "" ∧ ∀ c ∈ digest.toList, isAsciiHexdigit c = true := by
  obtain ⟨_, before, line, after, _, ⟨_, left, right, hfirst⟩, _⟩ := (certChange_iff _ _).mp h
  constructor
  · rintro rfl
    exact absurd hfirst.passes (by decide)
  · intro c hc
    simpa using hfirst.maximal.clean c hc

private theorem connectionUuid_ne {conn : Connection} {uuid : String}
    (h : connectionUuid conn = some uuid) : uuid ≠ "" := by
  rintro rfl
  unfold connectionUuid at h
  split at h
  · split at h
    · cases h
    · rename_i hne
      exact hne (Option.some.inj h)
  · cases h

private theorem gateway_ne (conn : Connection) (pppdPlugin dev : String) :
    (mapConnection conn pppdPlugin dev false).gateway ≠ some "" := by
  show (if hostOf _ = "" then none else some (hostOf _)) ≠ some ""
  split
  · exact fun h => by cases h
  · rename_i hhost
    exact fun h => hhost (Option.some.inj h)

/-- The digest is hex, so a dollar sign can only come from the connection. -/
private theorem promptArgs_plain {uuid digest : String} {gateway : Option String}
    (hdigest : ∀ c ∈ digest.toList, isAsciiHexdigit c = true) (huuid : '$' ∉ uuid.toList)
    (hgateway : ∀ host, gateway = some host → '$' ∉ host.toList) :
    ∀ arg ∈ promptArgs (some uuid) gateway digest, '$' ∉ arg.toList := by
  intro arg harg
  unfold promptArgs at harg
  simp only [List.mem_append] at harg
  rcases harg with (harg | harg) | harg
  · rcases List.mem_pair.mp harg with rfl | rfl
    · decide
    · intro hdollar
      exact absurd (hdigest _ hdollar) (by decide)
  · split at harg
    · rcases List.mem_pair.mp harg with rfl | rfl
      · decide
      · exact hgateway _ rfl
    · cases harg
  · rcases List.mem_pair.mp harg with rfl | rfl
    · decide
    · exact huuid

/-- With consent, and nothing in the way, the dialog commits and activates. -/
private theorem certDialogMain_trusted {uuid digest : String} {gateway : Option String}
    {desk : Desk} {conn conn' : Connection} (huuid : uuid ≠ "") (hdigest : digest ≠ "")
    (hgateway : gateway ≠ some "") (hclient : desk.clientError = none)
    (hconn : desk.connection uuid = some conn) (hstore : trustAndReconnect conn digest = some conn')
    (hcommit : desk.commitError uuid conn' = none)
    (htrusts : desk.trusts (gateway.getD "the VPN gateway") digest = true) :
    certDialogMain (.ok ⟨some uuid, gateway, some digest⟩) desk =
      (0, [.ask (gateway.getD "the VPN gateway") digest, .commit uuid conn', .activate uuid]) := by
  have hhost : (DialogOptions.mk (some uuid) gateway (some digest)).host =
      gateway.getD "the VPN gateway" := by
    unfold DialogOptions.host
    cases gateway with
    | none => rfl
    | some host =>
      have hgiven : given (some host) = some host :=
        given_eq_some.mpr ⟨rfl, fun hempty => hgateway (hempty ▸ rfl)⟩
      rw [hgiven]
  have hgivenDigest : given (some digest) = some digest := given_eq_some.mpr ⟨rfl, hdigest⟩
  have hgivenUuid : given (some uuid) = some uuid := given_eq_some.mpr ⟨rfl, huuid⟩
  have htrust : desk.trustAndReconnect uuid digest =
      .ok [.commit uuid conn', .activate uuid] := by
    simp only [Desk.trustAndReconnect, hclient, hconn, hstore, hcommit]
  simp only [certDialogMain, hgivenDigest, hhost, htrusts, if_true, hgivenUuid, htrust]

/-- The whole way of a changed certificate. From a transcript that presents a digest, the service
starts the dialog; the dialog asks about that digest and the connection's gateway; if the user
trusts it, what is committed is the connection the service was asked for, and the next `Connect`
launches crosswire with that digest as its only pin and is otherwise the same. A systemd manager
must leave alone arguments without a dollar sign, and the connection has none. -/
theorem trust_nextLaunch {lines : List String} {digest uuid : String} {stored : Connection}
    {secrets : Dict} {machine : Machine} {certDialog : String} {command : List String}
    {expand : String → List String} {desk : Desk} (pppdPlugin dev : String)
    (hscan : (scan lines).certChange = some digest)
    (huuid : connectionUuid stored = some uuid) (hvpn : stored "vpn" ≠ none)
    (hsecrets : secrets "trusted-cert" = none) {launch : Launch}
    (hlaunch : launch = mapConnection (withSecrets stored secrets) pppdPlugin dev false)
    (hcommand : command ∈ (promptCertTrust machine certDialog launch.uuid launch.gateway digest).1)
    (hexpand : ∀ arg, '$' ∉ arg.toList → expand arg = [arg])
    (hplain : command.head? = some "systemd-run" → '$' ∉ uuid.toList ∧
      ∀ gateway, launch.gateway = some gateway → '$' ∉ gateway.toList)
    (hclient : desk.clientError = none) (hstored : desk.connection uuid = some stored)
    (hcommit : ∀ conn, desk.commitError uuid conn = none)
    (htrusts : desk.trusts (launch.gateway.getD "the VPN gateway") digest = true) :
    ∃ args opts stored', received expand command = some (certDialog :: args) ∧
      parseOptions args = some opts ∧
      certDialogMain (.ok opts) desk =
        (0, [.ask (launch.gateway.getD "the VPN gateway") digest, .commit uuid stored',
          .activate uuid]) ∧
      NextLaunch digest launch
        (mapConnection (withSecrets stored' secrets) pppdPlugin dev false) := by
  obtain ⟨hdigest, hhex⟩ := certChange_hex hscan
  have hsome : launch.uuid = some uuid := by
    rw [hlaunch]
    exact huuid
  rw [hsome] at hcommand
  obtain ⟨stored', hstore⟩ : ∃ stored', trustAndReconnect stored digest = some stored' := by
    unfold trustAndReconnect
    exact Option.isSome_iff_exists.mp (by simpa [Option.isSome_iff_ne_none] using hvpn)
  refine ⟨_, _, stored', ?_, parseOptions_promptArgs (some uuid) launch.gateway digest, ?_, ?_⟩
  · apply received_prompt hcommand
    intro hsystemd arg harg
    obtain ⟨hplainUuid, hplainGateway⟩ := hplain hsystemd
    exact hexpand arg (promptArgs_plain hhex hplainUuid hplainGateway arg harg)
  · have hgateway : launch.gateway ≠ some "" := hlaunch ▸ gateway_ne _ _ _
    exact certDialogMain_trusted (connectionUuid_ne huuid) hdigest hgateway hclient hstored hstore
      (hcommit _) htrusts
  · have hnext := trustAndReconnect_withSecrets hstore secrets
    have hnone : ∀ vpn, withSecrets stored secrets "vpn" = some vpn →
        ass vpn "secrets" "trusted-cert" = none := by
      intro vpn h
      obtain ⟨_, _, rfl⟩ := Option.map_eq_some_iff.mp h
      exact hsecrets
    have hsame : connectionUuid (withSecrets stored' secrets) =
        connectionUuid (withSecrets stored secrets) := by
      obtain ⟨_, _, rfl⟩ := Option.map_eq_some_iff.mp hstore
      rfl
    rw [hlaunch]
    exact nextLaunch (vpnData_trust hnone hnext) hsame (pins_certChange hscan) pppdPlugin dev

def renewed : Connection :=
  fun setting =>
    if setting = "connection" then
      some fun key => if key = "uuid" then some (.str "2f0c1d2e") else none
    else vpnConnection [("gateway", "gw"), ("trusted-cert", "old, older")] [] setting

def renewedDesk : Desk :=
  { clientError := none
    connection := fun uuid => if uuid = "2f0c1d2e" then some renewed else none
    commitError := fun _ _ => none
    trusts := fun gateway _ => gateway = "gw" }

def renewedLaunch : Launch :=
  mapConnection (withSecrets renewed (.ofPairs [("password", "--trusted-cert")]))
    "/lib/pppd/nm.so" "ppp0" false

/-- The digest comes on standard output and the rejection on standard error. -/
theorem trust_nextLaunch_renewed :
    ∃ command args opts stored',
      received (fun arg => if '$' ∈ arg.toList then [] else [arg]) command =
        some ("/usr/libexec/nm-crosswire-cert-dialog" :: args) ∧
      parseOptions args = some opts ∧
      certDialogMain (.ok opts) renewedDesk =
        (0, [.ask (renewedLaunch.gateway.getD "the VPN gateway")
            "e34e0d64da8ad0f6cb47a66e6bc9100a2d6ac3636455e12e89dd8663e0f5cf96",
          .commit "2f0c1d2e" stored', .activate "2f0c1d2e"]) ∧
      NextLaunch "e34e0d64da8ad0f6cb47a66e6bc9100a2d6ac3636455e12e89dd8663e0f5cf96" renewedLaunch
        (mapConnection (withSecrets stored' (.ofPairs [("password", "--trusted-cert")]))
          "/lib/pppd/nm.so" "ppp0" false) := by
  have hscan : (scan
      ["sha256 digest: e34e0d64da8ad0f6cb47a66e6bc9100a2d6ac3636455e12e89dd8663e0f5cf96",
        "Error: gateway certificate not trusted"]).certChange =
      some "e34e0d64da8ad0f6cb47a66e6bc9100a2d6ac3636455e12e89dd8663e0f5cf96" := by
    decide +kernel
  have hgateway : renewedLaunch.gateway = some "gw" := by decide +kernel
  have hcommand : ["systemd-run", "--quiet", "--user", "--machine", "alice@.host", "--",
      "/usr/libexec/nm-crosswire-cert-dialog", "--digest",
      "e34e0d64da8ad0f6cb47a66e6bc9100a2d6ac3636455e12e89dd8663e0f5cf96", "--gateway", "gw",
      "--uuid", "2f0c1d2e"] ∈ (promptCertTrust aliceMachine
        "/usr/libexec/nm-crosswire-cert-dialog" renewedLaunch.uuid renewedLaunch.gateway
        "e34e0d64da8ad0f6cb47a66e6bc9100a2d6ac3636455e12e89dd8663e0f5cf96").1 := by
    decide +kernel
  have hplain : '$' ∉ "2f0c1d2e".toList ∧
      ∀ gateway, renewedLaunch.gateway = some gateway → '$' ∉ gateway.toList := by
    refine ⟨by decide, ?_⟩
    intro gateway hsome
    rw [hgateway] at hsome
    rw [← Option.some.inj hsome]
    decide
  have hvpn : renewed "vpn" ≠ none := by simp [renewed, vpnConnection]
  have htrusts : renewedDesk.trusts (renewedLaunch.gateway.getD "the VPN gateway")
      "e34e0d64da8ad0f6cb47a66e6bc9100a2d6ac3636455e12e89dd8663e0f5cf96" = true := by
    rw [hgateway]
    rfl
  exact ⟨_, trust_nextLaunch "/lib/pppd/nm.so" "ppp0" hscan rfl hvpn rfl rfl hcommand
    (fun arg hplain => if_neg hplain) (fun _ => hplain) rfl rfl (fun _ => rfl) htrusts⟩

end CrosswireNm.Properties
