import CrosswireNm.Properties.Reopened
import CrosswireNm.Properties.UsableServer
import Mathlib.Data.List.Infix

/-!
# From an imported file to the next launch

The dispatcher hands a file to the first importer that recognises it. The connection it builds
opens in the editor, which stores it again, and the service launches what is stored.
-/

namespace CrosswireNm.Properties

open CrosswireNm.Library CrosswireNm.Service

structure CrosswireImporter where
  provider : String
  sniff : List Char → Bool
  parse : List Char → SettingVpn → Except String (SettingVpn × Option String)

/-- `g_strstr_len`, which looks no further than a NUL. -/
def strstrLen (data needle : List Char) : Bool :=
  decide (needle <:+: data.takeWhile (· != Char.ofNat 0))

def fortinetSniff (data : List Char) : Bool :=
  strstrLen data "<forticlient_configuration".toList

def importerFortinet (markup : List Char → Markup) : CrosswireImporter :=
  { provider := "fortinet"
    sniff := fortinetSniff
    parse := fun data sVpn => fortinetParse sVpn (markup data) }

def importedConnection (items : SettingVpn) (id : Option String) (uuid : String) : Connection :=
  fun setting =>
    if setting = "vpn" then
      some fun field =>
        if field = "data" then some (.dict (.ofPairs items))
        else if field = "service-type" then
          some (.str "org.freedesktop.NetworkManager.crosswire")
        else none
    else if setting = "connection" then
      some fun key =>
        if key = "id" then some (.str (if filled id then id.getD "" else "crosswire"))
        else if key = "type" then some (.str "vpn")
        else if key = "uuid" then some (.str uuid)
        else none
    else none

/-- `crosswire_import_from_file`, given what can be read of the file and a fresh UUID. -/
def crosswireImportFromFile (importers : List CrosswireImporter) (file : Except String (List Char))
    (uuid : String) : Except String Connection :=
  match file with
  | .error error => .error error
  | .ok data =>
    match importers.find? (·.sniff data) with
    | none => .error "unrecognised VPN config format (no matching provider importer)"
    | some imp =>
      match imp.parse data (addDataItem [] "provider" imp.provider) with
      | .error error => .error error
      | .ok (items, id) => .ok (importedConnection items id uuid)

def serverParts (server : String) : String × Option String :=
  match lastColon server.toList with
  | some (host, port) =>
    if port ≠ [] && port.all Char.isDigit then (String.ofList host, some (String.ofList port))
    else (server, none)
  | none => (server, none)

def FParse.user (p : FParse) : Option String := if p.sso then none else p.username.filter (· ≠ "")

def importedOptions (p : FParse) (secrets : Dict) : List (Opt String) :=
  (serverParts (p.server.getD "")).2.toList.map (.valued "--port") ++
    if p.sso then [.switch "--saml-login"]
    else
      p.user.toList.map (.valued "--username") ++
        (secrets "password").toList.map (.valued "--password") ++
        (secrets "otp").toList.map (.valued "--otp")

theorem applyServer_eq (sVpn : SettingVpn) (server : String) :
    applyServer sVpn server = sVpn ++ [("gateway", (serverParts server).1)] ++
      (serverParts server).2.toList.map ("port", ·) := by
  unfold applyServer serverParts addDataItem
  cases lastColon server.toList with
  | none => simp
  | some parts =>
    obtain ⟨host, port⟩ := parts
    by_cases hport : (decide (port ≠ []) && port.all Char.isDigit) = true
    · simp only [hport, if_true, Option.toList_some, List.map_cons, List.map_nil]
    · simp only [if_neg hport, Option.toList_none, List.map_nil, List.append_nil]

theorem serverParts_port_ne {server port : String} (h : (serverParts server).2 = some port) :
    port ≠ "" := by
  unfold serverParts at h
  split at h
  · rename_i host digits hcolon
    split at h
    · rename_i hport
      simp only [Bool.and_eq_true, decide_eq_true_eq] at hport
      obtain rfl := Option.some.inj h
      intro hempty
      have hnil := congrArg String.toList hempty
      rw [String.toList_ofList] at hnil
      exact hport.1 hnil
    · cases h
  · cases h

theorem applyAuth_eq (sVpn : SettingVpn) (p : FParse) :
    applyAuth sVpn p = sVpn ++ [("auth-type", if p.sso then "saml" else "password")] ++
      p.user.toList.map ("user", ·) := by
  unfold applyAuth FParse.user addDataItem
  cases p.sso with
  | true => simp
  | false =>
    cases p.username with
    | none => simp [filled]
    | some username => by_cases hempty : username = "" <;> simp [filled, hempty, Option.filter]

section Imported

variable (p : FParse)

def importedItems : SettingVpn :=
  applyAuth (applyServer [("provider", "fortinet")] (p.server.getD "")) p

private theorem importedItems_data (key : String) :
    Dict.ofPairs (importedItems p) key =
      if key = "user" then p.user
      else if key = "auth-type" then some (if p.sso then "saml" else "password")
      else if key = "port" then (serverParts (p.server.getD "")).2
      else if key = "gateway" then some (serverParts (p.server.getD "")).1
      else if key = "provider" then some "fortinet"
      else none := by
  have hoptional : ∀ (pairs : SettingVpn) (name : String) (value : Option String),
      Dict.ofPairs (pairs ++ value.toList.map (name, ·)) key =
        if key = name then value.or (Dict.ofPairs pairs key) else Dict.ofPairs pairs key := by
    rintro pairs name (_ | value)
    · simp
    · rw [Option.toList_some, List.map_singleton, Dict.ofPairs_append]
      rfl
  have hnil : Dict.ofPairs [("provider", "fortinet")] key =
      if key = "provider" then some "fortinet" else none := by
    rw [← List.nil_append [("provider", "fortinet")], Dict.ofPairs_append]
    rfl
  unfold importedItems
  rw [applyAuth_eq, applyServer_eq]
  simp only [hoptional, Dict.ofPairs_append, Dict.insert, hnil]
  grind

def importedForm : EditorForm :=
  { auth := if p.sso then 1 else 0
    gateway := (serverParts (p.server.getD "")).1
    port := (serverParts (p.server.getD "")).2.getD ""
    user := p.user.getD "" }

private theorem fill_imported (id : Option String) (uuid : String) :
    fillFromConnection {} (importedConnection (importedItems p) id uuid) = importedForm p := by
  have hopened : settingVpn (importedConnection (importedItems p) id uuid) =
      some ⟨.ofPairs (importedItems p), fun _ => none⟩ := rfl
  have hauth : comboIndex authValues (some (if p.sso then "saml" else "password")) =
      if p.sso then 1 else 0 := by
    cases p.sso <;> rfl
  unfold fillFromConnection importedForm
  rw [hopened]
  simp only [importedItems_data, String.reduceEq, if_true, if_false, hauth]
  rfl

private theorem user_ne {user : String} (h : p.user = some user) : user ≠ "" := by
  unfold FParse.user at h
  split at h
  · cases h
  · exact of_decide_eq_true (Option.filter_eq_some_iff.mp h).2

private theorem editorSetting_imported (hhost : (serverParts (p.server.getD "")).1 ≠ "") :
    editorSetting (importedForm p) = ⟨.ofPairs (importedItems p), fun _ => none⟩ := by
  have hentered : ∀ value : Option String, (∀ text, value = some text → text ≠ "") →
      entered (value.getD "") = value := by
    rintro (_ | text) hne
    · rfl
    · exact if_neg (hne text rfl)
  have hport : entered ((serverParts (p.server.getD "")).2.getD "") =
      (serverParts (p.server.getD "")).2 := hentered _ (fun text => serverParts_port_ne)
  have huser := hentered _ (fun text => user_ne p)
  have hauth : comboValue authValues (importedForm p).auth =
      if p.sso then "saml" else "password" := by
    unfold importedForm
    cases p.sso <;> rfl
  apply vpnSetting_ext
  · intro name
    rw [editorSetting_data, hauth]
    unfold importedForm
    dsimp only
    rw [importedItems_data, hport, huser,
      show entered (serverParts (p.server.getD "")).1 = _ from if_neg hhost]
    have hnone : entered "" = none := rfl
    have hfortinet : comboValue providerValues 0 = "fortinet" := rfl
    rw [hnone, hfortinet]
    grind
  · intro name
    rw [editorSetting_secrets]
    unfold importedForm
    cases p.sso with
    | true => rfl
    | false =>
      have hnone : entered "" = none := rfl
      simp [hnone]

end Imported

def CredentialsOnly (secrets : Dict) : Prop :=
  ∀ key, key ∉ ["password", "otp", "cookie"] → secrets key = none

/-- The launch of an imported connection has what the file says and the credentials, and nothing
else. -/
structure ImportedLaunch (p : FParse) (uuid : String) (secrets : Dict) (pppdPlugin dev : String)
    (launch : Launch) : Prop where
  args : Opt.read takesValue "--" launch.args =
    some (delegatedOptions pppdPlugin dev ++ importedOptions p secrets,
      [(serverParts (p.server.getD "")).1])
  stdin : launch.stdin = none
  missingSecret : launch.missingSecret =
    if p.sso = true ∨ secrets "password" ≠ none ∨ secrets "cookie" ≠ none then none
    else some "password"
  gateway : launch.gateway = some (serverParts (p.server.getD "")).1
  uuid : launch.uuid = if uuid = "" then none else some uuid

section Launched

variable {p : FParse} {secrets data : Dict} (hsecrets : CredentialsOnly secrets)
  (hdata : data = (Dict.ofPairs (importedItems p)).extend secrets)

include hsecrets hdata in
private theorem importedData (key : String) : data key =
    if key = "user" then p.user
    else if key = "auth-type" then some (if p.sso then "saml" else "password")
    else if key = "port" then (serverParts (p.server.getD "")).2
    else if key = "gateway" then some (serverParts (p.server.getD "")).1
    else if key = "provider" then some "fortinet"
    else secrets key := by
  rw [hdata, Dict.extend, importedItems_data]
  by_cases hcredential : key ∈ ["password", "otp", "cookie"]
  · simp only [List.mem_cons, List.not_mem_nil, or_false] at hcredential
    rcases hcredential with rfl | rfl | rfl <;> simp
  · rw [hsecrets key hcredential, Option.none_or]

include hsecrets hdata in
private theorem authType_imported : authType data = if p.sso then "saml" else "password" := by
  have hkey : data "auth-type" = some (if p.sso then "saml" else "password") :=
    importedData hsecrets hdata "auth-type"
  rw [authType, hkey, Option.getD_some]

include hsecrets hdata in
private theorem launchOptions_imported (pppdPlugin dev : String) :
    launchOptions pppdPlugin dev data =
      delegatedOptions pppdPlugin dev ++ importedOptions p secrets := by
  have hkey := importedData hsecrets hdata
  have hnone : ∀ key ∈ ["realm", "trusted-cert", "ca-file", "insecure-ssl"], data key = none := by
    intro key hmem
    rw [hkey]
    simp only [List.mem_cons, List.not_mem_nil, or_false] at hmem
    rcases hmem with rfl | rfl | rfl | rfl <;> exact hsecrets _ (by decide)
  have hrealm := hnone "realm" (by decide)
  have hcert := hnone "trusted-cert" (by decide)
  have hca := hnone "ca-file" (by decide)
  have hinsecure := hnone "insecure-ssl" (by decide)
  have hport : data "port" = (serverParts (p.server.getD "")).2 := hkey "port"
  have huser : data "user" = p.user := hkey "user"
  have hpassword : data "password" = secrets "password" := hkey "password"
  have hotp : data "otp" = secrets "otp" := hkey "otp"
  have hauth := authType_imported hsecrets hdata
  have hserver : serverOptions data =
      (serverParts (p.server.getD "")).2.toList.map (.valued "--port") := by
    simp [serverOptions, hport, hrealm]
  have hpins : pinOptions data = [] := by simp [pinOptions, pinned, hcert]
  have htrust : trustOptions data = [] := by simp [trustOptions, hca, hinsecure]
  have hcredentials : authOptions data =
      if p.sso then [.switch "--saml-login"]
      else
        p.user.toList.map (.valued "--username") ++
          (secrets "password").toList.map (.valued "--password") ++
          (secrets "otp").toList.map (.valued "--otp") := by
    unfold authOptions authClass
    rw [hauth, huser, hpassword, hotp]
    cases p.sso <;> rfl
  unfold launchOptions importedOptions
  rw [hserver, hpins, htrust, hcredentials]
  simp only [List.append_nil, List.append_assoc]

include hsecrets hdata in
private theorem missingSecret_imported : missingSecret data =
    if p.sso = true ∨ secrets "password" ≠ none ∨ secrets "cookie" ≠ none then none
    else some "password" := by
  have hkey := importedData hsecrets hdata
  have hauth := authType_imported hsecrets hdata
  have hpassword : data "password" = secrets "password" := hkey "password"
  have hcookie : data "cookie" = secrets "cookie" := hkey "cookie"
  unfold missingSecret
  rw [hauth, hpassword, hcookie]
  cases p.sso with
  | true => simp
  | false => cases secrets "password" <;> cases secrets "cookie" <;> simp

private theorem importedLaunch {conn : Connection} {uuid : String}
    (hconn : vpnData conn = data)
    (huuid : connectionUuid conn = if uuid = "" then none else some uuid)
    (hsecrets : CredentialsOnly secrets)
    (hdata : data = (Dict.ofPairs (importedItems p)).extend secrets)
    (hhost : (serverParts (p.server.getD "")).1 ≠ "") (pppdPlugin dev : String) :
    ImportedLaunch p uuid secrets pppdPlugin dev (mapConnection conn pppdPlugin dev false) := by
  have hgateway : hostOf data = (serverParts (p.server.getD "")).1 := by
    have hkey : data "gateway" = some (serverParts (p.server.getD "")).1 :=
      importedData hsecrets hdata "gateway"
    rw [hostOf, hkey, Option.getD_some]
  have hauth := authType_imported hsecrets hdata
  constructor
  · rw [mapConnection_read, hconn, hgateway, launchOptions_imported hsecrets hdata]
  · rw [mapConnection_stdin, hconn]
    unfold authStdin
    rw [hauth]
    cases p.sso <;> rfl
  · rw [mapConnection_missingSecret, hconn, missingSecret_imported hsecrets hdata]
  · show (if hostOf (vpnData conn) = "" then none else some (hostOf (vpnData conn))) = _
    rw [hconn, hgateway, if_neg hhost]
  · exact huuid

end Launched

private theorem crosswireImportFromFile_ok {markup : List Char → Markup}
    {file : Except String (List Char)} {uuid : String} {conn : Connection}
    (h : crosswireImportFromFile [importerFortinet markup] file uuid = .ok conn) :
    ∃ data p, file = .ok data ∧ fortinetSniff data = true ∧
      p = (markup data).callbacks.foldl parserStep {} ∧
      conn = importedConnection (importedItems p) p.outId uuid := by
  unfold crosswireImportFromFile at h
  split at h
  · cases h
  · rename_i data
    split at h
    · cases h
    · rename_i imp himp
      obtain ⟨hsniff, hmem⟩ := And.intro (List.find?_some himp) (List.mem_of_find?_eq_some himp)
      obtain rfl := List.mem_singleton.mp hmem
      split at h
      · cases h
      · rename_i items id hparse
        refine ⟨data, _, rfl, hsniff, rfl, ?_⟩
        change fortinetParse [("provider", "fortinet")] (markup data) = .ok (items, id) at hparse
        unfold fortinetParse at hparse
        dsimp only at hparse
        split at hparse
        · cases hparse
        · split at hparse
          · obtain ⟨rfl, rfl⟩ := Prod.mk.inj (Except.ok.inj hparse)
            exact (Except.ok.inj h).symm
          · cases hparse

private theorem outId_name (p : FParse) :
    (if filled p.outId then p.outId.getD "" else "crosswire") = p.outId.getD "crosswire" := by
  have hfilled : ∀ id, p.outId = some id → filled (some id) = true := by
    intro id hid
    unfold FParse.outId at hid
    split at hid
    · rename_i hname
      exact hid ▸ hname
    · split at hid
      · rename_i hdescription
        exact hid ▸ hdescription
      · cases hid
  cases hid : p.outId with
  | none => rfl
  | some id => rw [if_pos (hfilled id hid), Option.getD_some, Option.getD_some]

/-- A file that is recognised and imported has a name and opens in the editor. Saving it there loses
nothing: what is stored is what was imported, and a `Connect` with its credentials launches
crosswire with the host and the port of the server, SSO or the user name, and the credentials. Only
a server without a host is imported and then refused. -/
theorem imported_launch {markup : List Char → Markup} {file : Except String (List Char)}
    {uuid : String} {conn : Connection}
    (h : crosswireImportFromFile [importerFortinet markup] file uuid = .ok conn) :
    ∃ data p, file = .ok data ∧ fortinetSniff data = true ∧
      p = (markup data).callbacks.foldl parserStep {} ∧
      ((conn "connection").bind fun setting => setting "id") =
        some (.str (p.outId.getD "crosswire")) ∧
      (((serverParts (p.server.getD "")).1 = "" ∧
          updateConnection (fillFromConnection {} conn) conn =
            .error "a gateway host is required") ∨
        ((serverParts (p.server.getD "")).1 ≠ "" ∧ ∃ saved,
          updateConnection (fillFromConnection {} conn) conn = .ok saved ∧
          settingVpn saved = settingVpn conn ∧
          ∀ secrets, CredentialsOnly secrets → ∀ pppdPlugin dev,
            ImportedLaunch p uuid secrets pppdPlugin dev
              (mapConnection (withSecrets saved secrets) pppdPlugin dev false))) := by
  obtain ⟨data, p, rfl, hsniff, hp, rfl⟩ := crosswireImportFromFile_ok h
  have hid : ((importedConnection (importedItems p) p.outId uuid "connection").bind
      fun setting => setting "id") = some (.str (p.outId.getD "crosswire")) := by
    rw [← outId_name]
    rfl
  refine ⟨data, p, rfl, hsniff, hp, hid, ?_⟩
  rw [fill_imported]
  by_cases hhost : (serverParts (p.server.getD "")).1 = ""
  · left
    refine ⟨hhost, ?_⟩
    have hnone : (editorSetting (importedForm p)).data "gateway" = none := by
      rw [editorSetting_data]
      exact if_pos hhost
    simp [updateConnection, hnone]
  · right
    have hsetting := editorSetting_imported p hhost
    have hgiven : ((editorSetting (importedForm p)).data "gateway").isNone = false := by
      rw [hsetting]
      simp [importedItems_data]
    refine ⟨hhost, withSetting (importedConnection (importedItems p) p.outId uuid)
      (editorSetting (importedForm p)), ?_, ?_, ?_⟩
    · simp [updateConnection, hgiven]
    · show some (editorSetting (importedForm p)) = _
      rw [hsetting]
      rfl
    · intro secrets hsecrets pppdPlugin dev
      refine importedLaunch ?_ rfl hsecrets rfl hhost pppdPlugin dev
      show (editorSetting (importedForm p)).data.extend secrets = _
      rw [hsetting]

theorem imported_launch_complete :
    ∃ conn data p, p = (Markup.mk completeFile.callbacks none).callbacks.foldl parserStep {} ∧
      crosswireImportFromFile [importerFortinet fun _ => ⟨completeFile.callbacks, none⟩]
        (.ok data) "2f0c1d2e" = .ok conn ∧
      (((serverParts (p.server.getD "")).1 = "" ∧
          updateConnection (fillFromConnection {} conn) conn =
            .error "a gateway host is required") ∨
        ((serverParts (p.server.getD "")).1 ≠ "" ∧ ∃ saved,
          updateConnection (fillFromConnection {} conn) conn = .ok saved ∧
          settingVpn saved = settingVpn conn ∧
          ∀ secrets, CredentialsOnly secrets → ∀ pppdPlugin dev,
            ImportedLaunch p "2f0c1d2e" secrets pppdPlugin dev
              (mapConnection (withSecrets saved secrets) pppdPlugin dev false))) := by
  have hfile : crosswireImportFromFile [importerFortinet fun _ => ⟨completeFile.callbacks, none⟩]
      (.ok "<forticlient_configuration>".toList) "2f0c1d2e" =
      .ok (importedConnection [("provider", "fortinet"), ("gateway", "vpn.example"),
        ("port", "10443"), ("auth-type", "password"), ("user", "alice")] (some "Work")
        "2f0c1d2e") := by
    have hsniff : fortinetSniff "<forticlient_configuration>".toList = true := by decide +kernel
    have hparse : fortinetParse [("provider", "fortinet")] ⟨completeFile.callbacks, none⟩ =
        .ok ([("provider", "fortinet"), ("gateway", "vpn.example"), ("port", "10443"),
          ("auth-type", "password"), ("user", "alice")], some "Work") := by decide +kernel
    have hitems : addDataItem [] "provider" "fortinet" = [("provider", "fortinet")] := rfl
    simp only [crosswireImportFromFile, importerFortinet, List.find?_cons, hsniff, hitems, hparse]
  obtain ⟨_, p, hdata, _, hp, _, hlaunch⟩ := imported_launch hfile
  exact ⟨_, _, p, hp, hfile, hlaunch⟩

end CrosswireNm.Properties
