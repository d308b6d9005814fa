import CrosswireNm.Service.CommandLine
import CrosswireNm.Service.Secrets

/-!
# The connection editor

The form is written to `vpn.data` and `vpn.secrets` under string keys; the service reads it back
from there.
-/

namespace CrosswireNm.Properties

open CrosswireNm.Service

/-- What the widgets of the editor hold: combo boxes by index, entries by text. -/
structure EditorForm where
  provider : Nat := 0
  auth : Nat := 0
  gateway : String := ""
  port : String := ""
  user : String := ""
  realm : String := ""
  caFile : String := ""
  trustedCert : String := ""
  otp : String := ""
  password : String := ""
  cookie : String := ""
  insecure : Bool := false
  deriving DecidableEq, Repr

structure VpnSetting where
  data : Dict := fun _ => none
  secrets : Dict := fun _ => none

def addIfSet (sVpn : VpnSetting) (key val : String) (secret : Bool) : VpnSetting :=
  if val = "" then sVpn
  else if secret then { sVpn with secrets := sVpn.secrets.insert key val }
  else { sVpn with data := sVpn.data.insert key val }

def providerValues : List String := ["fortinet"]

def authValues : List String := ["password", "saml", "cookie"]

def comboValue (values : List String) (i : Nat) : String :=
  (values[i]?.or values[0]?).getD ""

/-- The setting `update_connection` builds, before it looks for the gateway. -/
def editorSetting (form : EditorForm) : VpnSetting :=
  let sVpn : VpnSetting := {}
  let sVpn := addIfSet sVpn "gateway" form.gateway false
  let sVpn := addIfSet sVpn "port" form.port false
  let sVpn := addIfSet sVpn "user" form.user false
  let sVpn := addIfSet sVpn "realm" form.realm false
  let sVpn := addIfSet sVpn "ca-file" form.caFile false
  let sVpn := addIfSet sVpn "trusted-cert" form.trustedCert false
  let sVpn := { sVpn with
    data := sVpn.data.insert "provider" (comboValue providerValues form.provider) }
  let sVpn := { sVpn with data := sVpn.data.insert "auth-type" (comboValue authValues form.auth) }
  let sVpn :=
    if form.insecure then { sVpn with data := sVpn.data.insert "insecure-ssl" "yes" } else sVpn
  if form.auth = 0 then
    addIfSet (addIfSet sVpn "password" form.password true) "otp" form.otp true
  else if form.auth = 2 then addIfSet sVpn "cookie" form.cookie true
  else sVpn

/-- `nm_connection_add_setting`, and how NM hands the setting to the service. -/
def withSetting (conn : Connection) (sVpn : VpnSetting) : Connection :=
  fun setting =>
    if setting = "vpn" then
      some fun field =>
        if field = "data" then some (.dict sVpn.data)
        else if field = "secrets" then some (.dict sVpn.secrets)
        else none
    else conn setting

/-- `update_connection`: the connection to be saved, or the error shown. -/
def updateConnection (form : EditorForm) (conn : Connection) : Except String Connection :=
  let sVpn := editorSetting form
  if (sVpn.data "gateway").isNone then .error "a gateway host is required"
  else .ok (withSetting conn sVpn)

def settingVpn (conn : Connection) : Option VpnSetting :=
  (conn "vpn").map fun vpn => { data := ass vpn "data", secrets := ass vpn "secrets" }

/-- The combo index of a value; the first one when the value is missing or unknown. -/
def comboIndex (values : List String) (value : Option String) : Nat :=
  (value.bind fun value => values.findIdx? (· == value)).getD 0

/-- `fill_from_connection`: an item that is missing leaves its entry as it is. -/
def fillFromConnection (self : EditorForm) (conn : Connection) : EditorForm :=
  match settingVpn conn with
  | none => self
  | some sVpn =>
    { self with
      gateway := (sVpn.data "gateway").getD self.gateway
      port := (sVpn.data "port").getD self.port
      user := (sVpn.data "user").getD self.user
      realm := (sVpn.data "realm").getD self.realm
      caFile := (sVpn.data "ca-file").getD self.caFile
      trustedCert := (sVpn.data "trusted-cert").getD self.trustedCert
      provider := comboIndex providerValues (sVpn.data "provider")
      auth := comboIndex authValues (sVpn.data "auth-type")
      insecure := sVpn.data "insecure-ssl" = some "yes"
      password := (sVpn.secrets "password").getD self.password
      cookie := (sVpn.secrets "cookie").getD self.cookie }

def entered (text : String) : Option String := if text = "" then none else some text

def enteredAuth (form : EditorForm) : List String :=
  match form.auth with
  | 0 =>
    option "--username" (entered form.user) ++ option "--password" (entered form.password) ++
      option "--otp" (entered form.otp)
  | 1 => ["--saml-login"]
  | _ => ["--cookie-on-stdin"]

def enteredLaunch (form : EditorForm) (conn : Connection) (pppdPlugin dev : String) : Launch :=
  { args := delegatedArgs pppdPlugin dev ++ option "--port" (entered form.port) ++
      option "--realm" (entered form.realm) ++
      (pins form.trustedCert).flatMap (fun pin => ["--trusted-cert", pin]) ++
      option "--ca-file" (entered form.caFile) ++
      (if form.insecure then ["--insecure-ssl"] else []) ++ enteredAuth form ++
      ["--", form.gateway]
    stdin := if form.auth = 2 then entered form.cookie else none
    missingSecret :=
      match form.auth with
      | 0 => if form.password = "" then some "password" else none
      | 1 => none
      | _ => if form.cookie = "" then some "cookie" else none
    gateway := some form.gateway
    uuid := connectionUuid conn }

section Store

theorem addIfSet_data (sVpn : VpnSetting) (key val name : String) :
    (addIfSet sVpn key val false).data name =
      if name = key then (entered val).or (sVpn.data name) else sVpn.data name := by
  by_cases hval : val = ""
  · simp [addIfSet, entered, hval]
  · by_cases hname : name = key <;> simp [addIfSet, entered, hval, hname, Dict.insert]

theorem addIfSet_secrets (sVpn : VpnSetting) (key val name : String) :
    (addIfSet sVpn key val true).secrets name =
      if name = key then (entered val).or (sVpn.secrets name) else sVpn.secrets name := by
  by_cases hval : val = ""
  · simp [addIfSet, entered, hval]
  · by_cases hname : name = key <;> simp [addIfSet, entered, hval, hname, Dict.insert]

@[simp] theorem addIfSet_data_secret (sVpn : VpnSetting) (key val : String) :
    (addIfSet sVpn key val true).data = sVpn.data := by
  unfold addIfSet
  split <;> rfl

@[simp] theorem addIfSet_secrets_data (sVpn : VpnSetting) (key val : String) :
    (addIfSet sVpn key val false).secrets = sVpn.secrets := by
  unfold addIfSet
  split <;> rfl

end Store

theorem editorSetting_data (form : EditorForm) (name : String) :
    (editorSetting form).data name =
      if name = "insecure-ssl" then if form.insecure then some "yes" else none
      else if name = "auth-type" then some (comboValue authValues form.auth)
      else if name = "provider" then some (comboValue providerValues form.provider)
      else if name = "trusted-cert" then entered form.trustedCert
      else if name = "ca-file" then entered form.caFile
      else if name = "realm" then entered form.realm
      else if name = "user" then entered form.user
      else if name = "port" then entered form.port
      else if name = "gateway" then entered form.gateway
      else none := by
  have hcredentials : ∀ sVpn : VpnSetting,
      (if form.auth = 0 then
        addIfSet (addIfSet sVpn "password" form.password true) "otp" form.otp true
      else if form.auth = 2 then addIfSet sVpn "cookie" form.cookie true
      else sVpn).data = sVpn.data := by
    intro sVpn
    split
    · simp
    · split <;> simp
  unfold editorSetting
  simp only [hcredentials]
  cases form.insecure with
  | true =>
    simp only [if_true, Dict.insert, addIfSet_data]
    grind
  | false =>
    simp only [Bool.false_eq_true, if_false, Dict.insert, addIfSet_data]
    grind

theorem editorSetting_secrets (form : EditorForm) (name : String) :
    (editorSetting form).secrets name =
      if form.auth = 0 then
        if name = "password" then entered form.password
        else if name = "otp" then entered form.otp
        else none
      else if form.auth = 2 then if name = "cookie" then entered form.cookie else none
      else none := by
  -- nothing was stored as a secret before the credentials
  have hbefore : ∀ sVpn : VpnSetting, sVpn.secrets = (fun _ => none) →
      (if form.auth = 0 then
        addIfSet (addIfSet sVpn "password" form.password true) "otp" form.otp true
      else if form.auth = 2 then addIfSet sVpn "cookie" form.cookie true
      else sVpn).secrets name =
        if form.auth = 0 then
          if name = "password" then entered form.password
          else if name = "otp" then entered form.otp
          else none
        else if form.auth = 2 then if name = "cookie" then entered form.cookie else none
        else none := by
    intro sVpn hnone
    by_cases hpassword : form.auth = 0
    · simp only [hpassword, if_true, addIfSet_secrets, hnone]
      grind
    · by_cases hcookie : form.auth = 2
      · simp [hcookie, addIfSet_secrets, hnone]
      · simp [hpassword, hcookie, hnone]
  unfold editorSetting
  apply hbefore
  cases form.insecure <;> simp

private theorem vpnData_withSetting (conn : Connection) (sVpn : VpnSetting) :
    vpnData (withSetting conn sVpn) = sVpn.data.extend sVpn.secrets := rfl

theorem vpnData_editor {form : EditorForm} {conn : Connection} {key : String}
    (hkey : key ∉ ["password", "otp", "cookie"]) :
    vpnData (withSetting conn (editorSetting form)) key = (editorSetting form).data key := by
  have hnone : (editorSetting form).secrets key = none := by
    simp only [List.mem_cons, List.not_mem_nil, or_false, not_or] at hkey
    simp [editorSetting_secrets, hkey]
  rw [vpnData_withSetting, Dict.extend, hnone, Option.none_or]

theorem vpnData_editor_secret {form : EditorForm} {conn : Connection} {key : String}
    (hkey : key ∈ ["password", "otp", "cookie"]) :
    vpnData (withSetting conn (editorSetting form)) key = (editorSetting form).secrets key := by
  have hnone : (editorSetting form).data key = none := by
    rw [editorSetting_data]
    simp only [List.mem_cons, List.not_mem_nil, or_false] at hkey
    rcases hkey with rfl | rfl | rfl <;> rfl
  rw [vpnData_withSetting, Dict.extend, hnone, Option.or_none]

section Launch

variable (form : EditorForm) (conn : Connection)

private abbrev savedData : Dict := vpnData (withSetting conn (editorSetting form))

private theorem authType_saved :
    authType (savedData form conn) = comboValue authValues form.auth := by
  rw [authType, savedData, vpnData_editor (by decide), editorSetting_data]
  rfl

private theorem gatewayArgs_saved : gatewayArgs (savedData form conn) =
    option "--port" (entered form.port) ++ option "--realm" (entered form.realm) ++
      (pins form.trustedCert).flatMap (fun pin => ["--trusted-cert", pin]) ++
      option "--ca-file" (entered form.caFile) ++
      if form.insecure then ["--insecure-ssl"] else [] := by
  have hpins : pinArgs (entered form.trustedCert) =
      (pins form.trustedCert).flatMap (fun pin => ["--trusted-cert", pin]) := by
    unfold entered
    split
    · rename_i hempty
      rw [hempty]
      rfl
    · rfl
  unfold gatewayArgs savedData
  rw [vpnData_editor (by decide), vpnData_editor (by decide), vpnData_editor (by decide),
    vpnData_editor (by decide), vpnData_editor (by decide)]
  simp only [editorSetting_data, String.reduceEq, if_false, if_true, hpins]
  cases form.insecure <;> rfl

private theorem hostOf_saved : hostOf (savedData form conn) = form.gateway := by
  rw [hostOf, savedData, vpnData_editor (by decide), editorSetting_data]
  by_cases hgateway : form.gateway = "" <;> simp [entered, hgateway]

variable {form} in
private theorem credentials_saved (hauth : form.auth < 3) :
    authArgs (savedData form conn) = enteredAuth form ∧
      authStdin (savedData form conn) = (if form.auth = 2 then entered form.cookie else none) ∧
      missingSecret (savedData form conn) =
        match form.auth with
        | 0 => if form.password = "" then some "password" else none
        | 1 => none
        | _ => if form.cookie = "" then some "cookie" else none := by
  have htype := authType_saved form conn
  have hsecret : ∀ key ∈ ["password", "otp", "cookie"],
      savedData form conn key = (editorSetting form).secrets key :=
    fun key hkey => vpnData_editor_secret hkey
  have hpassword := hsecret "password" (by decide)
  have hotp := hsecret "otp" (by decide)
  have hcookie := hsecret "cookie" (by decide)
  rw [editorSetting_secrets] at hpassword hotp hcookie
  have huser : savedData form conn "user" = entered form.user := by
    rw [savedData, vpnData_editor (by decide), editorSetting_data]
    rfl
  obtain hchoice | hchoice | hchoice : form.auth = 0 ∨ form.auth = 1 ∨ form.auth = 2 := by omega
  · have hvalue : authType (savedData form conn) = "password" := by rw [htype, hchoice]; rfl
    simp only [hchoice, if_true, String.reduceEq, if_false] at hpassword hotp hcookie
    refine ⟨?_, ?_, ?_⟩
    · simp [authArgs, hvalue, enteredAuth, hchoice, huser, hpassword, hotp]
    · simp [authStdin, hvalue, hchoice]
    · by_cases hempty : form.password = "" <;>
        simp [missingSecret, hvalue, hchoice, hpassword, hcookie, entered, hempty]
  · have hvalue : authType (savedData form conn) = "saml" := by rw [htype, hchoice]; rfl
    simp [authArgs, authStdin, missingSecret, hvalue, enteredAuth, hchoice]
  · have hvalue : authType (savedData form conn) = "cookie" := by rw [htype, hchoice]; rfl
    simp only [hchoice, if_true, String.reduceEq, if_false] at hpassword hotp hcookie
    refine ⟨?_, ?_, ?_⟩
    · simp [authArgs, hvalue, enteredAuth, hchoice]
    · simp [authStdin, hvalue, hchoice, hcookie]
    · by_cases hempty : form.cookie = "" <;>
        simp [missingSecret, hvalue, hchoice, hcookie, entered, hempty]

end Launch

/-- The editor and the service agree: a form without a gateway is refused, and any other launches
with exactly what was entered. -/
theorem updateConnection_launch {form : EditorForm} (hauth : form.auth < 3) (conn : Connection)
    (pppdPlugin dev : String) :
    (form.gateway = "" ∧ updateConnection form conn = .error "a gateway host is required") ∨
      (form.gateway ≠ "" ∧ ∃ saved, updateConnection form conn = .ok saved ∧
        mapConnection saved pppdPlugin dev false = enteredLaunch form conn pppdPlugin dev) := by
  have hgateway : (editorSetting form).data "gateway" = entered form.gateway := by
    rw [editorSetting_data]
    rfl
  by_cases hempty : form.gateway = ""
  · left
    refine ⟨hempty, ?_⟩
    simp [updateConnection, hgateway, entered, hempty]
  · right
    refine ⟨hempty, withSetting conn (editorSetting form), ?_, ?_⟩
    · simp [updateConnection, hgateway, entered, hempty]
    · obtain ⟨hargs, hstdin, hmissing⟩ := credentials_saved conn hauth
      have hhost := hostOf_saved form conn
      have huuid : connectionUuid (withSetting conn (editorSetting form)) =
          connectionUuid conn := rfl
      simp only [savedData] at hargs hstdin hmissing hhost
      simp only [mapConnection, Bool.false_eq_true, if_false, hargs, hstdin, hmissing, hhost,
        hempty, huuid, enteredLaunch, Launch.mk.injEq, and_true]
      have hargs' := gatewayArgs_saved form conn
      simp only [savedData] at hargs'
      simp only [hargs', List.append_assoc]

def leftoverForm : EditorForm :=
  { auth := 2, gateway := "gw", trustedCert := "a, b", password := "old", cookie := "c" }

theorem updateConnection_launch_leftover :
    (leftoverForm.gateway = "" ∧
      updateConnection leftoverForm (fun _ => none) = .error "a gateway host is required") ∨
    (leftoverForm.gateway ≠ "" ∧ ∃ saved,
      updateConnection leftoverForm (fun _ => none) = .ok saved ∧
      mapConnection saved "/lib/pppd/nm.so" "ppp0" false =
        enteredLaunch leftoverForm (fun _ => none) "/lib/pppd/nm.so" "ppp0") :=
  updateConnection_launch (by decide) _ _ _

end CrosswireNm.Properties
