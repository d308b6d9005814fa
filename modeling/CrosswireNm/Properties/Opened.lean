import CrosswireNm.Properties.Import

/-!
# Opening a connection that the editor did not write

An `nmcli` or an importer may store what the form cannot show. Saving such a connection brings it
into the form's shape; here is what that costs.
-/

namespace CrosswireNm.Properties

open CrosswireNm.Library CrosswireNm.Service

section Same

variable {data data' : Dict}

private theorem launchOptions_same (h : SameSession data data') (pppdPlugin dev : String) :
    launchOptions pppdPlugin dev data = launchOptions pppdPlugin dev data' := by
  have hauth : authOptions data = authOptions data' := by
    have hcredentials := h.credentials
    unfold authOptions
    rw [← h.auth]
    cases hclass : authClass data with
    | saml => rfl
    | cookie => rfl
    | other =>
      rw [hclass] at hcredentials
      obtain ⟨huser, hpassword, hotp⟩ := hcredentials
      rw [huser, hpassword, hotp]
  have htrust : trustOptions data = trustOptions data' := by
    unfold trustOptions
    rw [h.caFile, if_congr h.insecure rfl rfl]
  unfold launchOptions serverOptions pinOptions
  rw [h.port, h.realm, h.pins, htrust, hauth]

private theorem authStdin_same (h : SameSession data data') : authStdin data = authStdin data' := by
  have hcredentials := h.credentials
  rw [authStdin_eq, authStdin_eq, ← h.auth]
  cases hclass : authClass data with
  | saml => rfl
  | cookie =>
    rw [hclass] at hcredentials
    exact hcredentials
  | other => rfl

end Same

/-- Two connections launch alike exactly if they ask for one session, lack the same secret and have
the same UUID. -/
theorem mapConnection_eq_iff (conn conn' : Connection) (pppdPlugin dev : String) :
    mapConnection conn pppdPlugin dev false = mapConnection conn' pppdPlugin dev false ↔
      SameSession (vpnData conn) (vpnData conn') ∧
        missingSecret (vpnData conn) = missingSecret (vpnData conn') ∧
        connectionUuid conn = connectionUuid conn' := by
  constructor
  · intro h
    have hread := mapConnection_read conn pppdPlugin dev
    rw [h, mapConnection_read] at hread
    have hpair := (Option.some.inj hread).symm
    have hhost := (List.cons.inj (congrArg Prod.snd hpair)).1
    have hstdin := congrArg Launch.stdin h
    have hmissing := congrArg Launch.missingSecret h
    rw [mapConnection_missingSecret, mapConnection_missingSecret] at hmissing
    exact ⟨sameSession_of_options (congrArg Prod.fst hpair) hhost hstdin, hmissing,
      congrArg Launch.uuid h⟩
  · rintro ⟨hsame, hmissing, huuid⟩
    have hargs : (mapConnection conn pppdPlugin dev false).args =
        (mapConnection conn' pppdPlugin dev false).args := by
      rw [mapConnection_args, mapConnection_args, launchOptions_same hsame, hsame.host]
    have hstdin : (mapConnection conn pppdPlugin dev false).stdin =
        (mapConnection conn' pppdPlugin dev false).stdin := authStdin_same hsame
    have hgateway : (mapConnection conn pppdPlugin dev false).gateway =
        (mapConnection conn' pppdPlugin dev false).gateway := by
      show (if hostOf _ = "" then none else some (hostOf _)) = _
      rw [hsame.host]
      rfl
    rw [Launch.mk.injEq]
    refine ⟨hargs, hstdin, ?_, hgateway, huuid⟩
    rw [mapConnection_missingSecret, mapConnection_missingSecret, hmissing]

def shown (value : Option String) : Option String := entered (value.getD "")

private theorem shown_eq_self {value : Option String} : shown value = value ↔ value ≠ some "" := by
  unfold shown entered
  cases value with
  | none => simp
  | some text => by_cases hempty : text = "" <;> simp [hempty]

def shownAuth (data : Dict) : Nat := comboIndex authValues (data "auth-type")

section Opened

variable {conn : Connection} {sVpn : VpnSetting} (hopen : settingVpn conn = some sVpn)

include hopen in
private theorem openedForm_data (key : String) :
    (editorSetting (fillFromConnection {} conn)).data key =
      if key = "insecure-ssl" then if sVpn.data key = some "yes" then some "yes" else none
      else if key = "auth-type" then some (comboValue authValues (shownAuth sVpn.data))
      else if key = "provider" then some "fortinet"
      else if key ∈ ["trusted-cert", "ca-file", "realm", "user", "port", "gateway"] then
        shown (sVpn.data key)
      else none := by
  have hprovider : ∀ i, comboValue providerValues i = "fortinet" := by
    intro i
    cases i <;> rfl
  rw [editorSetting_data]
  unfold fillFromConnection shownAuth shown
  rw [hopen]
  simp only [hprovider, decide_eq_true_eq, List.mem_cons, List.not_mem_nil, or_false]
  grind

include hopen in
private theorem openedForm_secrets (key : String) :
    (editorSetting (fillFromConnection {} conn)).secrets key =
      if shownAuth sVpn.data = 0 then
        if key = "password" then shown (sVpn.secrets "password") else none
      else if shownAuth sVpn.data = 2 then
        if key = "cookie" then shown (sVpn.secrets "cookie") else none
      else none := by
  have hotp : entered "" = none := rfl
  rw [editorSetting_secrets]
  unfold fillFromConnection shownAuth shown
  rw [hopen]
  simp only [hotp]
  grind

end Opened

private theorem missingSecret_class (data : Dict) : missingSecret data =
    match authClass data with
    | .saml => none
    | .cookie => if (data "cookie").isNone then some "cookie" else none
    | .other =>
      if (data "password").isNone && (data "cookie").isNone then some "password" else none := by
  unfold missingSecret authClass
  split
  · simp [*]
  · cases hcookie : data "cookie" <;> simp [*]
  · rename_i hsaml hcookie
    rw [if_neg hsaml, if_neg hcookie]

private theorem shownAuth_class (data : Dict) :
    (shownAuth data = 1 ∧ authClass data = .saml) ∨
      (shownAuth data = 2 ∧ authClass data = .cookie) ∨
      (shownAuth data = 0 ∧ authClass data = .other) := by
  unfold shownAuth authClass authType
  cases data "auth-type" with
  | none => exact Or.inr (Or.inr ⟨rfl, rfl⟩)
  | some auth =>
    by_cases hsaml : auth = "saml"
    · subst hsaml
      exact Or.inl ⟨rfl, rfl⟩
    · by_cases hcookie : auth = "cookie"
      · subst hcookie
        exact Or.inr (Or.inl ⟨rfl, rfl⟩)
      · right
        right
        constructor
        · by_cases hpassword : auth = "password"
          · subst hpassword
            rfl
          · have hnone : authValues.findIdx? (· == auth) = none := by
              simp [authValues, Ne.symm hsaml, Ne.symm hcookie, Ne.symm hpassword]
            show (authValues.findIdx? (· == auth)).getD 0 = 0
            rw [hnone]
            rfl
        · simp [hsaml, hcookie]

private theorem authClass_shown {data data' : Dict}
    (h : data' "auth-type" = some (comboValue authValues (shownAuth data))) :
    authClass data' = authClass data := by
  rcases shownAuth_class data with ⟨hshown, hclass⟩ | ⟨hshown, hclass⟩ | ⟨hshown, hclass⟩ <;>
    · rw [hshown] at h
      unfold authClass authType
      rw [h]
      exact hclass.symm

/-- A credential the form keeps: it is a secret, and not an empty one. -/
def Kept (data secrets : Dict) (key : String) : Prop :=
  secrets key ≠ some "" ∧ (secrets key = none → data key = none)

private theorem kept_iff (data secrets : Dict) (key : String) :
    shown (secrets key) = (secrets key).or (data key) ↔ Kept data secrets key := by
  unfold Kept
  cases hsecret : secrets key with
  | none => exact ⟨fun h => ⟨nofun, fun _ => h.symm⟩, fun h => (h.2 rfl).symm⟩
  | some text =>
    rw [Option.some_or, shown_eq_self]
    exact ⟨fun h => ⟨h, nofun⟩, fun h => h.1⟩

/-- What a connection must have for its launch to survive the form: no empty values, the
credentials of its method stored as secrets, and nothing of what the form does not show. -/
structure Survives (data secrets : Dict) : Prop where
  port : data "port" ≠ some ""
  realm : data "realm" ≠ some ""
  caFile : data "ca-file" ≠ some ""
  credentials : match authClass data with
    | .saml => True
    | .cookie => Kept data secrets "cookie"
    | .other =>
      data "user" ≠ some "" ∧ Kept data secrets "password" ∧
        data "otp" = none ∧ secrets "otp" = none ∧
        (secrets "password" = none → data "cookie" = none ∧ secrets "cookie" = none)

section Survives

variable {conn : Connection} {sVpn : VpnSetting} (hopen : settingVpn conn = some sVpn)
  (hsecrets : CredentialsOnly sVpn.secrets)

include hopen in
private theorem vpnData_opened : vpnData conn = sVpn.data.extend sVpn.secrets := by
  obtain ⟨vpn, hvpn, rfl⟩ := Option.map_eq_some_iff.mp hopen
  unfold vpnData
  rw [hvpn]
  rfl

private abbrev reopenedData (conn : Connection) : Dict :=
  vpnData (withSetting conn (editorSetting (fillFromConnection {} conn)))

include hopen in
private theorem reopenedData_item {key : String} (hkey : key ∉ ["password", "otp", "cookie"]) :
    reopenedData conn key =
      if key = "insecure-ssl" then if sVpn.data key = some "yes" then some "yes" else none
      else if key = "auth-type" then some (comboValue authValues (shownAuth sVpn.data))
      else if key = "provider" then some "fortinet"
      else if key ∈ ["trusted-cert", "ca-file", "realm", "user", "port", "gateway"] then
        shown (sVpn.data key)
      else none := by
  rw [reopenedData, vpnData_editor hkey, openedForm_data hopen]

include hopen in
private theorem reopenedData_credential {key : String}
    (hkey : key ∈ ["password", "otp", "cookie"]) :
    reopenedData conn key =
      if shownAuth sVpn.data = 0 then
        if key = "password" then shown (sVpn.secrets "password") else none
      else if shownAuth sVpn.data = 2 then
        if key = "cookie" then shown (sVpn.secrets "cookie") else none
      else none := by
  rw [reopenedData, vpnData_editor_secret hkey, openedForm_secrets hopen]

include hopen hsecrets in
private theorem vpnData_item {key : String} (hkey : key ∉ ["password", "otp", "cookie"]) :
    vpnData conn key = sVpn.data key := by
  rw [vpnData_opened hopen, Dict.extend, hsecrets key hkey, Option.none_or]

include hopen in
private theorem vpnData_credential (key : String) :
    vpnData conn key = (sVpn.secrets key).or (sVpn.data key) := by
  rw [vpnData_opened hopen]
  rfl

include hopen hsecrets in
private theorem authClass_opened : authClass (vpnData conn) = authClass sVpn.data := by
  have hkey := vpnData_item hopen hsecrets (show "auth-type" ∉ _ by decide)
  unfold authClass authType
  rw [hkey]

include hopen in
private theorem authClass_reopened : authClass (reopenedData conn) = authClass sVpn.data :=
  authClass_shown (reopenedData_item hopen (by decide))

include hopen hsecrets in
private theorem reopened_common :
    pinned (reopenedData conn) = pinned (vpnData conn) ∧
      (reopenedData conn "insecure-ssl" = some "yes" ↔
        vpnData conn "insecure-ssl" = some "yes") ∧
      hostOf (reopenedData conn) = hostOf (vpnData conn) ∧
      ∀ key ∈ ["port", "realm", "ca-file", "user"],
        (reopenedData conn key = vpnData conn key ↔ sVpn.data key ≠ some "") := by
  have hitem : ∀ key ∈ ["trusted-cert", "ca-file", "realm", "user", "port", "gateway"],
      reopenedData conn key = shown (sVpn.data key) ∧ vpnData conn key = sVpn.data key := by
    intro key hmem
    have hkey : key ∉ ["password", "otp", "cookie"] := by
      simp only [List.mem_cons, List.not_mem_nil, or_false] at hmem
      rcases hmem with rfl | rfl | rfl | rfl | rfl | rfl <;> decide
    refine ⟨?_, vpnData_item hopen hsecrets hkey⟩
    rw [reopenedData_item hopen hkey, if_pos hmem]
    simp only [List.mem_cons, List.not_mem_nil, or_false] at hmem
    rcases hmem with rfl | rfl | rfl | rfl | rfl | rfl <;> rfl
  refine ⟨?_, ?_, ?_, ?_⟩
  · obtain ⟨hcert, hcert'⟩ := hitem "trusted-cert" (by decide)
    unfold pinned
    rw [hcert, hcert']
    cases sVpn.data "trusted-cert" with
    | none => rfl
    | some cert =>
      by_cases hempty : cert = ""
      · subst hempty
        rfl
      · rw [shown_eq_self.mpr (fun h => hempty (Option.some.inj h))]
  · rw [reopenedData_item hopen (by decide), vpnData_item hopen hsecrets (by decide), if_pos rfl]
    split <;> simp [*]
  · obtain ⟨hgateway, hgateway'⟩ := hitem "gateway" (by decide)
    unfold hostOf
    rw [hgateway, hgateway', shown, entered_getD]
  · intro key hmem
    have hlisted : key ∈ ["trusted-cert", "ca-file", "realm", "user", "port", "gateway"] := by
      simp only [List.mem_cons, List.not_mem_nil, or_false] at hmem
      rcases hmem with rfl | rfl | rfl | rfl <;> decide
    rw [(hitem key hlisted).1, (hitem key hlisted).2]
    exact shown_eq_self

include hopen hsecrets in
private theorem credentials_iff :
    ((match authClass (reopenedData conn) with
      | .saml => True
      | .cookie => reopenedData conn "cookie" = vpnData conn "cookie"
      | .other =>
        reopenedData conn "user" = vpnData conn "user" ∧
          reopenedData conn "password" = vpnData conn "password" ∧
          reopenedData conn "otp" = vpnData conn "otp") ∧
      missingSecret (reopenedData conn) = missingSecret (vpnData conn)) ↔
    match authClass sVpn.data with
    | .saml => True
    | .cookie => Kept sVpn.data sVpn.secrets "cookie"
    | .other =>
      sVpn.data "user" ≠ some "" ∧ Kept sVpn.data sVpn.secrets "password" ∧
        sVpn.data "otp" = none ∧ sVpn.secrets "otp" = none ∧
        (sVpn.secrets "password" = none →
          sVpn.data "cookie" = none ∧ sVpn.secrets "cookie" = none) := by
  have hpassword := reopenedData_credential hopen (show "password" ∈ _ by decide)
  have hotp := reopenedData_credential hopen (show "otp" ∈ _ by decide)
  have hcookie := reopenedData_credential hopen (show "cookie" ∈ _ by decide)
  have hmerged := vpnData_credential hopen
  obtain ⟨_, _, _, hcommon⟩ := reopened_common hopen hsecrets
  have huser := hcommon "user" (by decide)
  rw [missingSecret_class, missingSecret_class, authClass_reopened hopen,
    authClass_opened hopen hsecrets]
  rcases shownAuth_class sVpn.data with ⟨hshown, hclass⟩ | ⟨hshown, hclass⟩ | ⟨hshown, hclass⟩
  · simp only [hclass, and_self]
  · -- the session cookie is all that counts
    simp only [hshown, if_true, String.reduceEq, if_false, Nat.reduceEqDiff] at hcookie
    simp only [hclass, ← kept_iff, hcookie, hmerged "cookie"]
    constructor
    · exact fun h => h.1
    · intro h
      rw [h]
      exact ⟨rfl, rfl⟩
  · simp only [hshown, if_true, String.reduceEq, if_false] at hpassword hotp hcookie
    simp only [hclass, ← kept_iff, huser, hpassword, hotp, hcookie, hmerged "password",
      hmerged "otp", hmerged "cookie"]
    cases hsecret : sVpn.secrets "password" with
    | some password =>
      cases hsecretOtp : sVpn.secrets "otp" <;> cases hdataOtp : sVpn.data "otp" <;>
        by_cases hempty : password = "" <;> simp [shown, entered, hempty]
    | none =>
      cases hsecretOtp : sVpn.secrets "otp" <;> cases hdataOtp : sVpn.data "otp" <;>
        cases hdata : sVpn.data "password" <;> cases hsecretCookie : sVpn.secrets "cookie" <;>
        cases hdataCookie : sVpn.data "cookie" <;> simp [shown, entered]

include hopen hsecrets in
private theorem survives_iff :
    (SameSession (reopenedData conn) (vpnData conn) ∧
      missingSecret (reopenedData conn) = missingSecret (vpnData conn)) ↔
    Survives sVpn.data sVpn.secrets := by
  obtain ⟨hpins, hinsecure, hhost, hcommon⟩ := reopened_common hopen hsecrets
  have hclass : authClass (reopenedData conn) = authClass (vpnData conn) := by
    rw [authClass_reopened hopen, authClass_opened hopen hsecrets]
  have hcredentials := credentials_iff hopen hsecrets
  constructor
  · rintro ⟨hsame, hmissing⟩
    exact ⟨(hcommon "port" (by decide)).mp hsame.port, (hcommon "realm" (by decide)).mp hsame.realm,
      (hcommon "ca-file" (by decide)).mp hsame.caFile,
      hcredentials.mp ⟨hsame.credentials, hmissing⟩⟩
  · intro hsurvives
    obtain ⟨hsame, hmissing⟩ := hcredentials.mpr hsurvives.credentials
    refine ⟨?_, hmissing⟩
    exact
      { host := hhost
        port := (hcommon "port" (by decide)).mpr hsurvives.port
        realm := (hcommon "realm" (by decide)).mpr hsurvives.realm
        pins := hpins
        caFile := (hcommon "ca-file" (by decide)).mpr hsurvives.caFile
        insecure := hinsecure
        auth := hclass
        credentials := hsame }

end Survives

private theorem withSetting_again (conn : Connection) (sVpn sVpn' : VpnSetting) :
    withSetting (withSetting conn sVpn) sVpn' = withSetting conn sVpn' := by
  funext setting
  unfold withSetting
  by_cases hsetting : setting = "vpn" <;> simp [hsetting]

private theorem fill_otp (conn : Connection) :
    { fillFromConnection {} conn with otp := "" } = fillFromConnection {} conn := by
  unfold fillFromConnection
  split <;> rfl

/-- Any connection can be opened and, if it has a gateway, saved. Nothing outside its VPN setting
changes; what is saved is a fixed point, which saving once more leaves as it is; and the launch
stays the same exactly if the form could show all of it. -/
theorem opened_saved {conn : Connection} {sVpn : VpnSetting} (hopen : settingVpn conn = some sVpn)
    (hsecrets : CredentialsOnly sVpn.secrets) :
    ((sVpn.data "gateway").getD "" = "" ∧
      updateConnection (fillFromConnection {} conn) conn = .error "a gateway host is required") ∨
    ((sVpn.data "gateway").getD "" ≠ "" ∧ ∃ saved,
      updateConnection (fillFromConnection {} conn) conn = .ok saved ∧
      (∀ setting, setting ≠ "vpn" → saved setting = conn setting) ∧
      updateConnection (fillFromConnection {} saved) saved = .ok saved ∧
      ∀ pppdPlugin dev,
        mapConnection saved pppdPlugin dev false = mapConnection conn pppdPlugin dev false ↔
          Survives sVpn.data sVpn.secrets) := by
  have hgateway : (editorSetting (fillFromConnection {} conn)).data "gateway" =
      shown (sVpn.data "gateway") := openedForm_data hopen "gateway"
  by_cases hempty : (sVpn.data "gateway").getD "" = ""
  · left
    refine ⟨hempty, ?_⟩
    simp [updateConnection, hgateway, shown, entered, hempty]
  · right
    have hgiven : ((editorSetting (fillFromConnection {} conn)).data "gateway").isNone = false := by
      rw [hgateway, shown, entered, if_neg hempty]
      rfl
    refine ⟨hempty, withSetting conn (editorSetting (fillFromConnection {} conn)), ?_,
      fun setting hsetting => if_neg hsetting, ?_, ?_⟩
    · simp [updateConnection, hgiven]
    · have hsame : editorSetting (fillFromConnection {}
          (withSetting conn (editorSetting (fillFromConnection {} conn)))) =
          editorSetting (fillFromConnection {} conn) := by
        rw [editorSetting_fill, fill_otp]
      unfold updateConnection
      dsimp only
      rw [hsame, hgiven, withSetting_again]
      rfl
    · intro pppdPlugin dev
      rw [mapConnection_eq_iff, ← survives_iff hopen hsecrets]
      constructor
      · rintro ⟨hsession, hmissing, _⟩
        exact ⟨hsession, hmissing⟩
      · rintro ⟨hsession, hmissing⟩
        exact ⟨hsession, hmissing, rfl⟩

def madeByHand : Connection :=
  vpnConnection [("gateway", "gw"), ("port", ""), ("user", "alice"), ("password-flags", "1")]
    [("password", "x")]

theorem opened_saved_madeByHand :
    ∃ saved, updateConnection (fillFromConnection {} madeByHand) madeByHand = .ok saved ∧
      ∀ pppdPlugin dev,
        mapConnection saved pppdPlugin dev false ≠
          mapConnection madeByHand pppdPlugin dev false := by
  have hsecrets : CredentialsOnly (.ofPairs [("password", "x")]) := by
    intro key hkey
    rw [← List.nil_append [("password", "x")], Dict.ofPairs_append, Dict.insert, if_neg]
    · rfl
    · rintro rfl
      exact hkey (by decide)
  have hopen : settingVpn madeByHand = some
      ⟨.ofPairs [("gateway", "gw"), ("port", ""), ("user", "alice"), ("password-flags", "1")],
        .ofPairs [("password", "x")]⟩ := rfl
  rcases opened_saved hopen hsecrets with ⟨hempty, _⟩ | ⟨_, saved, hsaved, _, _, hlaunch⟩
  · exact absurd hempty (by decide)
  · refine ⟨saved, hsaved, fun pppdPlugin dev hsame => ?_⟩
    exact ((hlaunch pppdPlugin dev).mp hsame).port rfl

end CrosswireNm.Properties
