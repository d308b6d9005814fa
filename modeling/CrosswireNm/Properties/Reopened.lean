import CrosswireNm.Properties.Editor

/-!
# Opening a saved connection and saving it again
-/

namespace CrosswireNm.Properties

open CrosswireNm.Service

theorem entered_getD (text : String) : (entered text).getD "" = text := by
  unfold entered
  split
  · rename_i hempty
    exact hempty.symm
  · rfl

theorem vpnSetting_ext {sVpn sVpn' : VpnSetting}
    (hdata : ∀ name, sVpn.data name = sVpn'.data name)
    (hsecrets : ∀ name, sVpn.secrets name = sVpn'.secrets name) : sVpn = sVpn' := by
  obtain ⟨data, secrets⟩ := sVpn
  obtain ⟨data', secrets'⟩ := sVpn'
  obtain rfl : data = data' := funext hdata
  obtain rfl : secrets = secrets' := funext hsecrets
  rfl

private theorem comboValue_provider (i j : Nat) :
    comboValue providerValues i = comboValue providerValues j := by
  have hfortinet : ∀ i, comboValue providerValues i = "fortinet" := by
    intro i
    cases i <;> rfl
  rw [hfortinet, hfortinet]

private theorem comboIndex_auth (i : Nat) :
    comboIndex authValues (some (comboValue authValues i)) = if i < 3 then i else 0 := by
  match i with
  | 0 => decide
  | 1 => decide
  | 2 => decide
  | i + 3 =>
    have hnot : ¬ i + 3 < 3 := by omega
    rw [if_neg hnot]
    rfl

/-- The form that shows a saved setting: all of it but the one-time code, and no credentials of
another method. -/
private theorem fill_saved (form : EditorForm) (conn : Connection) :
    fillFromConnection {} (withSetting conn (editorSetting form)) =
      { form with
        provider := comboIndex providerValues (some (comboValue providerValues form.provider))
        auth := if form.auth < 3 then form.auth else 0
        otp := ""
        password := if form.auth = 0 then form.password else ""
        cookie := if form.auth = 2 then form.cookie else "" } := by
  have hopened : settingVpn (withSetting conn (editorSetting form)) = some (editorSetting form) :=
    rfl
  have hpassword : ((editorSetting form).secrets "password").getD "" =
      if form.auth = 0 then form.password else "" := by
    rw [editorSetting_secrets]
    by_cases hauth : form.auth = 0
    · rw [if_pos hauth, if_pos hauth, if_pos rfl, entered_getD]
    · rw [if_neg hauth, if_neg hauth]
      split <;> rfl
  have hcookie : ((editorSetting form).secrets "cookie").getD "" =
      if form.auth = 2 then form.cookie else "" := by
    rw [editorSetting_secrets]
    by_cases hauth : form.auth = 2
    · have hother : ¬ form.auth = 0 := by omega
      rw [if_neg hother, if_pos hauth, if_pos hauth, if_pos rfl, entered_getD]
    · rw [if_neg hauth, if_neg hauth]
      split <;> rfl
  have hinsecure : decide ((editorSetting form).data "insecure-ssl" = some "yes") =
      form.insecure := by
    rw [editorSetting_data]
    cases form.insecure <;> rfl
  unfold fillFromConnection
  rw [hopened]
  dsimp only
  rw [hpassword, hcookie, hinsecure]
  simp only [editorSetting_data, String.reduceEq, if_true, if_false, entered_getD,
    comboIndex_auth]

theorem editorSetting_fill (form : EditorForm) (conn : Connection) :
    editorSetting (fillFromConnection {} (withSetting conn (editorSetting form))) =
      editorSetting { form with otp := "" } := by
  have hauth : comboValue authValues (if form.auth < 3 then form.auth else 0) =
      comboValue authValues form.auth := by
    split
    · rfl
    · rename_i hlarge
      have hnone : authValues[form.auth]? = none := by
        apply List.getElem?_eq_none
        change 3 ≤ form.auth
        omega
      unfold comboValue
      rw [hnone]
      rfl
  rw [fill_saved]
  apply vpnSetting_ext
  · intro name
    rw [editorSetting_data, editorSetting_data]
    dsimp only
    rw [hauth, comboValue_provider (comboIndex providerValues _) form.provider]
  · intro name
    rw [editorSetting_secrets, editorSetting_secrets]
    dsimp only
    by_cases hlarge : form.auth < 3
    · rw [if_pos hlarge]
      by_cases hpassword : form.auth = 0
      · rw [if_pos hpassword, if_pos hpassword, if_pos hpassword]
      · by_cases hcookie : form.auth = 2
        · simp only [if_neg hpassword, if_pos hcookie]
        · simp only [if_neg hpassword, if_neg hcookie]
    · have hpassword : ¬ form.auth = 0 := by omega
      have hcookie : ¬ form.auth = 2 := by omega
      rw [if_neg hlarge, if_pos rfl, if_neg hpassword, if_neg hpassword, if_neg hcookie]
      split
      · rfl
      · split <;> rfl

private theorem editorSetting_otp (form : EditorForm) :
    editorSetting { form with otp := "" } = editorSetting form ↔
      (form.auth = 0 → form.otp = "") := by
  constructor
  · intro hsame hauth
    have hotp := congrFun (congrArg VpnSetting.secrets hsame) "otp"
    rw [editorSetting_secrets, editorSetting_secrets, if_pos hauth, if_pos hauth] at hotp
    rw [← entered_getD form.otp, ← show entered "" = entered form.otp from hotp]
    rfl
  · intro hnone
    by_cases hauth : form.auth = 0
    · have hempty := hnone hauth
      obtain ⟨_, _, _, _, _, _, _, _, otp, _, _, _⟩ := form
      cases hempty
      rfl
    · apply vpnSetting_ext
      · intro name
        rw [editorSetting_data, editorSetting_data]
      · intro name
        rw [editorSetting_secrets, editorSetting_secrets, if_neg hauth, if_neg hauth]

private theorem updateConnection_ok {form : EditorForm} {conn saved : Connection}
    (h : updateConnection form conn = .ok saved) :
    form.gateway ≠ "" ∧ saved = withSetting conn (editorSetting form) := by
  unfold updateConnection at h
  dsimp only at h
  split at h
  · cases h
  · rename_i hgiven
    refine ⟨?_, (Except.ok.inj h).symm⟩
    rintro hempty
    apply hgiven
    rw [editorSetting_data]
    simp [entered, hempty]

/-- A saved setting that is opened in a fresh form and saved again is what it was, unless it has
a one-time code. -/
theorem saved_again_iff {form : EditorForm} {conn saved : Connection}
    (h : updateConnection form conn = .ok saved) (conn' : Connection) :
    (∃ again, updateConnection (fillFromConnection {} saved) conn' = .ok again ∧
      settingVpn again = settingVpn saved) ↔ (form.auth = 0 → form.otp = "") := by
  obtain ⟨hgateway, rfl⟩ := updateConnection_ok h
  have hagain : updateConnection
      (fillFromConnection {} (withSetting conn (editorSetting form))) conn' =
      .ok (withSetting conn' (editorSetting { form with otp := "" })) := by
    have hgiven : ¬ ((editorSetting { form with otp := "" }).data "gateway").isNone := by
      rw [editorSetting_data]
      simp [entered, hgateway]
    unfold updateConnection
    rw [editorSetting_fill]
    exact if_neg hgiven
  have hsame : ∀ conn conn' sVpn sVpn',
      settingVpn (withSetting conn sVpn) = settingVpn (withSetting conn' sVpn') ↔ sVpn = sVpn' :=
    fun _ _ _ _ => Option.some_inj
  rw [hagain, ← editorSetting_otp, ← hsame conn' conn]
  constructor
  · rintro ⟨again, hsaved, hsetting⟩
    rwa [Except.ok.inj hsaved]
  · intro hsetting
    exact ⟨_, rfl, hsetting⟩

/-- A cookie login with a password and a one-time code left in hidden entries. -/
theorem saved_again_leftover :
    ∃ saved, updateConnection { leftoverForm with otp := "1" } (fun _ => none) = .ok saved ∧
      ∃ again, updateConnection (fillFromConnection {} saved) (fun _ => none) = .ok again ∧
        settingVpn again = settingVpn saved := by
  have hsaved : updateConnection { leftoverForm with otp := "1" } (fun _ => none) =
      .ok (withSetting (fun _ => none) (editorSetting { leftoverForm with otp := "1" })) := rfl
  refine ⟨_, hsaved, (saved_again_iff hsaved (fun _ => none)).mpr ?_⟩
  decide

def otpForm : EditorForm := { gateway := "gw", user := "alice", password := "x", otp := "123456" }

/-- The code is stored with the first save and is gone with the second. -/
theorem otpForm_dropped :
    ∃ saved, updateConnection otpForm (fun _ => none) = .ok saved ∧
      (settingVpn saved).bind (fun sVpn => sVpn.secrets "otp") = some "123456" ∧
      ∃ again, updateConnection (fillFromConnection {} saved) (fun _ => none) = .ok again ∧
        (settingVpn again).bind (fun sVpn => sVpn.secrets "otp") = none ∧
        settingVpn again ≠ settingVpn saved := by
  have hstored : (settingVpn (withSetting (fun _ => none) (editorSetting otpForm))).bind
      (fun sVpn => sVpn.secrets "otp") = some "123456" := by
    change (editorSetting otpForm).secrets "otp" = some "123456"
    rw [editorSetting_secrets]
    rfl
  have hdropped : (settingVpn (withSetting (fun _ => none)
      (editorSetting { otpForm with otp := "" }))).bind (fun sVpn => sVpn.secrets "otp") = none := by
    change (editorSetting { otpForm with otp := "" }).secrets "otp" = none
    rw [editorSetting_secrets]
    rfl
  refine ⟨_, rfl, hstored, withSetting (fun _ => none) (editorSetting { otpForm with otp := "" }),
    ?_, hdropped, ?_⟩
  · rw [← editorSetting_fill otpForm (fun _ => none)]
    rfl
  · intro hsame
    rw [hsame, hstored] at hdropped
    cases hdropped

end CrosswireNm.Properties
