import CrosswireNm.Library.Machine
import CrosswireNm.Properties.Opened

/-!
# An editor on the screen

The rows of credentials come and go with the authentication method, and hidden entries keep their
text. Whatever is done with an editor, what can be seen of it decides what will be launched.
-/

namespace CrosswireNm.Properties

open CrosswireNm.Library CrosswireNm.Service

inductive Row
  | provider | gateway | port | auth | user | realm | password | otp | cookie | caFile | trustedCert
  | insecure
  deriving DecidableEq, Repr

inductive RowContent
  | selected (i : Nat)
  | text (text : String)
  | active (active : Bool)
  deriving DecidableEq, Repr

def EditorForm.content (form : EditorForm) : Row → RowContent
  | .provider => .selected form.provider
  | .gateway => .text form.gateway
  | .port => .text form.port
  | .auth => .selected form.auth
  | .user => .text form.user
  | .realm => .text form.realm
  | .password => .text form.password
  | .otp => .text form.otp
  | .cookie => .text form.cookie
  | .caFile => .text form.caFile
  | .trustedCert => .text form.trustedCert
  | .insecure => .active form.insecure

def EditorForm.change (form : EditorForm) : Row → RowContent → Option EditorForm
  | .provider, .selected i =>
    if i < providerValues.length then some { form with provider := i } else none
  | .auth, .selected i => if i < authValues.length then some { form with auth := i } else none
  | .gateway, .text text => some { form with gateway := text }
  | .port, .text text => some { form with port := text }
  | .user, .text text => some { form with user := text }
  | .realm, .text text => some { form with realm := text }
  | .password, .text text => some { form with password := text }
  | .otp, .text text => some { form with otp := text }
  | .cookie, .text text => some { form with cookie := text }
  | .caFile, .text text => some { form with caFile := text }
  | .trustedCert, .text text => some { form with trustedCert := text }
  | .insecure, .active active => some { form with insecure := active }
  | _, _ => none

/-- `struct _CrosswireEditor`, as the user meets it. -/
structure CrosswireEditor where
  form : EditorForm
  visible : Row → Bool
  /-- the gateway's entry has its warning icon -/
  warning : Bool

def CrosswireEditor.updateGatewayHint (self : CrosswireEditor) : CrosswireEditor :=
  { self with warning := self.form.gateway == "" }

def CrosswireEditor.syncAuthRows (self : CrosswireEditor) : CrosswireEditor :=
  let pw := self.form.auth == 0
  let cookie := self.form.auth == 2
  { self with
    visible := fun
      | .user | .password | .otp => pw
      | .cookie => cookie
      | row => self.visible row }

def conditional : List Row := [.user, .password, .otp, .cookie]

/-- `ot_show_all`, or a host that shows the whole form again; in GTK4 there is no such thing. -/
def CrosswireEditor.showAll (gtk4 : Bool) (self : CrosswireEditor) : CrosswireEditor :=
  if gtk4 then self
  else { self with visible := fun row => !conditional.contains row || self.visible row }

/-- `build_ui`: widgets begin hidden in GTK3, and visible in GTK4. -/
def buildUi (gtk4 : Bool) : CrosswireEditor := ⟨{}, fun _ => gtk4, false⟩

/-- The editor handed to the host. What the handlers do while it is filled is done again at the
end. -/
def nmVpnEditorFactory (gtk4 : Bool) (connection : Connection) : CrosswireEditor :=
  let self := (buildUi gtk4).showAll gtk4
  { self with form := fillFromConnection self.form connection }.syncAuthRows.updateGatewayHint

inductive Handler
  | onChanged
  | onGatewayChanged
  | onNotify
  | onAuth
  deriving DecidableEq, Repr

def connectSignals : Row → Handler
  | .port | .user | .realm | .caFile | .trustedCert | .otp | .password | .cookie => .onChanged
  | .gateway => .onGatewayChanged
  | .insecure | .provider => .onNotify
  | .auth => .onAuth

inductive EditorEvent
  | changed
  deriving DecidableEq, Repr

def Handler.run (self : CrosswireEditor) : Handler → CrosswireEditor × List EditorEvent
  | .onChanged | .onNotify => (self, [.changed])
  | .onGatewayChanged => (self.updateGatewayHint, [.changed])
  | .onAuth => (self.syncAuthRows, [.changed])

inductive EditorLabel
  /-- the user changes what a visible row holds -/
  | change (row : Row) (content : RowContent)
  /-- the host shows the whole form -/
  | showAll
  deriving DecidableEq, Repr

def editorStep (gtk4 : Bool) : Step CrosswireEditor EditorLabel EditorEvent := fun self label =>
  match label with
  | .change row content =>
    if self.visible row then
      (self.form.change row content).map fun form =>
        (connectSignals row).run { self with form }
    else none
  | .showAll => some (self.showAll gtk4, [])

def Row.shows (auth : Nat) : Row → Bool
  | .user | .password | .otp => auth == 0
  | .cookie => auth == 2
  | _ => true

structure CrosswireEditor.Agrees (editor : CrosswireEditor) : Prop where
  rows : ∀ row, editor.visible row = row.shows editor.form.auth
  hint : editor.warning = (editor.form.gateway == "")
  auth : editor.form.auth < authValues.length

/-- The same rows are visible and hold the same. -/
def CrosswireEditor.LooksLike (self other : CrosswireEditor) : Prop :=
  self.visible = other.visible ∧
    ∀ row, self.visible row = true → self.form.content row = other.form.content row

private theorem comboIndex_lt {values : List String} (value : Option String)
    (hvalues : values ≠ []) : comboIndex values value < values.length := by
  unfold comboIndex
  have hpos : 0 < values.length := List.length_pos_iff.mpr hvalues
  cases value with
  | none => exact hpos
  | some value =>
    rw [Option.bind_some]
    cases hfound : values.findIdx? (· == value) with
    | none => exact hpos
    | some i => exact (List.findIdx?_eq_some_iff_getElem.mp hfound).1

private theorem fill_auth (connection : Connection) :
    (fillFromConnection {} connection).auth < authValues.length := by
  unfold fillFromConnection
  split
  · decide
  · exact comboIndex_lt _ (by decide)

private theorem factory_agrees (gtk4 : Bool) (connection : Connection) :
    (nmVpnEditorFactory gtk4 connection).Agrees where
  rows := by
    intro row
    cases gtk4 <;> cases row <;> rfl
  hint := rfl
  auth := by
    cases gtk4 <;> exact fill_auth connection

section Steps

variable {gtk4 : Bool} {self next : CrosswireEditor} {label : EditorLabel} {out : List EditorEvent}

private theorem CrosswireEditor.Agrees.showAll (hself : self.Agrees) :
    (self.showAll gtk4).Agrees := by
  unfold CrosswireEditor.showAll
  split
  · exact hself
  · refine ⟨?_, hself.hint, hself.auth⟩
    intro row
    show (!conditional.contains row || self.visible row) = row.shows self.form.auth
    rw [hself.rows]
    cases row <;> simp [conditional, Row.shows]

private theorem EditorForm.change_spec {form changed : EditorForm} {row : Row}
    {content : RowContent} (h : form.change row content = some changed) :
    (row ≠ .auth → changed.auth = form.auth) ∧ (row ≠ .gateway → changed.gateway = form.gateway) ∧
      (form.auth < authValues.length → changed.auth < authValues.length) := by
  unfold EditorForm.change at h
  split at h
  · split at h <;> cases h
    exact ⟨fun _ => rfl, fun _ => rfl, id⟩
  · split at h <;> cases h
    exact ⟨fun hrow => absurd rfl hrow, fun _ => rfl, fun _ => ‹_›⟩
  · cases h
    exact ⟨fun _ => rfl, fun hrow => absurd rfl hrow, id⟩
  all_goals cases h
  all_goals exact ⟨fun _ => rfl, fun _ => rfl, id⟩

private theorem editorStep_agrees (hself : self.Agrees)
    (hstep : editorStep gtk4 self label = some (next, out)) : next.Agrees := by
  cases label with
  | showAll =>
    cases hstep
    exact hself.showAll
  | change row content =>
    simp only [editorStep] at hstep
    split at hstep
    · obtain ⟨form, hchange, hrun⟩ := Option.map_eq_some_iff.mp hstep
      obtain ⟨hauth, hgateway, hlt⟩ := EditorForm.change_spec hchange
      have hkept : row ≠ .auth → row ≠ .gateway →
          CrosswireEditor.Agrees { self with form } := by
        intro hrow hrow'
        refine ⟨?_, ?_, hlt hself.auth⟩
        · rw [hauth hrow]
          exact hself.rows
        · rw [hgateway hrow']
          exact hself.hint
      cases row with
      | gateway =>
        cases hrun
        refine ⟨?_, rfl, hlt hself.auth⟩
        intro row
        exact (hself.rows row).trans (congrArg row.shows (hauth nofun).symm)
      | auth =>
        cases hrun
        refine ⟨?_, ?_, hlt hself.auth⟩
        · intro row
          have hrow := hself.rows row
          cases row <;> first | rfl | exact hrow
        · exact hself.hint.trans (congrArg (· == "") (hgateway nofun).symm)
      | provider | port | user | realm | password | otp | cookie | caFile | trustedCert
      | insecure =>
        cases hrun
        exact hkept nofun nofun
    · cases hstep

end Steps

private theorem editor_agrees {gtk4 : Bool} {connection : Connection} {history : List EditorEvent}
    {self : CrosswireEditor}
    (run : Run (editorStep gtk4) anyLabel (nmVpnEditorFactory gtk4 connection) history self) :
    self.Agrees := by
  apply run.state_invariant CrosswireEditor.Agrees
  · exact factory_agrees gtk4 connection
  · intro self label next out history hself _ hstep
    exact editorStep_agrees hself hstep

private theorem vpnData_same {form form' : EditorForm} {stored : Connection} {key : String}
    (hkey : key ∉ ["password", "otp", "cookie"])
    (hdata : (editorSetting form).data key = (editorSetting form').data key) :
    vpnData (withSetting stored (editorSetting form)) key =
      vpnData (withSetting stored (editorSetting form')) key := by
  rw [vpnData_editor hkey, vpnData_editor hkey, hdata]

section Looks

variable {self other : CrosswireEditor}

private theorem CrosswireEditor.LooksLike.content (h : self.LooksLike other)
    (hself : self.Agrees) (row : Row) (hrow : row.shows self.form.auth = true) :
    self.form.content row = other.form.content row :=
  h.2 row ((hself.rows row).trans hrow)

private theorem CrosswireEditor.LooksLike.auth (h : self.LooksLike other) (hself : self.Agrees) :
    self.form.auth = other.form.auth :=
  RowContent.selected.inj (h.content hself .auth rfl)

private theorem CrosswireEditor.LooksLike.secrets (h : self.LooksLike other)
    (hself : self.Agrees) :
    (editorSetting self.form).secrets = (editorSetting other.form).secrets := by
  funext name
  rw [editorSetting_secrets, editorSetting_secrets, ← h.auth hself]
  by_cases hpassword : self.form.auth = 0
  · have hpw : self.form.password = other.form.password :=
      RowContent.text.inj (h.content hself .password (by rw [hpassword]; rfl))
    have hotp : self.form.otp = other.form.otp :=
      RowContent.text.inj (h.content hself .otp (by rw [hpassword]; rfl))
    rw [hpw, hotp, if_pos hpassword, if_pos hpassword]
  · by_cases hcookie : self.form.auth = 2
    · have hck : self.form.cookie = other.form.cookie :=
        RowContent.text.inj (h.content hself .cookie (by rw [hcookie]; rfl))
      rw [hck, if_neg hpassword, if_neg hpassword]
    · rw [if_neg hpassword, if_neg hcookie, if_neg hpassword, if_neg hcookie]

private theorem CrosswireEditor.LooksLike.data (h : self.LooksLike other) (hself : self.Agrees)
    {key : String} (hkey : key ≠ "user") :
    (editorSetting self.form).data key = (editorSetting other.form).data key := by
  have hprovider : self.form.provider = other.form.provider :=
    RowContent.selected.inj (h.content hself .provider rfl)
  have hgateway : self.form.gateway = other.form.gateway :=
    RowContent.text.inj (h.content hself .gateway rfl)
  have hport : self.form.port = other.form.port := RowContent.text.inj (h.content hself .port rfl)
  have hrealm : self.form.realm = other.form.realm :=
    RowContent.text.inj (h.content hself .realm rfl)
  have hca : self.form.caFile = other.form.caFile :=
    RowContent.text.inj (h.content hself .caFile rfl)
  have hcert : self.form.trustedCert = other.form.trustedCert :=
    RowContent.text.inj (h.content hself .trustedCert rfl)
  have hinsecure : self.form.insecure = other.form.insecure :=
    RowContent.active.inj (h.content hself .insecure rfl)
  rw [editorSetting_data, editorSetting_data, hprovider, hgateway, hport, hrealm, hca, hcert,
    hinsecure, h.auth hself]
  simp only [hkey, if_false]

private theorem CrosswireEditor.LooksLike.user (h : self.LooksLike other) (hself : self.Agrees)
    {stored : Connection}
    (hclass : authClass (vpnData (withSetting stored (editorSetting self.form))) = .other) :
    (editorSetting self.form).data "user" = (editorSetting other.form).data "user" := by
  have htype : authType (vpnData (withSetting stored (editorSetting self.form))) =
      comboValue authValues self.form.auth := by
    rw [authType, vpnData_editor (by decide), editorSetting_data]
    rfl
  have hpassword : self.form.auth = 0 := by
    have hlt : self.form.auth < 3 := hself.auth
    unfold authClass at hclass
    rw [htype] at hclass
    obtain hchoice | hchoice | hchoice :
        self.form.auth = 0 ∨ self.form.auth = 1 ∨ self.form.auth = 2 := by omega
    · exact hchoice
    · rw [hchoice] at hclass
      cases hclass
    · rw [hchoice] at hclass
      cases hclass
  have huser : self.form.user = other.form.user :=
    RowContent.text.inj (h.content hself .user (by rw [hpassword]; rfl))
  rw [editorSetting_data, editorSetting_data, huser]
  rfl

/-- What looks alike launches alike. -/
private theorem CrosswireEditor.LooksLike.launch (h : self.LooksLike other) (hself : self.Agrees)
    (stored : Connection) (pppdPlugin dev : String) :
    mapConnection (withSetting stored (editorSetting self.form)) pppdPlugin dev false =
      mapConnection (withSetting stored (editorSetting other.form)) pppdPlugin dev false := by
  have hitem : ∀ key ∉ ["user", "password", "otp", "cookie"],
      vpnData (withSetting stored (editorSetting self.form)) key =
        vpnData (withSetting stored (editorSetting other.form)) key := by
    intro key hkey
    rw [List.mem_cons, not_or] at hkey
    exact vpnData_same hkey.2 (h.data hself hkey.1)
  have hsecret : ∀ key ∈ ["password", "otp", "cookie"],
      vpnData (withSetting stored (editorSetting self.form)) key =
        vpnData (withSetting stored (editorSetting other.form)) key := by
    intro key hkey
    rw [vpnData_editor_secret hkey, vpnData_editor_secret hkey, h.secrets hself]
  have htype : authType (vpnData (withSetting stored (editorSetting self.form))) =
      authType (vpnData (withSetting stored (editorSetting other.form))) := by
    rw [authType, authType, hitem "auth-type" (by decide)]
  rw [mapConnection_eq_iff]
  refine ⟨⟨?_, ?_, ?_, ?_, ?_, ?_, ?_, ?_⟩, ?_, rfl⟩
  · rw [hostOf, hostOf, hitem "gateway" (by decide)]
  · exact hitem "port" (by decide)
  · exact hitem "realm" (by decide)
  · rw [pinned, pinned, hitem "trusted-cert" (by decide)]
  · exact hitem "ca-file" (by decide)
  · rw [hitem "insecure-ssl" (by decide)]
  · rw [authClass, authClass, htype]
  · split
    · trivial
    · exact hsecret "cookie" (by decide)
    · rename_i hclass
      exact ⟨vpnData_same (by decide) (h.user hself hclass), hsecret "password" (by decide),
        hsecret "otp" (by decide)⟩
  · unfold missingSecret
    rw [htype, hsecret "password" (by decide), hsecret "cookie" (by decide)]

end Looks

/-- What you see is what you launch. Two editors that look the same, however they came to, both show
the gateway's warning and refuse to save, or neither does, and what they save launches alike and
holds the same secrets; whatever stands in hidden rows takes no part. -/
theorem lookalike_launch {gtk4 gtk4' : Bool} {connection connection' : Connection}
    {history history' : List EditorEvent} {self other : CrosswireEditor}
    (run : Run (editorStep gtk4) anyLabel (nmVpnEditorFactory gtk4 connection) history self)
    (run' : Run (editorStep gtk4') anyLabel (nmVpnEditorFactory gtk4' connection') history' other)
    (hlooks : self.LooksLike other) (stored : Connection) :
    (self.warning = true ∧ other.warning = true ∧
      updateConnection self.form stored = .error "a gateway host is required" ∧
      updateConnection other.form stored = .error "a gateway host is required") ∨
    (self.warning = false ∧ other.warning = false ∧ ∃ saved saved',
      updateConnection self.form stored = .ok saved ∧
      updateConnection other.form stored = .ok saved' ∧
      (settingVpn saved).map VpnSetting.secrets = (settingVpn saved').map VpnSetting.secrets ∧
      ∀ pppdPlugin dev,
        mapConnection saved pppdPlugin dev false = mapConnection saved' pppdPlugin dev false) := by
  have hself := editor_agrees run
  have hother := editor_agrees run'
  have hgateway : self.form.gateway = other.form.gateway :=
    RowContent.text.inj (hlooks.content hself .gateway rfl)
  have hdata : ∀ form : EditorForm, (editorSetting form).data "gateway" = entered form.gateway := by
    intro form
    rw [editorSetting_data]
    rfl
  by_cases hempty : self.form.gateway = ""
  · left
    have hempty' : other.form.gateway = "" := hgateway.symm.trans hempty
    refine ⟨by simp [hself.hint, hempty], by simp [hother.hint, hempty'], ?_, ?_⟩
    · simp [updateConnection, hdata, entered, hempty]
    · simp [updateConnection, hdata, entered, hempty']
  · right
    have hempty' : other.form.gateway ≠ "" := fun h => hempty (hgateway.trans h)
    refine ⟨by simp [hself.hint, hempty], by simp [hother.hint, hempty'],
      withSetting stored (editorSetting self.form), withSetting stored (editorSetting other.form),
      ?_, ?_, ?_, hlooks.launch hself stored⟩
    · simp [updateConnection, hdata, entered, hempty]
    · simp [updateConnection, hdata, entered, hempty']
    · exact congrArg some (hlooks.secrets hself)

def changedMind : List EditorLabel :=
  [.change .gateway (.text "gw"), .change .user (.text "alice"), .change .password (.text "old"),
    .change .auth (.selected 2), .showAll, .change .cookie (.text "c")]

def atOnce : List EditorLabel :=
  [.change .gateway (.text "gw"), .change .auth (.selected 2), .change .cookie (.text "c")]

theorem lookalike_launch_changedMind :
    ∃ self other : CrosswireEditor, self.form ≠ other.form ∧ self.LooksLike other ∧
      ∃ saved saved', updateConnection self.form (fun _ => none) = .ok saved ∧
        updateConnection other.form (fun _ => none) = .ok saved' ∧
        mapConnection saved "plugin.so" "ppp0" false =
          mapConnection saved' "plugin.so" "ppp0" false := by
  obtain ⟨history, self, hexec, hform, hvisible, hwarning⟩ : ∃ history self,
      exec (editorStep false) (fun _ _ _ => true) [] (nmVpnEditorFactory false fun _ => none)
        changedMind = some (history, self) ∧
      self.form =
        { auth := 2, gateway := "gw", user := "alice", password := "old", cookie := "c" } ∧
      self.visible = Row.shows 2 ∧ self.warning = false :=
    ⟨_, _, rfl, rfl, funext fun row => by cases row <;> rfl, rfl⟩
  obtain ⟨history', other, hexec', hform', hvisible'⟩ : ∃ history other,
      exec (editorStep true) (fun _ _ _ => true) [] (nmVpnEditorFactory true fun _ => none)
        atOnce = some (history, other) ∧
      other.form = { auth := 2, gateway := "gw", cookie := "c" } ∧
      other.visible = Row.shows 2 :=
    ⟨_, _, rfl, rfl, funext fun row => by cases row <;> rfl⟩
  have hlooks : self.LooksLike other := by
    refine ⟨hvisible.trans hvisible'.symm, ?_⟩
    intro row hrow
    rw [hvisible] at hrow
    rw [hform, hform']
    cases row <;> first | rfl | cases hrow
  have run := exec_run (fun _ _ _ _ => trivial) .refl hexec
  have run' := exec_run (fun _ _ _ _ => trivial) .refl hexec'
  rcases lookalike_launch run run' hlooks (fun _ => none) with ⟨hempty, _⟩ | ⟨_, _, saved, saved',
    hsaved, hsaved', _, hlaunch⟩
  · rw [hwarning] at hempty
    cases hempty
  · refine ⟨self, other, ?_, hlooks, saved, saved', hsaved, hsaved', hlaunch _ _⟩
    rw [hform, hform']
    decide

end CrosswireNm.Properties
