import CrosswireNm.Service.PluginRuns
import CrosswireNm.Service.Secrets

/-!
# Asking for a secret

A `Connect` that lacks its credential is answered with `SecretsRequired`, and NetworkManager makes
another with the secret in place. `need_secrets` is asked beforehand, without touching anything.
-/

namespace CrosswireNm.Service

open Library

def supply (conn : Connection) (key value : String) : Connection :=
  fun setting =>
    if setting = "vpn" then
      let vpn := (conn "vpn").getD fun _ => none
      some fun field =>
        if field = "secrets" then some (.dict ((ass vpn "secrets").insert key value))
        else vpn field
    else conn setting

section Supply

variable {conn : Connection} {key : String} (value : String)

private theorem vpnData_supply (name : String) : vpnData (supply conn key value) name =
    if name = key then some value else vpnData conn name := by
  have hdata : vpnData (supply conn key value) =
      (ass ((conn "vpn").getD fun _ => none) "data").extend
        ((ass ((conn "vpn").getD fun _ => none) "secrets").insert key value) := rfl
  rw [hdata, Dict.extend, Dict.insert]
  split
  · rfl
  · rfl

private theorem authType_supply (hkey : key ≠ "auth-type") :
    authType (vpnData (supply conn key value)) = authType (vpnData conn) := by
  rw [authType, authType, vpnData_supply, if_neg hkey.symm]

theorem supply_enough (hmissing : missingSecret (vpnData conn) = some key) :
    missingSecret (vpnData (supply conn key value)) = none ∧
      ∀ pppdPlugin dev, Carries (vpnData (supply conn key value))
        (mapConnection (supply conn key value) pppdPlugin dev false) := by
  have hsupplied : vpnData (supply conn key value) key = some value := by
    rw [vpnData_supply, if_pos rfl]
  rcases authType_cases (vpnData conn) with hauth | hauth | ⟨hsaml, hcookie⟩
  · rw [missingSecret_saml hauth] at hmissing
    cases hmissing
  · obtain rfl : "cookie" = key := by
      rw [missingSecret_cookie hauth] at hmissing
      split at hmissing <;> cases hmissing
      rfl
    have hauth' : authType (vpnData (supply conn "cookie" value)) = "cookie" :=
      (authType_supply value (by decide)).trans hauth
    have henough : missingSecret (vpnData (supply conn "cookie" value)) = none := by
      rw [missingSecret_cookie hauth', hsupplied]
      rfl
    refine ⟨henough, fun pppdPlugin dev => ?_⟩
    exact ((secretsAgree_check _ _ _).mp (secretsAgree_cookie pppdPlugin dev hauth')).1 henough
  · obtain rfl : "password" = key := by
      rw [missingSecret_other hsaml hcookie] at hmissing
      split at hmissing <;> cases hmissing
      rfl
    have hsame : authType (vpnData (supply conn "password" value)) = authType (vpnData conn) :=
      authType_supply value (by decide)
    have hsaml' : authType (vpnData (supply conn "password" value)) ≠ "saml" := by rwa [hsame]
    have hcookie' : authType (vpnData (supply conn "password" value)) ≠ "cookie" := by rwa [hsame]
    have henough : missingSecret (vpnData (supply conn "password" value)) = none := by
      rw [missingSecret_other hsaml' hcookie', hsupplied]
      rfl
    refine ⟨henough, fun pppdPlugin dev => ?_⟩
    have hagree := (secretsAgree_other pppdPlugin dev hsaml' hcookie').mpr
      (Or.inl (by rw [hsupplied]; nofun))
    exact ((secretsAgree_check _ _ _).mp hagree).1 henough

end Supply

def Task.launch : Task → Option Launch
  | .storeGateway launch | .enterStarting launch | .spawn launch => some launch
  | .take (.reconnect launch) | .stop (.reconnect launch) _ | .awaitStop (.reconnect launch) _
  | .release (.reconnect launch) _ => some launch
  | _ => none

def Task.unchecked : Task → Bool
  | .storeGateway _ => true
  | _ => false

def givenCalls (given : Nat → Connection) (_ : List Event) (_ : Plugin) (label : Label) : Prop :=
  ∀ h connection, label = .connect h connection → connection = given h

/-- Every call works with the connection it was given, and goes on as far as its secrets allow. -/
structure Plugin.Negotiates (given : Nat → Connection) (pppdPlugin ifname : String)
    (history : List Event) (s : Plugin) : Prop where
  params : s.pppdPlugin = pppdPlugin ∧ s.ifname = ifname
  launch : ∀ h launch, (s.tasks h).launch = some launch →
    launch = mapConnection (given h) pppdPlugin ifname false ∧
      ((s.tasks h).unchecked = false → launch.missingSecret = none)
  asks : ∀ h key, s.tasks h = .askSecrets key → missingSecret (vpnData (given h)) = some key
  asked : ∀ h key, .secretsRequired h key ∈ history → missingSecret (vpnData (given h)) = some key
  launched : ∀ h session, s.sessions h = some session →
    session.launch = mapConnection (given h) pppdPlugin ifname false ∧
      missingSecret (vpnData (given h)) = none

section Steps

variable {given : Nat → Connection} {pppdPlugin ifname : String} {s t : Plugin} {label : Label}
  {out history : List Event}

private theorem Plugin.Moves.params (hmoves : s.Moves label t out) :
    t.pppdPlugin = s.pppdPlugin ∧ t.ifname = s.ifname := by
  have hdrop : ∀ (s : Plugin) (i : Nat),
      (s.dropSup i).pppdPlugin = s.pppdPlugin ∧ (s.dropSup i).ifname = s.ifname := by
    intro s i
    unfold Plugin.dropSup
    split <;> exact ⟨rfl, rfl⟩
  cases hmoves with
  | reset | release | storeSup => exact hdrop _ _
  | _ => exact ⟨rfl, rfl⟩

private theorem Task.Next.launch {k : Nat} {task next : Task} {launch : Launch}
    (hnext : Task.Next k label task next) (hlaunch : next.launch = some launch) :
    (∃ connection, label = .connect k connection) ∨ (task.launch = some launch ∧
      (next.unchecked = false → task.unchecked = false ∨ launch.missingSecret = none)) := by
  cases hnext with
  | connect => exact Or.inl ⟨_, rfl⟩
  | storeGateway hmissing =>
    cases hlaunch
    exact Or.inr ⟨rfl, fun _ => Or.inr hmissing⟩
  | @deliver message => cases message <;> cases hlaunch
  | @take goal | @takeNone goal | @stop goal | @stopEnded goal | @awaitStop goal | @limit goal
  | @release goal =>
    cases goal with
    | reconnect launch' => exact Or.inr ⟨hlaunch, fun _ => Or.inl rfl⟩
    | down => cases hlaunch
  | enterStarting => exact Or.inr ⟨hlaunch, fun _ => Or.inl rfl⟩
  | _ => cases hlaunch

private theorem Task.Next.asks {k : Nat} {task next : Task} {key : String}
    (hnext : Task.Next k label task next) (hasks : next = .askSecrets key) :
    ∃ launch, task = .storeGateway launch ∧ launch.missingSecret = some key := by
  cases hnext with
  | storeGatewayMissing hmissing =>
    cases hasks
    exact ⟨_, rfl, hmissing⟩
  | @deliver message => cases message <;> cases hasks
  | @takeNone goal | @release goal => cases goal <;> cases hasks
  | _ => cases hasks

private theorem Plugin.Moves.secretsRequired {h : Nat} {key : String}
    (hmoves : s.Moves label t out) (hmem : .secretsRequired h key ∈ out) :
    s.tasks h = .askSecrets key := by
  cases hmoves with
  | askSecrets htask =>
    cases List.mem_singleton.mp hmem
    exact htask
  | leave | reset | settle | enterStarting | spawnFailed | ip4Started | report =>
    obtain ⟨_, _, hsignal⟩ := List.mem_map.mp hmem
    cases hsignal
  | _ => simp at hmem

private theorem Plugin.Moves.negotiates (hmoves : s.Moves label t out)
    (hs : s.Negotiates given pppdPlugin ifname history)
    (hwf : s.Wf) (hgiven : givenCalls given history s label) :
    t.Negotiates given pppdPlugin ifname (history ++ out) := by
  obtain ⟨hplugin, hifname⟩ := hmoves.params
  refine ⟨⟨hplugin.trans hs.params.1, hifname.trans hs.params.2⟩, ?_, ?_, ?_, ?_⟩
  · intro h launch hlaunch
    rcases hmoves.task h with hsame | hnext
    · rw [hsame] at hlaunch ⊢
      exact hs.launch h launch hlaunch
    · rcases hnext.launch hlaunch with ⟨connection, rfl⟩ | ⟨hbefore, hchecked⟩
      · cases hmoves with
        | connect =>
          rw [Plugin.setTask_tasks, if_pos rfl] at hlaunch ⊢
          obtain rfl := Option.some.inj hlaunch
          rw [hgiven h connection rfl, hs.params.1, hs.params.2]
          exact ⟨rfl, nofun⟩
      · obtain ⟨hmapped, hcheck⟩ := hs.launch h launch hbefore
        exact ⟨hmapped, fun hunchecked => (hchecked hunchecked).elim hcheck id⟩
  · intro h key hasks
    rcases hmoves.task h with hsame | hnext
    · exact hs.asks h key (hsame ▸ hasks)
    · obtain ⟨launch, htask, hmissing⟩ := hnext.asks hasks
      have hmapped := (hs.launch h launch (by rw [htask]; rfl)).1
      rwa [hmapped, mapConnection_missingSecret] at hmissing
  · intro h key hmem
    rcases List.mem_append.mp hmem with hmem | hmem
    · exact hs.asked h key hmem
    · exact hs.asks h key (hmoves.secretsRequired hmem)
  · intro h after hafter
    cases hsession : s.sessions h with
    | none =>
      obtain ⟨launch, _, htask, rfl⟩ := hmoves.session_new hafter hsession
      obtain ⟨hmapped, hcheck⟩ := hs.launch h launch (by rw [htask]; rfl)
      have hnone := hcheck (by rw [htask]; rfl)
      refine ⟨hmapped, ?_⟩
      rwa [hmapped, mapConnection_missingSecret] at hnone
    | some session =>
      obtain ⟨after', hafter', hlaunch, _⟩ := hmoves.session hwf hsession
      obtain rfl := Option.some.inj (hafter'.symm.trans hafter)
      rw [hlaunch]
      exact hs.launched h session hsession

end Steps

private theorem plugin_negotiates {given : Nat → Connection} {pppdPlugin ifname : String}
    {history : List Event} {s : Plugin}
    (run : Run Plugin.step (givenCalls given) (.start pppdPlugin ifname) history s) :
    s.Negotiates given pppdPlugin ifname history := by
  have hboth : s.Wf ∧ s.Negotiates given pppdPlugin ifname history := by
    apply run.invariant fun history s =>
      s.Wf ∧ s.Negotiates given pppdPlugin ifname history
    · refine ⟨Plugin.start_wf pppdPlugin ifname, ⟨rfl, rfl⟩, ?_, ?_, ?_, ?_⟩
      · simp [Plugin.start, Task.launch]
      · simp [Plugin.start]
      · simp
      · simp [Plugin.start]
    · rintro history s label t out ⟨hwf, hs⟩ hgiven hstep
      have hmoves := Plugin.step_moves hstep
      exact ⟨hmoves.wf hwf, hmoves.negotiates hs hwf hgiven⟩
  exact hboth.2

/-- Asking for a secret, whatever else goes on. `SecretsRequired` names the key `need_secrets` had
named, and the `Connect` behind it launches nothing; a `Connect` launches only what
`need_secrets` had found complete; and one that repeats another with the secret asked for is asked
for none, and whatever it launches has the credential of its method. -/
theorem secrets_negotiated {given : Nat → Connection} {pppdPlugin ifname : String}
    {history : List Event} {s : Plugin}
    (run : Run Plugin.step (givenCalls given) (.start pppdPlugin ifname) history s) :
    (∀ h key, .secretsRequired h key ∈ history →
      needSecrets (given h) pppdPlugin ifname = key ∧ s.sessions h = none) ∧
    (∀ h session, s.sessions h = some session →
      needSecrets (given h) pppdPlugin ifname = "" ∧
        session.launch = mapConnection (given h) pppdPlugin ifname false) ∧
    ∀ h k key value, .secretsRequired h key ∈ history → given k = supply (given h) key value →
      (∀ key', .secretsRequired k key' ∉ history) ∧
        ∀ session, s.sessions k = some session →
          Carries (vpnData (given k)) session.launch := by
  have hs := plugin_negotiates run
  refine ⟨?_, ?_, ?_⟩
  · intro h key hmem
    have hmissing := hs.asked h key hmem
    refine ⟨by simp [needSecrets, hmissing], ?_⟩
    cases hsession : s.sessions h with
    | none => rfl
    | some session =>
      rw [(hs.launched h session hsession).2] at hmissing
      cases hmissing
  · intro h session hsession
    obtain ⟨hlaunch, hnone⟩ := hs.launched h session hsession
    exact ⟨(needSecrets_eq_empty _ _ _).mpr hnone, hlaunch⟩
  · intro h k key value hmem hk
    obtain ⟨hnone, hcarries⟩ := supply_enough value (hs.asked h key hmem)
    rw [← hk] at hnone hcarries
    refine ⟨?_, ?_⟩
    · intro key' hmem'
      rw [hs.asked k key' hmem'] at hnone
      cases hnone
    · intro session hsession
      rw [(hs.launched k session hsession).1]
      exact hcarries pppdPlugin ifname

def withoutPassword : Connection :=
  vpnConnection [("gateway", "vpn.example"), ("user", "alice")] []

def askedOnce (h : Nat) : Connection :=
  if h = 0 then withoutPassword else supply withoutPassword "password" "x"

def askedOnceLabels : List Label :=
  [.connect 0 (askedOnce 0), .task 0, .task 0, .connect 1 (askedOnce 1), .task 1, .task 1, .task 1,
    .task 1]

theorem secrets_negotiated_askedOnce :
    ∃ history s, Run Plugin.step (givenCalls askedOnce) (.start "plugin.so" "ppp0") history s ∧
      .secretsRequired 0 "password" ∈ history ∧ ∃ session, s.sessions 1 = some session ∧
        Carries (vpnData (askedOnce 1)) session.launch := by
  obtain ⟨history, s, hexec, hmem, session, hsession⟩ : ∃ history s,
      exec Plugin.step (fun _ _ _ => true) [] (.start "plugin.so" "ppp0") askedOnceLabels =
        some (history, s) ∧ .secretsRequired 0 "password" ∈ history ∧
        ∃ session, s.sessions 1 = some session :=
    ⟨_, _, rfl, List.Mem.head _, _, rfl⟩
  have hgiven : ∀ label ∈ askedOnceLabels, ∀ history s,
      givenCalls askedOnce history s label := by
    rintro label hlabel history s h connection rfl
    simp only [askedOnceLabels, List.mem_cons, Label.connect.injEq, reduceCtorEq, or_false,
      false_or, List.not_mem_nil] at hlabel
    rcases hlabel with ⟨rfl, rfl⟩ | ⟨rfl, rfl⟩ <;> rfl
  have run := exec_run_mem hgiven .refl hexec
  obtain ⟨_, hcarries⟩ := (secrets_negotiated run).2.2 0 1 "password" "x" hmem rfl
  exact ⟨history, s, run, hmem, session, hsession, hcarries session hsession⟩

end CrosswireNm.Service
