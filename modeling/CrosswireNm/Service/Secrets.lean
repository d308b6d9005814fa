import CrosswireNm.Service.Config

/-!
# Whether a launch has its credential

`need_secrets` and the argument list are two readings of the same connection.
-/

namespace CrosswireNm.Service

/-- What NetworkManager hands to `Connect`: a stored connection with its secrets. -/
def withSecrets (conn : Connection) (secrets : Dict) : Connection :=
  fun setting =>
    if setting = "vpn" then
      (conn "vpn").map fun vpn field =>
        if field = "secrets" then some (.dict secrets) else vpn field
    else conn setting

def Carries (data : Dict) (launch : Launch) : Prop :=
  match authType data with
  | "saml" => "--saml-login" ∈ launch.args
  | "cookie" =>
    "--cookie-on-stdin" ∈ launch.args ∧ ∃ cookie, data "cookie" = some cookie ∧
      launch.stdin = some cookie
  | _ => ∃ password, data "password" = some password ∧
      ["--password", password] <:+: launch.args

def credentialKey (auth : String) : Option String :=
  match auth with
  | "saml" => none
  | "cookie" => some "cookie"
  | _ => some "password"

/-- What NM may conclude from `need_secrets`: no key means the launch has its credential (and
`do_connect` will not ask for one), a key means that very credential is absent. -/
def SecretsAgree (conn : Connection) (pppdPlugin dev : String) : Prop :=
  let launch := mapConnection conn pppdPlugin dev false
  let key := needSecrets conn pppdPlugin dev
  (key = "" ↔ launch.missingSecret = none) ∧
    (key = "" → Carries (vpnData conn) launch) ∧
    (key ≠ "" → credentialKey (authType (vpnData conn)) = some key ∧ vpnData conn key = none)

theorem authType_cases (data : Dict) :
    authType data = "saml" ∨ authType data = "cookie" ∨
      (authType data ≠ "saml" ∧ authType data ≠ "cookie") := by
  by_cases hsaml : authType data = "saml"
  · exact Or.inl hsaml
  · by_cases hcookie : authType data = "cookie"
    · exact Or.inr (Or.inl hcookie)
    · exact Or.inr (Or.inr ⟨hsaml, hcookie⟩)

section Other

variable {data : Dict} (hsaml : authType data ≠ "saml") (hcookie : authType data ≠ "cookie")
include hsaml hcookie

theorem missingSecret_other : missingSecret data =
    if (data "password").isNone && (data "cookie").isNone then some "password" else none := by
  unfold missingSecret
  split
  · exact absurd ‹_› hsaml
  · exact absurd ‹_› hcookie
  · rfl

private theorem authArgs_other : authArgs data =
    option "--username" (data "user") ++ option "--password" (data "password") ++
      option "--otp" (data "otp") := by
  unfold authArgs
  split
  · exact absurd ‹_› hsaml
  · exact absurd ‹_› hcookie
  · rfl

private theorem carries_other (launch : Launch) : Carries data launch ↔
    ∃ password, data "password" = some password ∧ ["--password", password] <:+: launch.args := by
  unfold Carries
  split
  · exact absurd ‹_› hsaml
  · exact absurd ‹_› hcookie
  · rfl

private theorem credentialKey_other : credentialKey (authType data) = some "password" := by
  unfold credentialKey
  split
  · exact absurd ‹_› hsaml
  · exact absurd ‹_› hcookie
  · rfl

end Other

theorem missingSecret_saml {data : Dict} (h : authType data = "saml") :
    missingSecret data = none := by
  simp [missingSecret, h]

theorem missingSecret_cookie {data : Dict} (h : authType data = "cookie") :
    missingSecret data = if (data "cookie").isNone then some "cookie" else none := by
  cases hc : data "cookie" <;> simp [missingSecret, h, hc]

@[simp] theorem mapConnection_missingSecret (conn : Connection) (pppdPlugin dev : String)
    (probe : Bool) :
    (mapConnection conn pppdPlugin dev probe).missingSecret = missingSecret (vpnData conn) := by
  cases probe <;> rfl

theorem mapConnection_stdin (conn : Connection) (pppdPlugin dev : String) :
    (mapConnection conn pppdPlugin dev false).stdin = authStdin (vpnData conn) := rfl

private theorem authArgs_within (conn : Connection) (pppdPlugin dev : String) :
    authArgs (vpnData conn) <:+: (mapConnection conn pppdPlugin dev false).args :=
  ⟨delegatedArgs pppdPlugin dev ++ gatewayArgs (vpnData conn), ["--", hostOf (vpnData conn)], rfl⟩

private theorem missingSecret_ne_empty {data : Dict} {key : String}
    (h : missingSecret data = some key) : key ≠ "" := by
  rcases authType_cases data with hauth | hauth | ⟨hsaml, hcookie⟩
  · simp [missingSecret_saml hauth] at h
  · rw [missingSecret_cookie hauth] at h
    split at h <;> simp at h
    subst h
    decide
  · rw [missingSecret_other hsaml hcookie] at h
    split at h <;> simp at h
    subst h
    decide

theorem needSecrets_eq_empty (conn : Connection) (pppdPlugin dev : String) :
    needSecrets conn pppdPlugin dev = "" ↔ missingSecret (vpnData conn) = none := by
  simp only [needSecrets, mapConnection_missingSecret]
  cases h : missingSecret (vpnData conn) with
  | none => simp
  | some key => simpa using missingSecret_ne_empty h

theorem secretsAgree_check (conn : Connection) (pppdPlugin dev : String) :
    SecretsAgree conn pppdPlugin dev ↔
      (missingSecret (vpnData conn) = none →
        Carries (vpnData conn) (mapConnection conn pppdPlugin dev false)) ∧
      (∀ key, missingSecret (vpnData conn) = some key →
        credentialKey (authType (vpnData conn)) = some key ∧ vpnData conn key = none) := by
  have hempty := needSecrets_eq_empty conn pppdPlugin dev
  simp only [SecretsAgree, ne_eq, hempty, mapConnection_missingSecret, true_and]
  refine and_congr_right fun _ => ?_
  cases hkey : missingSecret (vpnData conn) with
  | none => simp
  | some key =>
    have hname : needSecrets conn pppdPlugin dev = key := by simp [needSecrets, hkey]
    simp [hname]

private theorem secretsAgree_saml {conn : Connection} (pppdPlugin dev : String)
    (hauth : authType (vpnData conn) = "saml") : SecretsAgree conn pppdPlugin dev := by
  rw [secretsAgree_check, missingSecret_saml hauth]
  refine ⟨fun _ => ?_, nofun⟩
  have hmem : "--saml-login" ∈ authArgs (vpnData conn) := by simp [authArgs, hauth]
  simpa [Carries, hauth] using (authArgs_within conn pppdPlugin dev).subset hmem

theorem secretsAgree_cookie {conn : Connection} (pppdPlugin dev : String)
    (hauth : authType (vpnData conn) = "cookie") : SecretsAgree conn pppdPlugin dev := by
  rw [secretsAgree_check, missingSecret_cookie hauth]
  cases hc : vpnData conn "cookie" with
  | none =>
    refine ⟨nofun, fun key hkey => ?_⟩
    obtain rfl : "cookie" = key := Option.some.inj hkey
    exact ⟨by simp [credentialKey, hauth], hc⟩
  | some cookie =>
    refine ⟨fun _ => ?_, nofun⟩
    have hmem : "--cookie-on-stdin" ∈ authArgs (vpnData conn) := by simp [authArgs, hauth]
    have hstdin : (mapConnection conn pppdPlugin dev false).stdin = some cookie := by
      simp [mapConnection_stdin, authStdin, hauth, hc]
    simpa [Carries, hauth, hc, hstdin] using (authArgs_within conn pppdPlugin dev).subset hmem

theorem secretsAgree_other {conn : Connection} (pppdPlugin dev : String)
    (hsaml : authType (vpnData conn) ≠ "saml") (hcookie : authType (vpnData conn) ≠ "cookie") :
    SecretsAgree conn pppdPlugin dev ↔
      vpnData conn "password" ≠ none ∨ vpnData conn "cookie" = none := by
  rw [secretsAgree_check, missingSecret_other hsaml hcookie, carries_other hsaml hcookie]
  cases hp : vpnData conn "password" with
  | some password =>
    refine iff_of_true ⟨fun _ => ⟨password, rfl, ?_⟩, nofun⟩
      (Or.inl (by simp))
    refine List.IsInfix.trans ?_ (authArgs_within conn pppdPlugin dev)
    rw [authArgs_other hsaml hcookie, hp]
    exact ⟨option "--username" (vpnData conn "user"), option "--otp" (vpnData conn "otp"), rfl⟩
  | none =>
    cases hc : vpnData conn "cookie" with
    | none =>
      refine iff_of_true ⟨nofun, fun key hkey => ?_⟩ (Or.inr rfl)
      obtain rfl : "password" = key := Option.some.inj hkey
      exact ⟨credentialKey_other hsaml hcookie, hp⟩
    | some cookie =>
      refine iff_of_false (fun h => ?_) (by simp)
      obtain ⟨_, hnone, _⟩ := h.1 rfl
      cases hnone

/-- The sufficiency check agrees with the launch exactly when a cookie cannot stand in for a
password that the method needs. -/
theorem secretsAgree_iff (conn : Connection) (pppdPlugin dev : String) :
    SecretsAgree conn pppdPlugin dev ↔
      authType (vpnData conn) = "saml" ∨ authType (vpnData conn) = "cookie" ∨
        vpnData conn "password" ≠ none ∨ vpnData conn "cookie" = none := by
  rcases authType_cases (vpnData conn) with hauth | hauth | ⟨hsaml, hcookie⟩
  · exact iff_of_true (secretsAgree_saml pppdPlugin dev hauth) (Or.inl hauth)
  · exact iff_of_true (secretsAgree_cookie pppdPlugin dev hauth) (Or.inr (Or.inl hauth))
  · rw [secretsAgree_other pppdPlugin dev hsaml hcookie]
    exact ⟨fun h => Or.inr (Or.inr h), fun h => (h.resolve_left hsaml).resolve_left hcookie⟩

/-- Password authentication with nothing but a session cookie left from another method: no
secret is asked for, and the launch has no password. -/
theorem secretsAgree_stale_cookie :
    ¬ SecretsAgree (vpnConnection [("gateway", "vpn.example.com"), ("user", "alice")]
      [("cookie", "SVPNCOOKIE=abc")]) "/lib/pppd/nm.so" "ppp0" := by
  rintro ⟨_, hcarries, _⟩
  obtain ⟨password, hpassword, _⟩ := hcarries (by decide)
  cases hpassword

end CrosswireNm.Service
