import CrosswireNm.Service.CertLines
import CrosswireNm.Service.CommandLine
import CrosswireNm.Service.Secrets

/-!
# Trusting a changed certificate

The dialog replaces the pin of a connection; the next launch takes it from there.
-/

namespace CrosswireNm.Properties

open CrosswireNm.Library CrosswireNm.Service

/-- `nm_setting_vpn_add_data_item`: the item replaces an earlier one with its key. -/
def withDataItem (vpn : String → Option Value) (key item : String) : String → Option Value :=
  fun field =>
    if field = "data" then some (.dict ((ass vpn "data").insert key item)) else vpn field

/-- What `trust_and_reconnect` commits: without a VPN setting it fails. -/
def trustAndReconnect (conn : Connection) (digest : String) : Option Connection :=
  (conn "vpn").map fun vpn setting =>
    if setting = "vpn" then some (withDataItem vpn "trusted-cert" digest) else conn setting

theorem pins_certChange {lines : List String} {digest : String}
    (h : (scan lines).certChange = some digest) : pins digest = [digest] := by
  obtain ⟨_, before, line, after, _, ⟨_, left, right, hfirst⟩, _⟩ := (certChange_iff _ _).mp h
  have hclean : Clean (fun c => c == ',' || c == ' ') digest.toList := by
    intro c hc
    have hhex : isAsciiHexdigit c = true := by simpa using hfirst.maximal.clean c hc
    apply Bool.eq_false_iff.mpr
    intro hsep
    rcases Bool.or_eq_true_iff.mp hsep with hsep | hsep <;>
      · rw [beq_iff_eq.mp hsep] at hhex
        exact absurd hhex (by decide)
  have hlength : digest.toList.length = 64 := by
    have hpass := hfirst.passes
    simp only [isDigest, Bool.and_eq_true, beq_iff_eq] at hpass
    exact hpass.1
  have hne : digest.toList.isEmpty = false := by
    cases hlist : digest.toList with
    | nil => simp [hlist] at hlength
    | cons c cs => rfl
  unfold pins
  rw [List.splitOnP_eq_singleton hclean]
  simp [hne]

theorem vpnData_trust {conn conn' : Connection} {digest : String}
    (hsecrets : ∀ vpn, conn "vpn" = some vpn → ass vpn "secrets" "trusted-cert" = none)
    (hstore : trustAndReconnect conn digest = some conn') :
    vpnData conn' = (vpnData conn).insert "trusted-cert" digest := by
  obtain ⟨vpn, hvpn, rfl⟩ := Option.map_eq_some_iff.mp hstore
  have hnone := hsecrets vpn hvpn
  funext key
  have hdata : ass (withDataItem vpn "trusted-cert" digest) "data" =
      (ass vpn "data").insert "trusted-cert" digest := rfl
  have hsecret : ass (withDataItem vpn "trusted-cert" digest) "secrets" = ass vpn "secrets" := rfl
  simp only [vpnData, hvpn, if_true, Option.getD_some, hdata, hsecret, Dict.extend, Dict.insert]
  by_cases hkey : key = "trusted-cert"
  · simp [hkey, hnone]
  · simp [hkey]

/-- Nothing but the pins reads the `trusted-cert` key. -/
theorem frame_trusted_cert {data data' : Dict} {digest : String}
    (h : data' = data.insert "trusted-cert" digest) :
    serverOptions data' = serverOptions data ∧ trustOptions data' = trustOptions data ∧
      authOptions data' = authOptions data ∧ hostOf data' = hostOf data ∧
      authStdin data' = authStdin data ∧ missingSecret data' = missingSecret data := by
  have hkey : ∀ key, key ≠ "trusted-cert" → data' key = data key := by
    intro key hne
    rw [h, Dict.insert, if_neg hne]
  have hauth : authType data' = authType data := by
    unfold authType
    rw [hkey _ (by decide)]
  have hclass : authClass data' = authClass data := by
    unfold authClass
    rw [hauth]
  refine ⟨?_, ?_, ?_, ?_, ?_, ?_⟩
  · unfold serverOptions
    rw [hkey _ (by decide), hkey _ (by decide)]
  · unfold trustOptions
    rw [hkey _ (by decide), hkey _ (by decide)]
  · unfold authOptions
    rw [hclass, hkey _ (by decide), hkey _ (by decide), hkey _ (by decide)]
  · unfold hostOf
    rw [hkey _ (by decide)]
  · unfold authStdin
    rw [hauth, hkey _ (by decide)]
  · unfold missingSecret
    rw [hauth, hkey _ (by decide), hkey _ (by decide)]

/-- The launch differs from the one before in its pins only: there is one, the digest. -/
structure PinsOnly (digest : String) (launch launch' : Launch) : Prop where
  args : ∃ (front back : List (Opt String)) (old : List String) (host : String),
    launch.args = Opt.render (front ++ old.map (.valued "--trusted-cert") ++ back) ++ ["--", host] ∧
    launch'.args = Opt.render (front ++ [.valued "--trusted-cert" digest] ++ back) ++ ["--", host] ∧
    Opt.values "--trusted-cert" (front ++ back) = [] ∧
    Opt.read takesValue "--" launch'.args =
      some (front ++ [.valued "--trusted-cert" digest] ++ back, [host])
  stdin : launch'.stdin = launch.stdin
  missingSecret : launch'.missingSecret = launch.missingSecret

/-- Trusting the certificate a transcript presents pins exactly that certificate. -/
theorem trustAndReconnect_pins {lines : List String} {digest : String} {conn conn' : Connection}
    (hscan : (scan lines).certChange = some digest)
    (hsecrets : ∀ vpn, conn "vpn" = some vpn → ass vpn "secrets" "trusted-cert" = none)
    (hstore : trustAndReconnect conn digest = some conn') (pppdPlugin dev : String) :
    PinsOnly digest (mapConnection conn pppdPlugin dev false)
      (mapConnection conn' pppdPlugin dev false) := by
  have hdata := vpnData_trust hsecrets hstore
  obtain ⟨hserver, htrust, hauth, hhost, hstdin, hmissing⟩ := frame_trusted_cert hdata
  have hpins : pinned (vpnData conn') = [digest] := by
    simp [pinned, hdata, Dict.insert, pins_certChange hscan]
  have hoptions : launchOptions pppdPlugin dev (vpnData conn') =
      delegatedOptions pppdPlugin dev ++ serverOptions (vpnData conn) ++
        [.valued "--trusted-cert" digest] ++
        (trustOptions (vpnData conn) ++ authOptions (vpnData conn)) := by
    simp only [launchOptions, pinOptions, hpins, hserver, htrust, hauth, List.map_cons,
      List.map_nil, List.append_assoc]
  constructor
  · refine ⟨delegatedOptions pppdPlugin dev ++ serverOptions (vpnData conn),
      trustOptions (vpnData conn) ++ authOptions (vpnData conn), pinned (vpnData conn),
      hostOf (vpnData conn), ?_, ?_, ?_, ?_⟩
    · rw [mapConnection_args]
      simp only [launchOptions, pinOptions, List.append_assoc]
    · rw [mapConnection_args, hhost, hoptions]
    · simp [delegatedOptions, serverOptions, values_trustOptions, values_authOptions]
    · rw [mapConnection_read, hhost, hoptions]
  · rw [mapConnection_stdin, mapConnection_stdin, hstdin]
  · rw [mapConnection_missingSecret, mapConnection_missingSecret, hmissing]

def stalePins : Connection :=
  vpnConnection [("gateway", "gw"), ("trusted-cert", "old, older")]
    [("password", "--trusted-cert")]

theorem trustAndReconnect_pins_stale : ∃ conn',
    trustAndReconnect stalePins
      "e34e0d64da8ad0f6cb47a66e6bc9100a2d6ac3636455e12e89dd8663e0f5cf96" = some conn' ∧
    PinsOnly "e34e0d64da8ad0f6cb47a66e6bc9100a2d6ac3636455e12e89dd8663e0f5cf96"
      (mapConnection stalePins "/lib/pppd/nm.so" "ppp0" false)
      (mapConnection conn' "/lib/pppd/nm.so" "ppp0" false) := by
  have hscan : (scan
      ["sha256 digest: e34e0d64da8ad0f6cb47a66e6bc9100a2d6ac3636455e12e89dd8663e0f5cf96",
        "Error: gateway certificate not trusted"]).certChange =
      some "e34e0d64da8ad0f6cb47a66e6bc9100a2d6ac3636455e12e89dd8663e0f5cf96" := by
    decide +kernel
  have hsecrets : ∀ vpn, stalePins "vpn" = some vpn →
      ass vpn "secrets" "trusted-cert" = none := by
    intro vpn hvpn
    cases hvpn
    rfl
  exact ⟨_, rfl, trustAndReconnect_pins hscan hsecrets rfl "/lib/pppd/nm.so" "ppp0"⟩

end CrosswireNm.Properties
