import CrosswireNm.Library.Options
import CrosswireNm.Service.Config

/-!
# What a command line says

The argument list of a launch, read as options. Two connections with one argument list and one
stdin ask for the same session.
-/

namespace CrosswireNm.Service

open CrosswireNm.Library

inductive AuthClass
  | saml
  | cookie
  | other
  deriving DecidableEq, Repr

def authClass (data : Dict) : AuthClass :=
  if authType data = "saml" then .saml
  else if authType data = "cookie" then .cookie
  else .other

theorem authArgs_eq (data : Dict) : authArgs data =
    match authClass data with
    | .saml => ["--saml-login"]
    | .cookie => ["--cookie-on-stdin"]
    | .other =>
      option "--username" (data "user") ++ option "--password" (data "password") ++
        option "--otp" (data "otp") := by
  unfold authArgs
  split <;> simp_all [authClass]

theorem authStdin_eq (data : Dict) : authStdin data =
    match authClass data with
    | .cookie => data "cookie"
    | _ => none := by
  unfold authStdin
  split
  · simp_all [authClass]
  · by_cases hsaml : authType data = "saml" <;> simp_all [authClass]

/-- The flags of crosswire the service gives a value. -/
def valuedFlags : List String :=
  ["--set-routes", "--set-dns", "--set-ip", "--pppd-ifname", "--pppd-plugin", "--port", "--realm",
    "--trusted-cert", "--ca-file", "--username", "--password", "--otp"]

def takesValue (flag : String) : Bool := valuedFlags.contains flag

def pinned (data : Dict) : List String := ((data "trusted-cert").map pins).getD []

def delegatedOptions (pppdPlugin dev : String) : List (Opt String) :=
  [.valued "--set-routes" "false", .valued "--set-dns" "false", .valued "--set-ip" "false",
    .valued "--pppd-ifname" dev, .valued "--pppd-plugin" pppdPlugin]

def serverOptions (data : Dict) : List (Opt String) :=
  (data "port").toList.map (.valued "--port") ++ (data "realm").toList.map (.valued "--realm")

def pinOptions (data : Dict) : List (Opt String) :=
  (pinned data).map (.valued "--trusted-cert")

def trustOptions (data : Dict) : List (Opt String) :=
  (data "ca-file").toList.map (.valued "--ca-file") ++
    if data "insecure-ssl" = some "yes" then [.switch "--insecure-ssl"] else []

def authOptions (data : Dict) : List (Opt String) :=
  match authClass data with
  | .saml => [.switch "--saml-login"]
  | .cookie => [.switch "--cookie-on-stdin"]
  | .other =>
    (data "user").toList.map (.valued "--username") ++
      (data "password").toList.map (.valued "--password") ++
      (data "otp").toList.map (.valued "--otp")

def launchOptions (pppdPlugin dev : String) (data : Dict) : List (Opt String) :=
  delegatedOptions pppdPlugin dev ++ serverOptions data ++ pinOptions data ++ trustOptions data ++
    authOptions data

private theorem render_optional (flag : String) (value : Option String) :
    Opt.render (value.toList.map (.valued flag)) = option flag value := by
  cases value <;> rfl

private theorem render_pinOptions (data : Dict) :
    Opt.render (pinOptions data) = pinArgs (data "trusted-cert") := by
  have hmap : ∀ digests : List String, Opt.render (digests.map (.valued "--trusted-cert")) =
      digests.flatMap (fun pin => ["--trusted-cert", pin]) := by
    intro digests
    induction digests with
    | nil => rfl
    | cons pin digests ih => simpa [Opt.tokens] using ih
  cases hcert : data "trusted-cert" with
  | none => simp [pinOptions, pinned, hcert, pinArgs]
  | some cert => simpa [pinOptions, pinned, hcert, pinArgs] using hmap (pins cert)

private theorem render_authOptions (data : Dict) :
    Opt.render (authOptions data) = authArgs data := by
  rw [authArgs_eq, authOptions]
  cases authClass data with
  | saml => rfl
  | cookie => rfl
  | other => simp [render_optional]

private theorem render_gatewayOptions (data : Dict) :
    Opt.render (serverOptions data ++ pinOptions data ++ trustOptions data) =
      gatewayArgs data := by
  have hinsecure : Opt.render
      (if data "insecure-ssl" = some "yes" then [Opt.switch "--insecure-ssl"] else []) =
      if data "insecure-ssl" = some "yes" then ["--insecure-ssl"] else [] := by
    split <;> rfl
  simp only [serverOptions, trustOptions, gatewayArgs, Opt.render_append, render_optional,
    render_pinOptions, hinsecure, List.append_assoc]

theorem mapConnection_args (conn : Connection) (pppdPlugin dev : String) :
    (mapConnection conn pppdPlugin dev false).args =
      Opt.render (launchOptions pppdPlugin dev (vpnData conn)) ++
        ["--", hostOf (vpnData conn)] := by
  have hdelegated : Opt.render (delegatedOptions pppdPlugin dev) = delegatedArgs pppdPlugin dev :=
    rfl
  have hgateway := render_gatewayOptions (vpnData conn)
  have hauth := render_authOptions (vpnData conn)
  simp only [Opt.render_append, List.append_assoc] at hgateway
  simp only [launchOptions, Opt.render_append, List.append_assoc, hdelegated, hauth]
  simp only [mapConnection, Bool.false_eq_true, if_false, ← hgateway, List.append_assoc]

/-- Every flag the service gives a value takes one, and no other does. -/
private theorem launchOptions_fit (pppdPlugin dev : String) (data : Dict) :
    ∀ opt ∈ launchOptions pppdPlugin dev data, opt.Fits takesValue "--" := by
  have hvalued : ∀ flag ∈ valuedFlags, ∀ values : List String,
      ∀ opt ∈ values.map (Opt.valued flag), opt.Fits takesValue "--" := by
    intro flag hflag values opt hopt
    obtain ⟨value, _, rfl⟩ := List.mem_map.mp hopt
    refine ⟨?_, List.contains_iff_mem.mpr hflag⟩
    rintro rfl
    exact absurd hflag (by decide)
  have hswitch : ∀ flag ∈ ["--insecure-ssl", "--saml-login", "--cookie-on-stdin"],
      (Opt.switch flag).Fits takesValue "--" := by
    unfold Opt.Fits
    decide
  intro opt hopt
  simp only [launchOptions, List.mem_append] at hopt
  rcases hopt with (((hopt | hopt) | hopt) | hopt) | hopt
  · have hdelegated : delegatedOptions pppdPlugin dev =
        ["false"].map (.valued "--set-routes") ++ ["false"].map (.valued "--set-dns") ++
          ["false"].map (.valued "--set-ip") ++ [dev].map (.valued "--pppd-ifname") ++
          [pppdPlugin].map (.valued "--pppd-plugin") := rfl
    rw [hdelegated] at hopt
    simp only [List.mem_append] at hopt
    rcases hopt with (((hopt | hopt) | hopt) | hopt) | hopt <;>
      exact hvalued _ (by decide) _ opt hopt
  · rcases List.mem_append.mp hopt with hopt | hopt <;> exact hvalued _ (by decide) _ opt hopt
  · exact hvalued _ (by decide) _ opt hopt
  · rcases List.mem_append.mp hopt with hopt | hopt
    · exact hvalued _ (by decide) _ opt hopt
    · split at hopt
      · exact List.mem_singleton.mp hopt ▸ hswitch _ (by decide)
      · exact absurd hopt List.not_mem_nil
  · unfold authOptions at hopt
    split at hopt
    · exact List.mem_singleton.mp hopt ▸ hswitch _ (by decide)
    · exact List.mem_singleton.mp hopt ▸ hswitch _ (by decide)
    · simp only [List.mem_append] at hopt
      rcases hopt with (hopt | hopt) | hopt <;> exact hvalued _ (by decide) _ opt hopt

/-- Read left to right, the command line is the launch's options and, behind the separator, the
host alone. -/
theorem mapConnection_read (conn : Connection) (pppdPlugin dev : String) :
    Opt.read takesValue "--" (mapConnection conn pppdPlugin dev false).args =
      some (launchOptions pppdPlugin dev (vpnData conn), [hostOf (vpnData conn)]) := by
  rw [mapConnection_args]
  exact Opt.read_render (launchOptions_fit pppdPlugin dev (vpnData conn)) _

/-- What two connections have in common when they ask crosswire for one session: a missing host
counts as empty, and of the credentials those the authentication uses. -/
structure SameSession (data data' : Dict) : Prop where
  host : hostOf data = hostOf data'
  port : data "port" = data' "port"
  realm : data "realm" = data' "realm"
  pins : pinned data = pinned data'
  caFile : data "ca-file" = data' "ca-file"
  insecure : data "insecure-ssl" = some "yes" ↔ data' "insecure-ssl" = some "yes"
  auth : authClass data = authClass data'
  credentials : match authClass data with
    | .saml => True
    | .cookie => data "cookie" = data' "cookie"
    | .other => data "user" = data' "user" ∧ data "password" = data' "password" ∧
        data "otp" = data' "otp"

section Values

variable (pppdPlugin dev : String) (data : Dict)

theorem values_trustOptions (flag : String) :
    Opt.values flag (trustOptions data) =
      if "--ca-file" = flag then (data "ca-file").toList else [] := by
  have hinsecure : Opt.values flag
      (if data "insecure-ssl" = some "yes" then [Opt.switch "--insecure-ssl"] else []) = [] := by
    split <;> simp
  simp only [trustOptions, Opt.values_append, Opt.values_map_valued, hinsecure, List.append_nil]

theorem values_authOptions (flag : String) :
    Opt.values flag (authOptions data) =
      if authClass data = .other then
        (if "--username" = flag then (data "user").toList else []) ++
          (if "--password" = flag then (data "password").toList else []) ++
          (if "--otp" = flag then (data "otp").toList else [])
      else [] := by
  unfold authOptions
  split <;> simp [*]

private theorem values_launchOptions (flag : String) :
    Opt.values flag (launchOptions pppdPlugin dev data) =
      Opt.values flag (delegatedOptions pppdPlugin dev) ++
        ((if "--port" = flag then (data "port").toList else []) ++
          (if "--realm" = flag then (data "realm").toList else [])) ++
        (if "--trusted-cert" = flag then pinned data else []) ++
        (if "--ca-file" = flag then (data "ca-file").toList else []) ++
        Opt.values flag (authOptions data) := by
  simp only [launchOptions, serverOptions, pinOptions, Opt.values_append, Opt.values_map_valued,
    values_trustOptions]

private theorem switch_mem_launchOptions (flag : String) :
    Opt.switch flag ∈ launchOptions pppdPlugin dev data ↔
      flag = "--insecure-ssl" ∧ data "insecure-ssl" = some "yes" ∨
        flag = "--saml-login" ∧ authClass data = .saml ∨
        flag = "--cookie-on-stdin" ∧ authClass data = .cookie := by
  have hauth : Opt.switch flag ∈ authOptions data ↔
      flag = "--saml-login" ∧ authClass data = .saml ∨
        flag = "--cookie-on-stdin" ∧ authClass data = .cookie := by
    unfold authOptions
    split <;> simp [*]
  have htrust : Opt.switch flag ∈ trustOptions data ↔
      flag = "--insecure-ssl" ∧ data "insecure-ssl" = some "yes" := by
    unfold trustOptions
    split <;> simp [*]
  simp [launchOptions, delegatedOptions, serverOptions, pinOptions, hauth, htrust]

end Values

section Same

variable {pppdPlugin dev : String} {data data' : Dict}

private theorem option_of_toList {value value' : Option String}
    (h : value.toList = value'.toList) : value = value' := by
  cases value <;> cases value' <;> simp_all

private theorem authClass_eq
    (h : launchOptions pppdPlugin dev data = launchOptions pppdPlugin dev data') :
    authClass data = authClass data' := by
  have hsaml : authClass data = .saml ↔ authClass data' = .saml := by
    have hmem := switch_mem_launchOptions pppdPlugin dev data "--saml-login"
    rw [h, switch_mem_launchOptions] at hmem
    simpa using hmem.symm
  have hcookie : authClass data = .cookie ↔ authClass data' = .cookie := by
    have hmem := switch_mem_launchOptions pppdPlugin dev data "--cookie-on-stdin"
    rw [h, switch_mem_launchOptions] at hmem
    simpa using hmem.symm
  cases hclass : authClass data <;> cases hclass' : authClass data' <;> simp_all

/-- Each field of the connection is what its own flag has in the launch. -/
theorem sameSession_of_options
    (h : launchOptions pppdPlugin dev data = launchOptions pppdPlugin dev data')
    (hhost : hostOf data = hostOf data') (hstdin : authStdin data = authStdin data') :
    SameSession data data' := by
  have hclass := authClass_eq h
  have hvalues : ∀ flag, Opt.values flag (launchOptions pppdPlugin dev data) =
      Opt.values flag (launchOptions pppdPlugin dev data') := fun flag => by rw [h]
  simp only [values_launchOptions, values_authOptions, ← hclass] at hvalues
  refine
    { host := hhost
      port := ?_
      realm := ?_
      pins := ?_
      caFile := ?_
      insecure := ?_
      auth := hclass
      credentials := ?_ }
  · apply option_of_toList
    simpa [delegatedOptions] using hvalues "--port"
  · apply option_of_toList
    simpa [delegatedOptions] using hvalues "--realm"
  · simpa [delegatedOptions] using hvalues "--trusted-cert"
  · apply option_of_toList
    simpa [delegatedOptions] using hvalues "--ca-file"
  · have hmem := switch_mem_launchOptions pppdPlugin dev data "--insecure-ssl"
    rw [h, switch_mem_launchOptions] at hmem
    simpa using hmem.symm
  · split
    · trivial
    · rename_i hcookie
      simpa [authStdin_eq, hcookie, ← hclass] using hstdin
    · rename_i hother
      simp only [hother, if_true] at hvalues
      refine ⟨?_, ?_, ?_⟩
      · apply option_of_toList
        simpa [delegatedOptions] using hvalues "--username"
      · apply option_of_toList
        simpa [delegatedOptions] using hvalues "--password"
      · apply option_of_toList
        simpa [delegatedOptions] using hvalues "--otp"

end Same

/-- The command line is unambiguous: it reads as the launch's options and the host, and two
connections with equal arguments and equal stdin ask for the same session. -/
theorem mapConnection_unambiguous (pppdPlugin dev : String) :
    (∀ conn, Opt.read takesValue "--" (mapConnection conn pppdPlugin dev false).args =
      some (launchOptions pppdPlugin dev (vpnData conn), [hostOf (vpnData conn)])) ∧
    ∀ conn conn',
      (mapConnection conn pppdPlugin dev false).args =
        (mapConnection conn' pppdPlugin dev false).args →
      (mapConnection conn pppdPlugin dev false).stdin =
        (mapConnection conn' pppdPlugin dev false).stdin →
      SameSession (vpnData conn) (vpnData conn') := by
  refine ⟨fun conn => mapConnection_read conn pppdPlugin dev, ?_⟩
  intro conn conn' hargs hstdin
  have hread := mapConnection_read conn pppdPlugin dev
  rw [hargs, mapConnection_read] at hread
  have hpair := (Option.some.inj hread).symm
  have hhost := (List.cons.inj (congrArg Prod.snd hpair)).1
  exact sameSession_of_options (congrArg Prod.fst hpair) hhost hstdin

/-- A pin list may be written with commas or blanks. -/
theorem mapConnection_unambiguous_separators :
    SameSession
      (vpnData (vpnConnection [("gateway", "--"), ("realm", "--port"), ("trusted-cert", "a,b")] []))
      (vpnData (vpnConnection [("gateway", "--"), ("realm", "--port"), ("trusted-cert", " a b")]
        [])) :=
  (mapConnection_unambiguous "/lib/pppd/nm.so" "ppp0").2 _ _ (by decide) (by decide)

end CrosswireNm.Service
