import CrosswireNm.Properties.FirstConnection
import CrosswireNm.Service.CommandLine

/-!
# From an imported server to the host that crosswire is launched with
-/

namespace CrosswireNm.Properties

open Library Service

/-- What is stored for a server: a gateway, a port only of digits, and all of the server text. -/
structure UsableServer (server : String) (stored : Dict) : Prop where
  gateway : ∃ gateway, stored "gateway" = some gateway ∧ gateway ≠ ""
  port : ∀ port, stored "port" = some port → port ≠ "" ∧ ∀ c ∈ port.toList, c.isDigit = true
  whole : stored "port" = none → stored "gateway" = some server
  split : ∀ port, stored "port" = some port → ':' ∉ port.toList ∧
    ∃ gateway, stored "gateway" = some gateway ∧ server = gateway ++ ":" ++ port

/-- A colon and a port with no host in front. -/
def PortOnly (server : String) : Prop := ∃ port, server.toList = ':' :: port ∧ PortText port

private theorem portOnly_iff {server : String} {host port : List Char}
    (hserver : server.toList = host ++ ':' :: port) (hport : PortText port) :
    PortOnly server ↔ host = [] := by
  constructor
  · rintro ⟨port', hserver', hport'⟩
    have hsplit : host ++ ':' :: port = [] ++ ':' :: port' := by
      rw [← hserver, hserver', List.nil_append]
    exact (append_colon_inj hsplit hport.not_mem_colon hport'.not_mem_colon).1
  · rintro rfl
    exact ⟨port, hserver, hport⟩

/-- The gateway that is stored is empty for a port alone only. -/
private theorem stored_gateway (sVpn : SettingVpn) {server : String} (hne : server ≠ "") :
    ∃ gateway, Dict.ofPairs (applyServer sVpn server) "gateway" = some gateway ∧
      (gateway = "" ↔ PortOnly server) := by
  rcases applyServer_cases sVpn server with ⟨host, port, hserver, hport, hstored⟩ | ⟨hnone, hstored⟩
  · refine ⟨String.ofList host, ?_, ?_⟩
    · rw [hstored, Dict.ofPairs_append, Dict.ofPairs_append]
      rfl
    · rw [portOnly_iff hserver hport]
      exact String.ofList_eq_empty_iff
  · refine ⟨server, ?_, ?_⟩
    · rw [hstored, Dict.ofPairs_append]
      rfl
    · constructor
      · intro hempty
        exact absurd hempty hne
      · rintro ⟨port, hserver, hport⟩
        exact absurd hport (hnone [] port hserver)

private theorem usable_whole {server : String} (hne : server ≠ "") :
    UsableServer server (.ofPairs [("gateway", server)]) := by
  have hmissing : Dict.ofPairs [("gateway", server)] "port" = none := rfl
  constructor
  · exact ⟨server, rfl, hne⟩
  · intro port hport
    rw [hmissing] at hport
    cases hport
  · intro _
    rfl
  · intro port hport
    rw [hmissing] at hport
    cases hport

private theorem usable_split {server : String} {host port : List Char}
    (hserver : server.toList = host ++ ':' :: port) (hport : PortText port) (hhost : host ≠ []) :
    UsableServer server
      (.ofPairs ([("gateway", String.ofList host)] ++ [("port", String.ofList port)])) := by
  have hgateway : Dict.ofPairs
      ([("gateway", String.ofList host)] ++ [("port", String.ofList port)]) "gateway" =
      some (String.ofList host) := rfl
  have hstored : Dict.ofPairs
      ([("gateway", String.ofList host)] ++ [("port", String.ofList port)]) "port" =
      some (String.ofList port) := rfl
  constructor
  · exact ⟨_, hgateway, fun hempty => hhost (String.ofList_eq_empty_iff.mp hempty)⟩
  · intro port' hport'
    obtain rfl := Option.some.inj (hstored.symm.trans hport')
    refine ⟨fun hempty => hport.1 (String.ofList_eq_empty_iff.mp hempty), ?_⟩
    rw [String.toList_ofList]
    exact hport.2
  · intro hmissing
    rw [hstored] at hmissing
    cases hmissing
  · intro port' hport'
    obtain rfl := Option.some.inj (hstored.symm.trans hport')
    refine ⟨by rw [String.toList_ofList]; exact hport.not_mem_colon, _, hgateway, ?_⟩
    apply String.toList_inj.mp
    simp [hserver]

private theorem applyServer_append (sVpn : SettingVpn) (server : String) :
    applyServer sVpn server = sVpn ++ applyServer [] server := by
  unfold applyServer addDataItem
  split
  · split <;> simp
  · simp

private theorem usable_iff (sVpn : SettingVpn) {server : String} (hne : server ≠ "") :
    (∃ added, applyServer sVpn server = sVpn ++ added ∧ UsableServer server (.ofPairs added)) ↔
      ¬ PortOnly server := by
  constructor
  · rintro ⟨added, hadded, husable⟩ honly
    obtain ⟨gateway, hgateway, hgiven⟩ := husable.gateway
    obtain ⟨gateway', hgateway', hempty⟩ := stored_gateway [] hne
    have hstored : applyServer [] server = added :=
      List.append_cancel_left ((applyServer_append sVpn server).symm.trans hadded)
    rw [hstored, hgateway] at hgateway'
    exact hgiven ((Option.some.inj hgateway').trans (hempty.mpr honly))
  · intro honly
    rcases applyServer_cases sVpn server with
      ⟨host, port, hserver, hport, hstored⟩ | ⟨_, hstored⟩
    · rw [List.append_assoc] at hstored
      have hhost : host ≠ [] := fun hnil => honly ((portOnly_iff hserver hport).mpr hnil)
      exact ⟨_, hstored, usable_split hserver hport hhost⟩
    · exact ⟨_, hstored, usable_whole hne⟩

def serverText (markup : Markup) : String :=
  (markup.callbacks.foldl parserStep {}).server.getD ""

private theorem applyAuth_gateway (sVpn : SettingVpn) (p : FParse) :
    Dict.ofPairs (applyAuth sVpn p) "gateway" = Dict.ofPairs sVpn "gateway" := by
  unfold applyAuth addDataItem
  dsimp only
  split
  · rw [Dict.ofPairs_append, Dict.ofPairs_append]
    rfl
  · rw [Dict.ofPairs_append]
    rfl

private theorem fortinetParse_ok {sVpn items : SettingVpn} {markup : Markup} {id : Option String}
    (h : fortinetParse sVpn markup = .ok (items, id)) :
    serverText markup ≠ "" ∧ ∃ p, items = applyAuth (applyServer sVpn (serverText markup)) p := by
  unfold fortinetParse at h
  dsimp only at h
  split at h
  · cases h
  · split at h
    · rename_i hfilled
      refine ⟨by simpa [filled, serverText] using hfilled, markup.callbacks.foldl parserStep {}, ?_⟩
      exact (congrArg Prod.fst (Except.ok.inj h)).symm
    · cases h

private theorem launch_host {items secrets : List (String × String)} {gateway : String}
    (hgateway : Dict.ofPairs items "gateway" = some gateway)
    (hsecrets : Dict.ofPairs secrets "gateway" = none) (pppdPlugin dev : String) :
    (mapConnection (vpnConnection items secrets) pppdPlugin dev false).args.getLast? =
      some gateway := by
  have hdata : vpnData (vpnConnection items secrets) "gateway" = some gateway := by
    change (Dict.ofPairs secrets "gateway").or (Dict.ofPairs items "gateway") = some gateway
    rw [hsecrets, hgateway]
    rfl
  rw [mapConnection_args, List.getLast?_append]
  simp [hostOf, hdata]

/-- A server, and a file that is imported, is usable unless it names a port only. -/
theorem import_usable_iff (sVpn secrets : List (String × String))
    (hsecrets : Dict.ofPairs secrets "gateway" = none) (pppdPlugin dev : String) :
    (∀ server, server ≠ "" →
      ((∃ added, applyServer sVpn server = sVpn ++ added ∧
          UsableServer server (.ofPairs added)) ↔ ¬ PortOnly server)) ∧
    (∀ markup items id, fortinetParse sVpn markup = .ok (items, id) →
      ((mapConnection (vpnConnection items secrets) pppdPlugin dev false).args.getLast? ≠ some "" ↔
        ¬ PortOnly (serverText markup))) := by
  constructor
  · intro server hne
    exact usable_iff sVpn hne
  · intro markup items id hparse
    obtain ⟨hne, p, rfl⟩ := fortinetParse_ok hparse
    obtain ⟨gateway, hgateway, hempty⟩ := stored_gateway sVpn hne
    rw [← applyAuth_gateway _ p] at hgateway
    rw [launch_host hgateway hsecrets, ← hempty]
    exact not_congr Option.some_inj

private theorem not_portOnly_complete : ¬ PortOnly "vpn.example:10443" := by
  rintro ⟨port, hserver, _⟩
  have hhead : some 'v' = some ':' := congrArg List.head? hserver
  exact absurd hhead (by decide)

theorem import_usable_complete :
    (∃ added, applyServer [] "vpn.example:10443" = [] ++ added ∧
      UsableServer "vpn.example:10443" (.ofPairs added)) ∧
    ∃ items id, fortinetParse [] ⟨completeFile.callbacks, none⟩ = .ok (items, id) ∧
      (mapConnection (vpnConnection items [("password", "x")]) "plugin.so" "crosswire0"
        false).args.getLast? ≠ some "" := by
  have htext : serverText ⟨completeFile.callbacks, none⟩ = "vpn.example:10443" := by decide +kernel
  have hparse : fortinetParse [] ⟨completeFile.callbacks, none⟩ =
      .ok ([("gateway", "vpn.example"), ("port", "10443"), ("auth-type", "password"),
        ("user", "alice")], some "Work") := by decide +kernel
  obtain ⟨hservers, hfiles⟩ :=
    import_usable_iff [] [("password", "x")] rfl "plugin.so" "crosswire0"
  refine ⟨(hservers "vpn.example:10443" (by decide)).mpr not_portOnly_complete, _, _, hparse, ?_⟩
  apply (hfiles _ _ _ hparse).mpr
  rw [htext]
  exact not_portOnly_complete

def portOnlyFile : Content String Char :=
  fortiClientFile [[("name", "Work"), ("server", ":443")]]

/-- It is imported, and launched with an empty host. -/
theorem portOnlyFile_unusable :
    (¬ ∃ added, applyServer [] ":443" = [] ++ added ∧ UsableServer ":443" (.ofPairs added)) ∧
    ∃ items, fortinetParse [("provider", "fortinet")] ⟨portOnlyFile.callbacks, none⟩ =
        .ok (items, some "Work") ∧
      (mapConnection (vpnConnection items [("password", "x")]) "plugin.so" "crosswire0"
        false).args.getLast? = some "" := by
  have hparse : fortinetParse [("provider", "fortinet")] ⟨portOnlyFile.callbacks, none⟩ =
      .ok ([("provider", "fortinet"), ("gateway", ""), ("port", "443"),
        ("auth-type", "password")], some "Work") := by decide +kernel
  have honly : PortOnly ":443" := ⟨['4', '4', '3'], rfl, by decide, List.all_eq_true.mp rfl⟩
  constructor
  · intro husable
    exact (usable_iff [] (by decide)).mp husable honly
  · exact ⟨_, hparse, launch_host rfl rfl "plugin.so" "crosswire0"⟩

end CrosswireNm.Properties
