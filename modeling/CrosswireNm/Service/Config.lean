import CrosswireNm.Library.Text

/-!
# From an NM connection to a crosswire command line
-/

namespace CrosswireNm.Service

open Library

/-- A string map as the service reads it: key to value, if present. -/
abbrev Dict := String → Option String

def Dict.extend (dict added : Dict) : Dict := fun key => (added key).or (dict key)

def Dict.insert (dict : Dict) (key item : String) : Dict :=
  fun name => if name = key then some item else dict name

/-- Pairs as they arrive on the bus; a later pair replaces an earlier one with its key. -/
def Dict.ofPairs (pairs : List (String × String)) : Dict := fun key => pairs.reverse.lookup key

theorem Dict.ofPairs_append (pairs : List (String × String)) (key item : String) :
    Dict.ofPairs (pairs ++ [(key, item)]) = (Dict.ofPairs pairs).insert key item := by
  funext name
  exact (lastValue_append pairs key name item).trans (if_congr eq_comm rfl rfl)

inductive Value
  | str (value : String)
  | dict (entries : Dict)
  | other

abbrev Connection := String → Option (String → Option Value)

/-- A nested `a{ss}` field of the `vpn` setting; anything else there reads as empty. -/
def ass (vpn : String → Option Value) (field : String) : Dict :=
  match vpn field with
  | some (.dict entries) => entries
  | _ => fun _ => none

def vpnConnection (data secrets : List (String × String)) : Connection :=
  fun setting =>
    if setting = "vpn" then
      some fun field =>
        if field = "data" then some (.dict (.ofPairs data))
        else if field = "secrets" then some (.dict (.ofPairs secrets))
        else none
    else none

/-- Everything the supervisor needs to launch crosswire for one connection. -/
structure Launch where
  args : List String := []
  stdin : Option String := none
  missingSecret : Option String := none
  gateway : Option String := none
  uuid : Option String := none
  deriving DecidableEq, Repr

/-- The `vpn` setting's data and secrets in one lookup; secrets win. -/
def vpnData (conn : Connection) : Dict :=
  let vpn := (conn "vpn").getD (fun _ => none)
  (ass vpn "data").extend (ass vpn "secrets")

/-- The UUID in the top-level `connection` setting, unless it is empty or no string. -/
def connectionUuid (conn : Connection) : Option String :=
  match (conn "connection").bind (fun setting => setting "uuid") with
  | some (.str uuid) => if uuid = "" then none else some uuid
  | _ => none

def authType (data : Dict) : String := (data "auth-type").getD "password"

def missingSecret (data : Dict) : Option String :=
  match authType data with
  | "saml" => none
  | "cookie" =>
    if (data "cookie").isNone then some "cookie"
    else if (data "password").isNone && (data "cookie").isNone then some "password"
    else none
  | _ => if (data "password").isNone && (data "cookie").isNone then some "password" else none

def option (flag : String) (value : Option String) : List String :=
  match value with
  | some value => [flag, value]
  | none => []

/-- The pinned digests: the non-empty pieces between commas and blanks. -/
def pins (cert : String) : List String :=
  ((cert.toList.splitOnP (fun c => c == ',' || c == ' ')).filter (fun pin => !pin.isEmpty)).map
    String.ofList

def pinArgs (cert : Option String) : List String :=
  match cert with
  | some cert => (pins cert).flatMap (fun pin => ["--trusted-cert", pin])
  | none => []

def delegatedArgs (pppdPlugin dev : String) : List String :=
  ["--set-routes", "false", "--set-dns", "false", "--set-ip", "false",
    "--pppd-ifname", dev, "--pppd-plugin", pppdPlugin]

def gatewayArgs (data : Dict) : List String :=
  option "--port" (data "port") ++ option "--realm" (data "realm") ++
    pinArgs (data "trusted-cert") ++ option "--ca-file" (data "ca-file") ++
    if data "insecure-ssl" = some "yes" then ["--insecure-ssl"] else []

def authArgs (data : Dict) : List String :=
  match authType data with
  | "saml" => ["--saml-login"]
  | "cookie" => ["--cookie-on-stdin"]
  | _ =>
    option "--username" (data "user") ++ option "--password" (data "password") ++
      option "--otp" (data "otp")

def authStdin (data : Dict) : Option String :=
  match authType data with
  | "cookie" => data "cookie"
  | _ => none

def hostOf (data : Dict) : String := (data "gateway").getD ""

/-- Maps a connection into a command line; a probe only reports what is missing. -/
def mapConnection (conn : Connection) (pppdPlugin dev : String) (interactiveProbe : Bool) :
    Launch :=
  let data := vpnData conn
  let probe : Launch :=
    { missingSecret := missingSecret data
      gateway := if hostOf data = "" then none else some (hostOf data)
      uuid := connectionUuid conn }
  if interactiveProbe then probe
  else
    { probe with
      args := delegatedArgs pppdPlugin dev ++ gatewayArgs data ++ authArgs data ++
        ["--", hostOf data]
      stdin := authStdin data }

/-- `need_secrets`: the key NM must still collect, empty when there is none. -/
def needSecrets (conn : Connection) (pppdPlugin dev : String) : String :=
  (mapConnection conn pppdPlugin dev true).missingSecret.getD ""

end CrosswireNm.Service
