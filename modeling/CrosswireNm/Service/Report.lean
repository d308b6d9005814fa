import CrosswireNm.Library.Text
import CrosswireNm.Service.SetConfig

/-!
# What NM hears of a tunnel

crosswire writes the parameters of the tunnel into the environment of pppd, the plugin reads them
there, and the service passes its dictionaries on.
-/

namespace CrosswireNm.Service

open Library PppdPlugin

/-- The parameters of a tunnel, as the environment contract has them. -/
structure TunnelParams where
  routes : List Route
  dns : List IPv4
  suffix : Option CStr
  deriving DecidableEq

def TunnelParams.pppd (params : TunnelParams) (order : ByteOrder) (ifname : CStr)
    (dns0 dns1 : UInt32) : Pppd where
  order := order
  ifname := ifname
  crosswireRoutes := some (commaJoin (params.routes.map Route.encode))
  crosswireDns := some (commaJoin (params.dns.map encodeServer))
  crosswireDnsSuffix := params.suffix
  dns0 := dns0
  dns1 := dns1

structure TunnelReport where
  address : UInt32
  peer : UInt32
  dns : List UInt32
  domain : Option CStr
  rows : List (List UInt32)
  deriving DecidableEq

/-- The entries of `Ip4Config`: what there is none of has no entry. -/
def TunnelReport.config (report : TunnelReport) : Config := fun key =>
  if key = "address" then some (.uint32 report.address)
  else if key = "prefix" then some (.uint32 32)
  else if key = "ptp" then if report.peer = 0 then none else some (.uint32 report.peer)
  else if key = "dns" then if report.dns = [] then none else some (.au report.dns)
  else if key = "domain" then report.domain.map .string
  else if key = "routes" then if report.rows = [] then none else some (.aau report.rows)
  else if key = "never-default" then if report.rows = [] then none else some (.boolean true)
  else none

/-- The first servers of the contract, IPCP's if it has none; a suffix that is not empty; the first
routes. -/
def TunnelParams.report (params : TunnelParams) (order : ByteOrder)
    (dns0 dns1 address peer : UInt32) : TunnelReport where
  address := address
  peer := peer
  dns :=
    if params.dns = [] then [dns0, dns1].filter (· != 0)
    else (params.dns.map (IPv4.sAddr order)).take 16
  domain := params.suffix.filter (·.text ≠ [])
  rows := (params.routes.map (Route.row order)).take maxRoutes

/-- As much as the plugin's arrays hold, and no suffix where there is none. -/
structure TunnelParams.Fits (params : TunnelParams) : Prop where
  routes : params.routes.length ≤ maxRoutes
  dns : params.dns.length ≤ 16
  suffix : ∀ suffix, params.suffix = some suffix → suffix.text ≠ []

section Relay

variable {order : ByteOrder} {toSocketAddrs : String → Option (List IpAddr)}
  {gateway : Option String} {ifname : CStr} {ifaddrs : Option (List Ifaddrs)}
  {address peer : UInt32}

end Relay

end CrosswireNm.Service
