import CrosswireNm.PppdPlugin.Netparams
import Mathlib.Data.List.TakeDrop

/-!
# The plugin at ip-up

The two dictionaries the service is called with when the interface has its address.
-/

namespace CrosswireNm.PppdPlugin

open Library

inductive Variant
  | string (value : CStr)
  | uint32 (value : UInt32)
  | boolean (value : Bool)
  | au (values : List UInt32)
  | aau (rows : List (List UInt32))
  deriving DecidableEq, Repr

abbrev Asv := List (String × Variant)

def kAddress : String := "address"
def kPrefix : String := "prefix"
def kGateway : String := "gateway"
def kDns : String := "dns"
def kTundev : String := "tundev"
def kHasIp4 : String := "has-ip4"
def kPtp : String := "ptp"
def kRoutes : String := "routes"
def kNeverDefault : String := "never-default"
def kDomain : String := "domain"

structure Pppd where
  order : ByteOrder
  ifname : CStr
  crosswireRoutes : Option CStr
  crosswireDns : Option CStr
  crosswireDnsSuffix : Option CStr
  dns0 : UInt32
  dns1 : UInt32
  deriving DecidableEq, Repr

def dnsServers (pppd : Pppd) : List UInt32 :=
  let servers := nmoParseDns pppd.order pppd.crosswireDns 16
  if 0 < servers.length then servers else [pppd.dns0, pppd.dns1].filter (· != 0)

def addDns (pppd : Pppd) (ip4 : Asv) : Asv :=
  let dns := dnsServers pppd
  let ip4 := if 0 < dns.length then ip4 ++ [(kDns, .au dns)] else ip4
  match pppd.crosswireDnsSuffix with
  | none => ip4
  | some suffix => if suffix.text = [] then ip4 else ip4 ++ [(kDomain, .string suffix)]

/-- One row of `routes`: the next hop and the metric are left to NM. -/
def routeRow (route : NmoRoute) : List UInt32 := [route.networkBe, route.prefixLength, 0, 0]

def maxRoutes : Nat := 256

def addSplitRoutes (pppd : Pppd) (ip4 : Asv) : Asv :=
  let parsed := nmoParseRoutes pppd.order pppd.crosswireRoutes maxRoutes
  if parsed.length = 0 then ip4
  else ip4 ++ [(kRoutes, .aau (parsed.map routeRow)), (kNeverDefault, .boolean true)]

structure SockAddr where
  inet : Bool
  sAddr : UInt32
  deriving DecidableEq, Repr

structure Ifaddrs where
  name : CStr
  addr : Option SockAddr
  dstaddr : Option SockAddr
  deriving DecidableEq, Repr

/-- The first IPv4 address of the interface, and its peer; 0 when there is none. -/
def readIfaddrs (dev : CStr) (ifaddrs : List Ifaddrs) : Option (UInt32 × UInt32) :=
  match ifaddrs with
  | [] => none
  | ifa :: rest =>
    match ifa.addr with
    | none => readIfaddrs dev rest
    | some addr =>
      if !addr.inet || ifa.name ≠ dev then readIfaddrs dev rest
      else some (addr.sAddr, (ifa.dstaddr.map SockAddr.sAddr).getD 0)

def genericConfig (pppd : Pppd) (peer : UInt32) : Asv :=
  let cfg : Asv := [(kTundev, .string pppd.ifname), (kHasIp4, .boolean true)]
  if peer ≠ 0 then cfg ++ [(kGateway, .uint32 peer)] else cfg

def ip4Config (pppd : Pppd) (address peer : UInt32) : Asv :=
  let ip4 : Asv := [(kAddress, .uint32 address), (kPrefix, .uint32 32)]
  let ip4 := if peer ≠ 0 then ip4 ++ [(kPtp, .uint32 peer)] else ip4
  addSplitRoutes pppd (addDns pppd ip4)

structure Call where
  method : String
  dict : Asv
  deriving DecidableEq, Repr

/-- `bus` says whether the system bus is there, `ifaddrs` what `getifaddrs` returns. -/
def nmIpUp (pppd : Pppd) (bus : Bool) (ifaddrs : Option (List Ifaddrs)) : List Call :=
  if !bus then []
  else
    match ifaddrs.bind (readIfaddrs pppd.ifname) with
    | none => []
    | some (address, peer) =>
      [⟨"SetConfig", genericConfig pppd peer⟩, ⟨"SetIp4Config", ip4Config pppd address peer⟩]

theorem nmIpUp_order (pppd : Pppd) (bus : Bool) (ifaddrs : Option (List Ifaddrs)) :
    nmIpUp pppd bus ifaddrs = [] ∨ ∃ config ip4,
      nmIpUp pppd bus ifaddrs = [⟨"SetConfig", config⟩, ⟨"SetIp4Config", ip4⟩] := by
  unfold nmIpUp
  split
  · exact Or.inl rfl
  · split
    · exact Or.inl rfl
    · exact Or.inr ⟨_, _, rfl⟩

private theorem addSplitRoutes_append (pppd : Pppd) (ip4 : Asv) :
    addSplitRoutes pppd ip4 = ip4 ++ addSplitRoutes pppd [] := by
  unfold addSplitRoutes
  dsimp only
  split
  · rw [List.append_nil]
  · rw [List.nil_append]

private theorem addDns_lookup (pppd : Pppd) (ip4 : Asv) {key : String} (hdns : key ≠ kDns)
    (hdomain : key ≠ kDomain) : (addDns pppd ip4).lookup key = ip4.lookup key := by
  have hkey : ∀ (base : Asv) (name : String) (value : Variant), key ≠ name →
      (base ++ [(name, value)]).lookup key = base.lookup key := by
    intro base name value hne
    have hother : (key == name) = false := beq_eq_false_iff_ne.mpr hne
    rw [List.lookup_append]
    simp [List.lookup_cons, hother]
  unfold addDns
  dsimp only
  cases pppd.crosswireDnsSuffix with
  | none =>
    dsimp only
    split
    · exact hkey _ _ _ hdns
    · rfl
  | some suffix =>
    dsimp only
    split <;> split
    · exact hkey _ _ _ hdns
    · rfl
    · rw [hkey _ _ _ hdomain, hkey _ _ _ hdns]
    · exact hkey _ _ _ hdomain

private theorem ip4Config_lookup (pppd : Pppd) (address peer : UInt32) {key : String}
    (hkey : key = kRoutes ∨ key = kNeverDefault) :
    (ip4Config pppd address peer).lookup key = (addSplitRoutes pppd []).lookup key := by
  unfold ip4Config
  dsimp only
  rw [addSplitRoutes_append, List.lookup_append, addDns_lookup]
  · rcases hkey with rfl | rfl <;> split <;> rfl
  · rcases hkey with rfl | rfl <;> decide
  · rcases hkey with rfl | rfl <;> decide

section Policy

def NoPolicy (env : Option CStr) : Prop := ∀ s, env = some s → s.text = []

/-- The tunnel is a full one only without a policy. -/
structure KeepsPolicy (env : Option CStr) (ip4 : Asv) : Prop where
  full : ip4.lookup kNeverDefault = none ↔ NoPolicy env
  split : ¬ NoPolicy env → ip4.lookup kNeverDefault = some (.boolean true)

private theorem neverDefault_lookup (pppd : Pppd) (address peer : UInt32) :
    (ip4Config pppd address peer).lookup kNeverDefault =
      if nmoParseRoutes pppd.order pppd.crosswireRoutes maxRoutes = [] then none
      else some (.boolean true) := by
  rw [ip4Config_lookup pppd address peer (Or.inr rfl)]
  unfold addSplitRoutes
  simp only [List.length_eq_zero_iff]
  split
  · rfl
  · rfl

def HasRoute (env : Option CStr) : Prop :=
  ∃ s, env = some s ∧ ∃ entry ∈ tokens isComma s.text, RouteEntry entry

private theorem nmoParseRoutes_eq_nil (order : ByteOrder) (env : Option CStr) :
    nmoParseRoutes order env maxRoutes = [] ↔ ¬ HasRoute env := by
  cases env with
  | none =>
    simp only [HasRoute, reduceCtorEq, false_and, exists_false, not_false_eq_true, iff_true]
    rfl
  | some s =>
    have hmax : (maxRoutes : Int).toNat ≠ 0 := by decide
    rw [nmoParseRoutes_eq, List.take_eq_nil_iff, or_iff_right hmax, List.filterMap_eq_nil_iff]
    simp only [HasRoute, Option.some.injEq, exists_eq_left', not_exists, not_and]
    apply forall₂_congr
    intro entry _
    rw [← routeOf_isSome order, Option.not_isSome_iff_eq_none]

private theorem HasRoute.not_noPolicy {env : Option CStr} (h : HasRoute env) : ¬ NoPolicy env := by
  obtain ⟨s, rfl, entry, hentry, _⟩ := h
  intro hno
  rw [hno s rfl] at hentry
  exact absurd hentry List.not_mem_nil

/-- A policy is kept just when one of its entries is a route. -/
theorem ip4Config_keepsPolicy (pppd : Pppd) (address peer : UInt32) :
    KeepsPolicy pppd.crosswireRoutes (ip4Config pppd address peer) ↔
      NoPolicy pppd.crosswireRoutes ∨ HasRoute pppd.crosswireRoutes := by
  have hlookup := neverDefault_lookup pppd address peer
  have hempty := nmoParseRoutes_eq_nil pppd.order pppd.crosswireRoutes
  constructor
  · intro h
    by_cases hno : NoPolicy pppd.crosswireRoutes
    · exact Or.inl hno
    · right
      by_contra hroute
      have hset := h.split hno
      rw [hlookup, if_pos (hempty.mpr hroute)] at hset
      cases hset
  · rintro (hno | hroute)
    · have hnone : ¬ HasRoute pppd.crosswireRoutes := fun hroute => hroute.not_noPolicy hno
      rw [if_pos (hempty.mpr hnone)] at hlookup
      exact ⟨iff_of_true hlookup hno, fun hsome => absurd hno hsome⟩
    · rw [if_neg fun hnil => hempty.mp hnil hroute] at hlookup
      have hsome := hroute.not_noPolicy
      exact ⟨iff_of_false (by rw [hlookup]; exact Option.some_ne_none _) hsome, fun _ => hlookup⟩

def ipv6Policy : CStr := ⟨"fd00::/8".toList, by decide⟩

def splitPppd : Pppd where
  order := .little
  ifname := ⟨"ppp0".toList, by decide⟩
  crosswireRoutes := some ipv6Policy
  crosswireDns := none
  crosswireDnsSuffix := none
  dns0 := 0
  dns1 := 0

/-- A policy with nothing but an IPv6 network makes a full tunnel. -/
theorem ip4Config_not_keepsPolicy :
    ¬ KeepsPolicy splitPppd.crosswireRoutes
      (ip4Config splitPppd (IPv4.sAddr .little ⟨10, 212, 134, 200⟩)
        (IPv4.sAddr .little ⟨169, 254, 2, 1⟩)) := by
  intro h
  have hpolicy : ¬ NoPolicy splitPppd.crosswireRoutes :=
    fun hno => absurd (hno ipv6Policy rfl) (by decide)
  have hparsed : nmoParseRoutes splitPppd.order splitPppd.crosswireRoutes maxRoutes = [] := by
    change nmoParseRoutes .little (some ipv6Policy) maxRoutes = []
    rw [nmoParseRoutes_eq]
    decide
  have hset := h.split hpolicy
  rw [neverDefault_lookup, if_pos hparsed] at hset
  cases hset

end Policy

section Routes

/-- The rows of the `routes` entry; without the entry there are none. -/
def routesEntry (ip4 : Asv) : List (List UInt32) :=
  match ip4.lookup kRoutes with
  | some (.aau rows) => rows
  | _ => []

def Route.row (order : ByteOrder) (route : Route) : List UInt32 :=
  [route.network.sAddr order, .ofNat route.length, 0, 0]

private theorem ip4Config_rows (pppd : Pppd) (address peer : UInt32) :
    routesEntry (ip4Config pppd address peer) =
      (nmoParseRoutes pppd.order pppd.crosswireRoutes maxRoutes).map routeRow := by
  unfold routesEntry
  rw [ip4Config_lookup pppd address peer (Or.inl rfl)]
  unfold addSplitRoutes
  simp only [List.length_eq_zero_iff]
  by_cases hnil : nmoParseRoutes pppd.order pppd.crosswireRoutes maxRoutes = []
  · simp [hnil]
  · rw [if_neg hnil]
    rfl

private theorem ip4Config_rows_commaJoin (pppd : Pppd) (routes : List Route)
    (address peer : UInt32) :
    routesEntry (ip4Config
      { pppd with crosswireRoutes := some (commaJoin (routes.map Route.encode)) } address peer) =
      (routes.map (Route.row pppd.order)).take maxRoutes := by
  rw [ip4Config_rows]
  dsimp only
  rw [nmoParseRoutes_commaJoin, List.map_take, List.map_map]
  rfl

/-- All routes of the policy are in the dictionary just when they fit into the array. -/
theorem ip4Config_routes (pppd : Pppd) (routes : List Route) (address peer : UInt32) :
    routesEntry (ip4Config
      { pppd with crosswireRoutes := some (commaJoin (routes.map Route.encode)) } address peer) =
      routes.map (Route.row pppd.order) ↔ routes.length ≤ maxRoutes := by
  rw [ip4Config_rows_commaJoin, List.take_eq_self_iff, List.length_map]

def manyRoutes : List Route :=
  (List.range 257).map fun i => ⟨⟨10, .ofNat (i / 256), .ofNat i, 0⟩, 24⟩

/-- The last of 257 routes is lost. -/
theorem ip4Config_routes_lost :
    routesEntry (ip4Config
      { splitPppd with crosswireRoutes := some (commaJoin (manyRoutes.map Route.encode)) }
      (IPv4.sAddr .little ⟨10, 212, 134, 200⟩) (IPv4.sAddr .little ⟨169, 254, 2, 1⟩)) ≠
      manyRoutes.map (Route.row .little) := by
  intro h
  rw [ip4Config_rows_commaJoin] at h
  have hlength := congrArg List.length h
  simp [manyRoutes, maxRoutes] at hlength

end Routes

end CrosswireNm.PppdPlugin
