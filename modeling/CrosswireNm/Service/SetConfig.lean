import CrosswireNm.PppdPlugin.IpUp

/-!
# The gateway NM is told to pin

The plugin fills `gateway` with the PPP peer; the service puts the VPN server in its place when it
can resolve its host.
-/

namespace CrosswireNm.Service

open Library PppdPlugin

inductive IpAddr
  | v4 (ip : IPv4)
  | v6 (address : BitVec 128)
  deriving DecidableEq

/-- `u32::from_ne_bytes` of an address's octets; only IPv4 is taken. -/
def IpAddr.word (order : ByteOrder) : IpAddr → Option UInt32
  | .v4 ip => some (nativeWord order ip.a ip.b ip.c ip.d)
  | .v6 _ => none

/-- `toSocketAddrs` is the system's resolver; it fails with `none`. -/
def resolveGatewayU32 (order : ByteOrder) (toSocketAddrs : String → Option (List IpAddr))
    (host : String) : Option UInt32 :=
  (toSocketAddrs host).bind (List.findSome? (IpAddr.word order))

abbrev Config := String → Option Variant

def Config.ofAsv (entries : Asv) : Config := fun key => entries.reverse.lookup key

def Config.insert (config : Config) (key : String) (value : Variant) : Config :=
  fun name => if name = key then some value else config name

/-- The dictionary of the `Config` signal; `gateway` is the host that is stored. -/
def setConfig (order : ByteOrder) (toSocketAddrs : String → Option (List IpAddr))
    (gateway : Option String) (config : Config) : Config :=
  match gateway.bind (resolveGatewayU32 order toSocketAddrs) with
  | some gw => config.insert "gateway" (.uint32 gw)
  | none => config

/-- The signal pins at most an IPv4 address of the server, never the peer, and keeps the rest. -/
structure PinsServer (order : ByteOrder) (toSocketAddrs : String → Option (List IpAddr))
    (gateway : Option String) (peer : UInt32) (config emitted : Config) : Prop where
  server : ∀ value, emitted "gateway" = some value →
    ∃ host addrs ip, gateway = some host ∧ toSocketAddrs host = some addrs ∧ .v4 ip ∈ addrs ∧
      value = .uint32 (ip.sAddr order)
  peer : peer ≠ 0 → emitted "gateway" ≠ some (.uint32 peer)
  others : ∀ key, key ≠ "gateway" → emitted key = config key

section Resolution

variable {order : ByteOrder} {toSocketAddrs : String → Option (List IpAddr)}

/-- The stored host is there, it resolves, and `ip` is the first IPv4 address among the results. -/
def FirstIpv4 (toSocketAddrs : String → Option (List IpAddr)) (gateway : Option String)
    (ip : IPv4) : Prop :=
  ∃ host before after, gateway = some host ∧
    toSocketAddrs host = some (before ++ .v4 ip :: after) ∧
    ∀ addr ∈ before, ∃ address, addr = .v6 address

private theorem IpAddr.word_eq_none {addr : IpAddr} :
    addr.word order = none ↔ ∃ address, addr = .v6 address := by
  cases addr <;> simp [IpAddr.word]

theorem resolveGatewayU32_eq_some {gateway : Option String} {gw : UInt32} :
    gateway.bind (resolveGatewayU32 order toSocketAddrs) = some gw ↔
      ∃ ip, FirstIpv4 toSocketAddrs gateway ip ∧ gw = ip.sAddr order := by
  simp only [resolveGatewayU32, Option.bind_eq_some_iff, List.findSome?_eq_some_iff]
  constructor
  · rintro ⟨host, hhost, _, haddrs, before, addr, after, rfl, hword, hbefore⟩
    cases addr with
    | v4 ip =>
      exact ⟨ip, ⟨host, before, after, hhost, haddrs,
        fun addr haddr => IpAddr.word_eq_none.mp (hbefore addr haddr)⟩,
        (Option.some.inj hword).symm⟩
    | v6 address => cases hword
  · rintro ⟨ip, ⟨host, before, after, hhost, haddrs, hbefore⟩, rfl⟩
    exact ⟨host, hhost, _, haddrs, before, .v4 ip, after, rfl, rfl,
      fun addr haddr => IpAddr.word_eq_none.mpr (hbefore addr haddr)⟩

theorem genericConfig_gateway (pppd : Pppd) (peer : UInt32) :
    Config.ofAsv (genericConfig pppd peer) "gateway" =
      if peer = 0 then none else some (.uint32 peer) := by
  unfold Config.ofAsv genericConfig
  by_cases hpeer : peer = 0
  · simp only [hpeer, ne_eq, not_true_eq_false, if_false, if_true]
    rfl
  · simp only [hpeer, ne_eq, not_false_eq_true, if_true, if_false]
    rfl

theorem setConfig_gateway (gateway : Option String) (config : Config) :
    setConfig order toSocketAddrs gateway config "gateway" =
      ((gateway.bind (resolveGatewayU32 order toSocketAddrs)).map Variant.uint32).or
        (config "gateway") := by
  unfold setConfig
  cases gateway.bind (resolveGatewayU32 order toSocketAddrs) with
  | none => rfl
  | some gw => rfl

theorem setConfig_others (gateway : Option String) (config : Config) {key : String}
    (hkey : key ≠ "gateway") : setConfig order toSocketAddrs gateway config key = config key := by
  unfold setConfig
  cases gateway.bind (resolveGatewayU32 order toSocketAddrs) with
  | none => rfl
  | some gw => exact if_neg hkey

/-- The server is pinned, or nothing, just when there is no peer or the server's host resolves to
another IPv4 address. -/
theorem setConfig_pinsServer (pppd : Pppd) (peer : UInt32) (gateway : Option String) :
    PinsServer order toSocketAddrs gateway peer (.ofAsv (genericConfig pppd peer))
        (setConfig order toSocketAddrs gateway (.ofAsv (genericConfig pppd peer))) ↔
      peer = 0 ∨ ∃ ip, FirstIpv4 toSocketAddrs gateway ip ∧ ip.sAddr order ≠ peer := by
  have hconfig := genericConfig_gateway pppd peer
  have hemitted : setConfig order toSocketAddrs gateway (.ofAsv (genericConfig pppd peer))
      "gateway" = _ := setConfig_gateway gateway _
  rw [hconfig] at hemitted
  constructor
  · intro h
    by_cases hpeer : peer = 0
    · exact Or.inl hpeer
    · right
      have hnot := h.peer hpeer
      rw [hemitted, if_neg hpeer] at hnot
      cases hgw : gateway.bind (resolveGatewayU32 order toSocketAddrs) with
      | none => exact absurd (by rw [hgw]; rfl) hnot
      | some gw =>
        obtain ⟨ip, hfirst, rfl⟩ := resolveGatewayU32_eq_some.mp hgw
        refine ⟨ip, hfirst, ?_⟩
        rintro rfl
        exact hnot (by rw [hgw]; rfl)
  · intro h
    have hserver : ∀ ip, FirstIpv4 toSocketAddrs gateway ip →
        ∃ host addrs ip', gateway = some host ∧ toSocketAddrs host = some addrs ∧
          .v4 ip' ∈ addrs ∧ Variant.uint32 (ip.sAddr order) = .uint32 (ip'.sAddr order) := by
      rintro ip ⟨host, before, after, hhost, haddrs, _⟩
      exact ⟨host, _, ip, hhost, haddrs, by simp, rfl⟩
    refine ⟨?_, ?_, fun key hkey => setConfig_others gateway _ hkey⟩
    · intro value hvalue
      rw [hemitted] at hvalue
      cases hgw : gateway.bind (resolveGatewayU32 order toSocketAddrs) with
      | none =>
        rw [hgw] at hvalue
        rcases h with rfl | ⟨ip, hfirst, _⟩
        · cases hvalue
        · rw [resolveGatewayU32_eq_some.mpr ⟨ip, hfirst, rfl⟩] at hgw
          cases hgw
      | some gw =>
        obtain ⟨ip, hfirst, rfl⟩ := resolveGatewayU32_eq_some.mp hgw
        rw [hgw] at hvalue
        obtain rfl := Option.some.inj hvalue
        exact hserver ip hfirst
    · intro hpeer
      rcases h with hnone | ⟨ip, hfirst, hne⟩
      · exact absurd hnone hpeer
      · rw [hemitted, resolveGatewayU32_eq_some.mpr ⟨ip, hfirst, rfl⟩]
        intro heq
        exact hne (Variant.uint32.inj (Option.some.inj heq))

/-- A link with a peer, in a session whose stored host the resolver does not know. -/
theorem setConfig_pins_peer :
    ¬ PinsServer .little (fun _ => none) (some "vpn.example.com")
      (IPv4.sAddr .little ⟨169, 254, 2, 1⟩)
      (.ofAsv (genericConfig splitPppd (IPv4.sAddr .little ⟨169, 254, 2, 1⟩)))
      (setConfig .little (fun _ => none) (some "vpn.example.com")
        (.ofAsv (genericConfig splitPppd (IPv4.sAddr .little ⟨169, 254, 2, 1⟩)))) := by
  intro h
  exact h.peer (by decide) rfl

end Resolution

end CrosswireNm.Service
