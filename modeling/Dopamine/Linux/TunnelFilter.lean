import Dopamine.Linux.Ownership
import Dopamine.Linux.WireguardUtils

/-!
# What gets past the rules of a tunnel

With the kill switch on, `addInterface` leaves a filter in which a packet on a physical interface
gets out only to the local network, to a DHCP server or to an excluded address, or, when the tunnel
does not take all of IPv4, to an address outside the ranges of the tunnel
(`addInterface_leak_free`). Nothing is assumed about the state of the anchors before, except that
nobody replaced their rules.

In the other direction, an excluded address is not always let out: the ranges of the tunnel come
first (`addInterface_accepts_excluded_iff`).
-/

namespace Dopamine.Linux

open Netfilter Shell LinuxFirewall WireguardUtilsLinux List Settings IPAddress

/-- The destination is in an excluded range, as the text is read by the packet filter or by
`IPAddress`. -/
def Packet.isExcluded (q : Platform) (config : InterfaceConfig) (p : Packet) : Bool :=
  config.excludedAddresses.any fun net =>
    (readDst q p.dst.family net).any (fun n => n.contains p.dst) ||
      (IPAddress.ofString q net).covers p.dst

/-- The destination is in an excluded subnet. -/
def Packet.inExcludedSubnet (q : Platform) (config : InterfaceConfig) (p : Packet) : Bool :=
  config.excludedAddresses.any fun net => (IPAddress.ofString q net).covers p.dst

/-- The destination is in a range of the tunnel. -/
def Packet.inTunnelRange (config : InterfaceConfig) (p : Packet) : Bool :=
  config.allowedIPAddressRanges.any fun r => r.covers p.dst

section Lists

variable {q : Platform} {config : InterfaceConfig} {s : String} {p : Packet} {d : BitVec 32}

theorem mem_mergeAddrs {l l' : List String} : s ∈ mergeAddrs l l' ↔ s ∈ l ∨ s ∈ l' := by
  induction l' generalizing l with
  | nil => simp [mergeAddrs]
  | cons t l' ih =>
    have hstep : mergeAddrs l (t :: l') = mergeAddrs (if t ∈ l then l else l ++ [t]) l' := rfl
    rw [hstep, ih]
    split
    · next ht =>
      rw [mem_cons]
      constructor
      · rintro (h | h)
        · exact .inl h
        · exact .inr (.inr h)
      · rintro (h | rfl | h)
        · exact .inl h
        · exact .inl ht
        · exact .inr h
    · rw [mem_append, mem_singleton, mem_cons, or_assoc]

theorem mem_excludedSubnets :
    s ∈ excludedSubnets q config ↔ ∃ net ∈ config.excludedAddresses,
      (IPAddress.ofString q net).address ≠ .null ∧ (IPAddress.ofString q net).toString q = s := by
  simp only [excludedSubnets, mem_map, mem_filter, decide_eq_true_eq]
  constructor
  · rintro ⟨_, ⟨⟨net, hnet, rfl⟩, hnull⟩, rfl⟩
    exact ⟨net, hnet, hnull, rfl⟩
  · rintro ⟨net, hnet, hnull, rfl⟩
    exact ⟨_, ⟨⟨net, hnet, rfl⟩, hnull⟩, rfl⟩

/-- A packet that `110.allowNets` lets out for IPv4 goes to an excluded range. -/
theorem isExcluded_of_isTo {p : Packet} {d : BitVec 32} (hd : p.dst = .v4 d)
    (h : p.isTo q (allowNetsFor q p.dst.family (mergeAddrs (firewallParams q config).allowAddrs
      (firewallParams q config).excludedSubnets)) = true) : p.isExcluded q config = true := by
  obtain ⟨s, hs, hto⟩ := any_eq_true.mp h
  have hs : s ∈ mergeAddrs _ _ := (mem_filter.mp hs).1
  rcases mem_mergeAddrs.mp hs with hs | hs
  · -- the text of a full tunnel's exclusion, as it stands
    have hmem : s ∈ config.excludedAddresses := by
      simp only [firewallParams] at hs
      split at hs
      · exact hs
      · cases hs
    exact any_eq_true.mpr ⟨s, hmem, by rw [hto, Bool.true_or]⟩
  · obtain ⟨net, hnet, hnull, rfl⟩ := mem_excludedSubnets.mp hs
    rw [hd] at hto
    have hcov : (IPAddress.ofString q net).covers (.v4 d) = true := by
      rw [← any_readDst_toString q hnull]
      exact hto
    exact any_eq_true.mpr ⟨net, hnet, by rw [hd, hcov, Bool.or_true]⟩

/-- A packet to a range of the tunnel meets `120.blockNets`, when the tunnel is not a full one. -/
theorem isTo_blockAddrs (hd : p.dst = .v4 d) (hfull : isFullTunnel config = false)
    (h : p.inTunnelRange config = true) : p.isTo q (firewallParams q config).blockAddrs = true := by
  obtain ⟨r, hr, hcov⟩ := any_eq_true.mp h
  rw [hd] at hcov
  obtain ⟨x, hx⟩ := eq_ipv4_of_covers hcov
  have hnull : r.address ≠ .null := hx ▸ nofun
  refine any_eq_true.mpr ⟨r.toString q, ?_, ?_⟩
  · simp only [firewallParams, hfull]
    exact mem_map_of_mem hr
  · rw [hd]
    exact (any_readDst_toString q hnull d).trans hcov

/-- The text of an IPv4 range goes to the IPv4 chain of `110.allowNets`. -/
theorem isIPv6Entry_toString {r : IPAddress} {x : BitVec 32} (hx : r.address = .ipv4 x) :
    isIPv6Entry q (r.toString q) = false := by
  obtain ⟨address, n⟩ := r
  obtain rfl : address = .ipv4 x := hx
  have haddr : addressPart ((IPAddress.mk (.ipv4 x) n).toString q) =
      String.ofList (ipv4Chars x) := by
    rw [addressPart, splitOn_toString_ipv4, headD_cons, trimmed_ipv4Chars]
  rw [isIPv6Entry, haddr, HostAddress.ofString, String.toList_ofList, readIPv4_ipv4Chars]
  rfl

/-- An IPv4 packet to an excluded subnet meets `110.allowNets`. -/
theorem isTo_allowNets (hd : p.dst = .v4 d) (h : p.inExcludedSubnet q config = true) :
    p.isTo q (allowNetsFor q p.dst.family (mergeAddrs (firewallParams q config).allowAddrs
      (firewallParams q config).excludedSubnets)) = true := by
  obtain ⟨net, hnet, hcov⟩ := any_eq_true.mp h
  rw [hd] at hcov
  obtain ⟨x, hx⟩ := eq_ipv4_of_covers hcov
  have hnull : (IPAddress.ofString q net).address ≠ .null := hx ▸ nofun
  refine any_eq_true.mpr
    ⟨(IPAddress.ofString q net).toString q, mem_filter.mpr ⟨?_, ?_⟩, ?_⟩
  · exact mem_mergeAddrs.mpr (.inr (mem_excludedSubnets.mpr ⟨net, hnet, hnull, rfl⟩))
  · rw [isIPv6Entry_toString hx, hd]
    rfl
  · rw [hd]
    exact (any_readDst_toString q hnull d).trans hcov

/-- An excluded subnet of IPv4 is in the list of parameters. -/
theorem excludedSubnets_ne_nil (hd : p.dst = .v4 d) (h : p.inExcludedSubnet q config = true) :
    (excludedSubnets q config).isEmpty = false := by
  obtain ⟨net, hnet, hcov⟩ := any_eq_true.mp h
  rw [hd] at hcov
  obtain ⟨x, hx⟩ := eq_ipv4_of_covers hcov
  have hmem := mem_excludedSubnets.mpr ⟨net, hnet, by rw [hx]; exact nofun, rfl⟩
  exact isEmpty_eq_false_iff.mpr (ne_nil_of_mem hmem)

end Lists

/-! ## The filter after `addInterface` -/

section AddInterface

variable {q : Platform} {config : InterfaceConfig} {out : Outcome} {w w' : WgState}

/-- With the kill switch on, a successful `addInterface` leaves the settings of its config. -/
theorem holds_addInterface (hst : Reached q w.service.fw) (hkill : config.killSwitchEnabled = true)
    (hadd : addInterface q config out w = (true, w')) :
    ∃ x, Holds q w'.service.fw (some (paramsSettings (firewallParams q config) x)) := by
  obtain ⟨o, ho⟩ := hst.holds
  obtain ⟨-, hservice⟩ := addInterface_eq_true hadd
  rw [hservice, if_pos hkill]
  exact ⟨_, holds_applyFirewallRules ho _⟩

variable {p : Packet} {x : Settings}

/-- An IPv6 packet that is neither loopback, local nor DHCP traffic is rejected. -/
theorem verdict_v6_eq_reject (hf : p.dst.family = .IPv6) (hlo : p.isLoopback = false)
    (hlan : p.inLAN = false) (hdhcp : p.isDHCP = false) (params : FirewallParams) :
    (paramsSettings params x).verdict q p = some .reject := by
  have hblock : (paramsSettings params x).decides q p .blockIPv6 = some .reject :=
    decides_eq_some p (by rw [hf]; rfl) (by simp only [Settings.hits, hlo, Bool.not_false])
  rw [verdict_v6 hf, decides_eq_none p (a := .allowLoopback) hlo,
    decides_eq_none p (a := .allowLAN) hlan,
    decides_eq_none p (a := .allowDHCP) hdhcp,
    hblock]
  -- `310.blockDNS` can be on from before, and then rejects as well
  rcases decides_block (q := q) (x := paramsSettings params x) p (a := .blockDNS) rfl
    with h | h <;> rw [h] <;> rfl

variable {d : BitVec 32}

/-- An IPv4 packet on a physical interface that is neither local nor DHCP traffic and that is not
excluded is rejected when it goes to a range of the tunnel. -/
theorem verdict_v4_eq_reject (hd : p.dst = .v4 d) (hlo : p.isLoopback = false)
    (htun : p.isTunnel = false) (hlan : p.inLAN = false) (hdhcp : p.isDHCP = false)
    (hex : p.isExcluded q config = false) (hrange : p.inTunnelRange config = true) :
    (paramsSettings (firewallParams q config) x).verdict q p = some .reject := by
  have hf : p.dst.family = .IPv4 := by rw [hd]; rfl
  set y := paramsSettings (firewallParams q config) x
  have hdns : y.decides q p .allowDNS = none :=
    decides_eq_none p (by simp only [Settings.hits, htun, Bool.false_and])
  rw [verdict_v4 hf, decides_eq_none p (a := .allowLoopback) hlo, hdns,
    decides_eq_none p (a := .allowLAN) hlan,
    decides_eq_none p (a := .allowDHCP) hdhcp,
    decides_eq_none p (a := .allowVPN) htun]
  rcases decides_block (q := q) (x := y) p (a := .blockDNS) rfl with hbdns | hbdns
  · rw [hbdns]
    cases hfull : isFullTunnel config with
    | false =>
      have hnets : y.decides q p .blockNets = some .reject := by
        refine decides_eq_some p ?_ (isTo_blockAddrs hd hfull hrange)
        rw [hf]
        simp only [y, paramsSettings, firewallParams, hfull, Bool.not_false]
      rw [hnets]
      rfl
    | true =>
      -- the allow list holds excluded ranges only, and everything else is blocked
      have hbn : y.decides q p .blockNets = none := by
        refine decides_eq_none_of_disabled p ?_
        rw [hf]
        simp only [y, paramsSettings, firewallParams, hfull, Bool.not_true]
      have han : y.decides q p .allowNets = none := by
        refine decides_eq_none p (Bool.eq_false_iff.mpr fun h => ?_)
        rw [isExcluded_of_isTo hd h] at hex
        cases hex
      have hall : y.decides q p .blockAll = some .reject := by
        refine decides_eq_some p ?_ rfl
        simp only [y, paramsSettings, firewallParams, hfull]
      rw [hbn, han, hall]
      rfl
  · rw [hbdns]
    rfl

/-- After `addInterface` with the kill switch on, from every state of the firewall that its methods
lead to, a packet on a physical interface is rejected unless it is local or DHCP traffic, goes to an
excluded address, or is IPv4 traffic to an address outside the ranges of the tunnel. -/
theorem addInterface_leak_free (hst : Reached q w.service.fw)
    (hkill : config.killSwitchEnabled = true) (hadd : addInterface q config out w = (true, w'))
    (p : Packet) (hlo : p.isLoopback = false) (htun : p.isTunnel = false) (hlan : p.inLAN = false)
    (hdhcp : p.isDHCP = false) (hex : p.isExcluded q config = false)
    (hrange : p.dst.family = .IPv4 → p.inTunnelRange config = true) :
    w'.service.fw.verdict p = some .reject := by
  obtain ⟨x, hx⟩ := holds_addInterface hst hkill hadd
  refine hx.verdict p ?_
  cases hd : p.dst with
  | v4 d =>
    have hf : p.dst.family = .IPv4 := by rw [hd]; rfl
    exact verdict_v4_eq_reject hd hlo htun hlan hdhcp hex (hrange hf)
  | v6 d =>
    have hf : p.dst.family = .IPv6 := by rw [hd]; rfl
    exact verdict_v6_eq_reject hf hlo hlan hdhcp _

/-- What the rules of the tunnel decide for IPv6, apart from DNS. -/
theorem verdict_v6_eq (hf : p.dst.family = .IPv6) (hdns : p.isDNS = false)
    (params : FirewallParams) :
    (paramsSettings params x).verdict q p =
      if p.isLoopback || p.inLAN || p.isDHCP then some .accept else some .reject := by
  have hen : ∀ a ∈ [Anchor.allowLoopback, .allowLAN, .allowDHCP, .blockIPv6],
      (paramsSettings params x).enabled p.dst.family a = true := by
    rw [hf]
    simp [paramsSettings]
  rw [verdict_v6 hf, decides_eq_none p (a := .blockDNS) hdns]
  simp only [Settings.decides, hen _ mem_cons_self, hen .allowLAN (by simp),
    hen .allowDHCP (by simp), hen .blockIPv6 (by simp), Settings.hits, Anchor.action]
  cases p.isLoopback <;> cases p.inLAN <;> cases p.isDHCP <;> simp

/-- What the rules of the tunnel decide for an excluded subnet of IPv4, apart from DNS: the ranges
of the tunnel come before the exclusions. -/
theorem verdict_v4_excluded (hd : p.dst = .v4 d) (htun : p.isTunnel = false)
    (hdns : p.isDNS = false) (hex : p.inExcludedSubnet q config = true) :
    (paramsSettings (firewallParams q config) x).verdict q p =
      if p.isLoopback || p.inLAN || p.isDHCP then some .accept
      else if !isFullTunnel config &&
        p.isTo q (config.allowedIPAddressRanges.map (IPAddress.toString q)) then some .reject
      else some .accept := by
  have hf : p.dst.family = .IPv4 := by rw [hd]; rfl
  set y := paramsSettings (firewallParams q config) x
  have hadns : y.decides q p .allowDNS = none :=
    decides_eq_none p (by simp only [Settings.hits, htun, Bool.false_and])
  have hallow : y.decides q p .allowNets = some .accept := by
    refine decides_eq_some p ?_ (isTo_allowNets hd hex)
    simp only [y, paramsSettings, firewallParams, excludedSubnets_ne_nil hd hex, Bool.not_false,
      Bool.or_true]
  have hblock : y.decides q p .blockNets =
      if !isFullTunnel config &&
        p.isTo q (config.allowedIPAddressRanges.map (IPAddress.toString q)) then some .reject
      else none := by
    rw [Settings.decides, hf]
    cases hfull : isFullTunnel config <;>
      simp [y, paramsSettings, firewallParams, hfull, Settings.hits, Anchor.action]
  have hen : ∀ a ∈ [Anchor.allowLoopback, .allowLAN, .allowDHCP],
      y.enabled p.dst.family a = true := by
    rw [hf]
    simp [y, paramsSettings]
  rw [verdict_v4 hf, hadns, decides_eq_none p (a := .blockDNS) hdns,
    decides_eq_none p (a := .allowVPN) htun, hblock, hallow]
  simp only [Settings.decides, hen _ mem_cons_self, hen .allowLAN (by simp),
    hen .allowDHCP (by simp), Settings.hits, Anchor.action]
  cases p.isLoopback <;> cases p.inLAN <;> cases p.isDHCP <;>
    cases (!isFullTunnel config && p.isTo q (config.allowedIPAddressRanges.map _)) <;> simp

/-- After `addInterface` with the kill switch on, a packet on a physical interface to an excluded
subnet, other than DNS, is accepted exactly when it is loopback, local or DHCP traffic, or when it
is IPv4 traffic and the tunnel is a full one or none of its ranges contains the destination. -/
theorem addInterface_accepts_excluded_iff (hst : Reached q w.service.fw)
    (hkill : config.killSwitchEnabled = true) (hadd : addInterface q config out w = (true, w'))
    (p : Packet) (htun : p.isTunnel = false) (hdns : p.isDNS = false)
    (hex : p.inExcludedSubnet q config = true) :
    w'.service.fw.anchorVerdict p = some .accept ↔
      p.isLoopback = true ∨ p.inLAN = true ∨ p.isDHCP = true ∨
        p.dst.family = .IPv4 ∧ (isFullTunnel config = true ∨
          p.isTo q (config.allowedIPAddressRanges.map (IPAddress.toString q)) = false) := by
  obtain ⟨x, hx⟩ := holds_addInterface hst hkill hadd
  rw [hx.anchorVerdict p]
  cases hd : p.dst with
  | v4 d =>
    rw [verdict_v4_excluded hd htun hdns hex]
    have hf : (Address.v4 d).family = .IPv4 := rfl
    cases p.isLoopback <;> cases p.inLAN <;> cases p.isDHCP <;> cases isFullTunnel config <;>
      simp [hf]
  | v6 d =>
    have hf : p.dst.family = .IPv6 := by rw [hd]; rfl
    have hne : (Address.v6 d).family ≠ .IPv4 := nofun
    rw [verdict_v6_eq hf hdns]
    cases p.isLoopback <;> cases p.inLAN <;> cases p.isDHCP <;> simp [hne]

end AddInterface

/-- A configuration with the kill switch on. -/
def sampleConfig (ranges : List IPAddress) (excluded : List String) : InterfaceConfig :=
  { Daemon.blankConfig with
    privateKey := "key"
    deviceIpv4Address := "10.8.0.2"
    serverIpv4Gateway := "10.8.0.1"
    serverPublicKey := "peer"
    serverIpv4AddrIn := "203.0.113.7"
    primaryDnsServer := "1.1.1.1"
    serverPort := 51820
    allowedIPAddressRanges := ranges
    excludedAddresses := excluded
    killSwitchEnabled := true }

/-- A tunnel process that starts and takes its configuration. -/
def sampleOutcome : Outcome := ⟨true, some "frkn0", 0, false⟩

/-- No tunnel, and tables with one rule of somebody else. -/
def sampleIdle : WgState := ⟨.NotRunning, "", ⟨sampleTables, false, []⟩⟩

/-- A web request from the physical interface. -/
def samplePacket (dst : Address) : Packet := ⟨"eth0", dst, .tcp, 40000, 443, "", fun _ => false⟩

variable (d : Address)

theorem sample_isTunnel : (samplePacket d).isTunnel = false :=
  show ["frkn0+", "tun0+", "tun2+"].any (fun i => ifaceMatches i "eth0") = false by decide

theorem sample_isLoopback : (samplePacket d).isLoopback = false :=
  show ifaceMatches "lo+" "eth0" = false by decide

theorem reached_sample (q : Platform) : Reached q sampleTables :=
  ⟨fun f t => (sampleTables_pristine f t).host, sampleTables, [], fun _ => rfl,
    fun _ h => (nomatch h), rfl⟩

/-- A full tunnel that excludes its server rejects a web request to another host. -/
theorem addInterface_leak_free_sample :
    (addInterface .plain (sampleConfig [.any4] ["203.0.113.7"]) sampleOutcome
      sampleIdle).2.service.fw.verdict (samplePacket (.v4 0x08080808#32)) = some .reject := by
  have hadd : addInterface .plain (sampleConfig [.any4] ["203.0.113.7"]) sampleOutcome sampleIdle =
      (true, _) := rfl
  exact addInterface_leak_free (reached_sample _) rfl hadd _ (by decide) (by decide) (by decide)
    (by decide) (by decide +kernel) fun _ => by decide

/-- An excluded host is let out of a full tunnel. -/
theorem addInterface_accepts_excluded_sample :
    (addInterface .plain (sampleConfig [.any4] ["203.0.113.7"]) sampleOutcome
      sampleIdle).2.service.fw.anchorVerdict (samplePacket (.v4 0xcb007107#32)) =
        some .accept := by
  have hadd : addInterface .plain (sampleConfig [.any4] ["203.0.113.7"]) sampleOutcome sampleIdle =
      (true, _) := rfl
  exact (addInterface_accepts_excluded_iff (reached_sample _) rfl hadd _ (by decide) (by decide)
    (by decide +kernel)).mpr (.inr (.inr (.inr ⟨rfl, .inl (by decide)⟩)))

/-- An excluded host inside a range of the tunnel is rejected: `120.blockNets` comes first. -/
theorem addInterface_rejects_excluded_host :
    (samplePacket (.v4 0x08080808#32)).isTunnel = false ∧
    (samplePacket (.v4 0x08080808#32)).isDNS = false ∧
    (samplePacket (.v4 0x08080808#32)).inExcludedSubnet .plain
      (sampleConfig [⟨.ipv4 0x08080000#32, 16⟩] ["8.8.8.8"]) = true ∧
    (addInterface .plain (sampleConfig [⟨.ipv4 0x08080000#32, 16⟩] ["8.8.8.8"]) sampleOutcome
      sampleIdle).1 = true ∧
    (addInterface .plain (sampleConfig [⟨.ipv4 0x08080000#32, 16⟩] ["8.8.8.8"]) sampleOutcome
      sampleIdle).2.service.fw.anchorVerdict (samplePacket (.v4 0x08080808#32)) =
        some .reject := by
  exact ⟨by decide, by decide, by decide +kernel, rfl, by decide +kernel⟩

end Dopamine.Linux
