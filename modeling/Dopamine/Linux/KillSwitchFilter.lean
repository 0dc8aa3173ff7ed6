import Dopamine.Linux.TunnelFilter

/-!
# What gets past the kill switch of the service

Two results about the filter `KillSwitch` leaves, each with the exact condition under which it
holds.

* DNS: a query on a physical interface is never accepted over IPv4. Over IPv6 one to the local
  network is, unless `310.blockDNS` was on for IPv6 before: nothing switches it on
  (`dns_blocked_iff`).
* Split mode 1: the listed sites are not blocked (`split_sites_rejected_iff`).
-/

namespace Dopamine.Linux

open Netfilter Shell LinuxFirewall WireguardUtilsLinux KillSwitch List Settings

/-! ## DNS -/

/-- The anchors that decide about DNS queries on a physical interface; `v6` tells whether
`310.blockDNS` is on for IPv6. -/
structure GuardsDns (v6 : Bool) (x : Settings) : Prop where
  block4 : x.enabled .IPv4 .blockDNS = true
  block6 : x.enabled .IPv6 .blockDNS = v6
  lan6 : x.enabled .IPv6 .allowLAN = true
  blockIPv6 : x.enabled .IPv6 .blockIPv6 = true

/-- The kill switch is switched on, by the daemon or by the service. -/
inductive SwitchedOn (q : Platform) : Service → Service → Prop
  | addInterface {config : InterfaceConfig} {out : Outcome} {w w' : WgState}
      (hkill : config.killSwitchEnabled = true)
      (hadd : WireguardUtilsLinux.addInterface q config out w = (true, w')) :
      SwitchedOn q w.service w'.service
  | enableKillSwitch (configStr : JsonObject) (s : Service) :
      SwitchedOn q s (KillSwitch.enableKillSwitch q configStr s)

section Dns

variable {q : Platform} {s s' : Service} {x : Settings} {p : Packet} {v6 : Bool}

theorem GuardsDns.range (ranges : List String) (h : GuardsDns v6 x) :
    GuardsDns v6 (rangeSettings ranges x) :=
  ⟨h.block4, h.block6, h.lan6, h.blockIPv6⟩

/-- Both ways to switch the kill switch on leave `310.blockDNS` for IPv6 as it was. -/
theorem SwitchedOn.guardsDns (hon : SwitchedOn q s s') {o : Option Settings}
    (ho : Holds q s.fw o) :
    ∃ x, Holds q s'.fw (some x) ∧ GuardsDns ((o.getD .initial).enabled .IPv6 .blockDNS) x := by
  cases hon with
  | addInterface hkill hadd =>
    obtain ⟨-, hservice⟩ := addInterface_eq_true hadd
    rw [hservice, if_pos hkill]
    exact ⟨_, holds_applyFirewallRules ho _, rfl, rfl, rfl, rfl⟩
  | enableKillSwitch configStr => exact ⟨_, holds_enableKillSwitch ho configStr, rfl, rfl, rfl, rfl⟩

/-- A DNS query on a physical interface is rejected over IPv4. -/
theorem GuardsDns.verdict_v4 (h : GuardsDns v6 x) (hf : p.dst.family = .IPv4)
    (hdns : p.isDNS = true) (hlo : p.isLoopback = false) (htun : p.isTunnel = false) :
    x.verdict q p = some .reject := by
  have hadns : x.decides q p .allowDNS = none :=
    Settings.decides_eq_none p (by simp only [Settings.hits, htun, Bool.false_and])
  have hblock : x.decides q p .blockDNS = some .reject :=
    Settings.decides_eq_some p (by rw [hf]; exact h.block4) hdns
  rw [Settings.verdict_v4 hf, Settings.decides_eq_none p (a := .allowLoopback) hlo, hadns, hblock]
  rfl

/-- Over IPv6 it is accepted when it goes to the local network and `310.blockDNS` is off. -/
theorem GuardsDns.verdict_v6 (h : GuardsDns v6 x) (hf : p.dst.family = .IPv6)
    (hdns : p.isDNS = true) (hlo : p.isLoopback = false) :
    x.verdict q p = if !v6 && p.inLAN then some .accept else some .reject := by
  have hdhcp : p.isDHCP = false := by
    have hport : p.dport = 53 := beq_iff_eq.mp (Bool.and_eq_true_iff.mp hdns).2
    simp only [Packet.isDHCP, hf, hport]
    simp
  have hblock : x.decides q p .blockDNS = if v6 then some .reject else none := by
    rw [Settings.decides, hf, h.block6, Settings.hits, hdns, Bool.and_true]
    rfl
  have hlan : x.decides q p .allowLAN = if p.inLAN then some .accept else none := by
    rw [Settings.decides, hf, h.lan6, Settings.hits, Bool.true_and]
    rfl
  have hv6 : x.decides q p .blockIPv6 = some .reject :=
    Settings.decides_eq_some p (by rw [hf]; exact h.blockIPv6)
      (by simp only [Settings.hits, hlo, Bool.not_false])
  rw [Settings.verdict_v6 hf, Settings.decides_eq_none p (a := .allowLoopback) hlo, hblock, hlan,
    Settings.decides_eq_none p (a := .allowDHCP) hdhcp, hv6]
  cases v6 <;> cases p.inLAN <;> rfl

/-- A DNS query to a link-local IPv6 address. -/
def linkLocalQuery : Packet where
  iface := "eth0"
  dst := .v6 0xfe800000000000000000000000000001#128
  proto := .udp
  sport := 40000
  dport := 53
  cgroup := ""
  meets _ := false

/-- Once the kill switch is on, and after any `addAllowedRange` calls, no DNS query on a physical
interface is accepted, exactly when before that the firewall was installed with `310.blockDNS` on
for IPv6. -/
theorem dns_blocked_iff (hst : Reached q s.fw) (hon : SwitchedOn q s s') :
    (∀ (lists : List (List String)) (p : Packet), p.isDNS = true → p.isLoopback = false →
      p.isTunnel = false → (addAllowedRanges q lists s').fw.anchorVerdict p ≠ some .accept) ↔
      isInstalled s.fw = true ∧ isAnchorEnabled .IPv6 .blockDNS .filter s.fw = true := by
  obtain ⟨o, ho⟩ := hst.holds
  obtain ⟨x, hx, hguard⟩ := hon.guardsDns ho
  have hcond : (isInstalled s.fw = true ∧ isAnchorEnabled .IPv6 .blockDNS .filter s.fw = true) ↔
      (o.getD .initial).enabled .IPv6 .blockDNS = true := by
    rw [ho.isInstalled]
    cases o with
    | none => exact ⟨fun h => Bool.noConfusion h.1, fun h => Bool.noConfusion h⟩
    | some y =>
      have hy := ho.isAnchorEnabled .IPv6 (a := .blockDNS) (by decide)
      rw [if_pos rfl] at hy
      rw [hy]
      exact ⟨fun h => h.2, fun h => ⟨rfl, h⟩⟩
  rw [hcond]
  constructor
  · intro h
    -- the query to the link-local address decides
    have hq := h [] linkLocalQuery (by decide) (by decide) (by decide)
    rw [show addAllowedRanges q [] s' = s' from rfl, hx.anchorVerdict,
      hguard.verdict_v6 rfl (by decide) (by decide)] at hq
    by_contra hoff
    rw [Bool.not_eq_true] at hoff
    rw [hoff] at hq
    exact hq (if_pos (by decide))
  · intro hen lists p hdns hlo htun
    obtain ⟨y, hy, hyguard⟩ :=
      holds_addAllowedRanges (fun r _ h => GuardsDns.range r h) lists hx hguard
    rw [hy.anchorVerdict p]
    cases hf : p.dst.family with
    | IPv4 =>
      rw [hyguard.verdict_v4 hf hdns hlo htun]
      exact nofun
    | IPv6 =>
      rw [hyguard.verdict_v6 hf hdns hlo, hen]
      exact nofun

end Dns

/-- A service on tables that were installed with `310.blockDNS` on for IPv6. -/
def sampleGuarded : Service :=
  ⟨runOps .plain [.install, .setAnchorEnabled .IPv6 .blockDNS true] sampleTables, false, []⟩

theorem dns_blocked_sample :
    (addAllowedRanges .plain [["8.8.8.8"]]
      (KillSwitch.enableKillSwitch .plain [] sampleGuarded)).fw.anchorVerdict linkLocalQuery ≠
        some .accept := by
  have hreached : Reached .plain sampleGuarded.fw :=
    ⟨fun f t => (sampleTables_pristine f t).host, sampleTables, _, fun _ => rfl,
      by simp [Op.KeepsRules], rfl⟩
  exact (dns_blocked_iff hreached (.enableKillSwitch [] sampleGuarded)).mpr (by decide +kernel)
    [["8.8.8.8"]] linkLocalQuery (by decide) (by decide) (by decide)

/-- From tables without chains of the program, both ways to switch the kill switch on let a DNS
query to a link-local IPv6 address out. -/
theorem dns_leaks_over_ipv6 :
    Reached .plain sampleTables ∧ linkLocalQuery.isDNS = true ∧
    linkLocalQuery.isLoopback = false ∧ linkLocalQuery.isTunnel = false ∧
    (KillSwitch.enableKillSwitch .plain [] ⟨sampleTables, false, []⟩).fw.anchorVerdict
      linkLocalQuery = some .accept ∧
    (addInterface .plain (sampleConfig [.any4] []) sampleOutcome sampleIdle).1 = true ∧
    (addInterface .plain (sampleConfig [.any4] []) sampleOutcome
      sampleIdle).2.service.fw.anchorVerdict linkLocalQuery = some .accept := by
  exact ⟨reached_sample _, by decide, by decide, by decide, by decide +kernel, rfl,
    by decide +kernel⟩

/-! ## Split mode 1 -/

section Split

variable {q : Platform} {s : Service} {configStr : JsonObject} {x : Settings} {p : Packet}

def sites (configStr : JsonObject) : List String :=
  (Json.arrayValue (configStr.lookup "splitTunnelSites")).map fun v => Json.text (some v)

/-- In split mode 1 the anchors reject DNS queries on a physical interface and leave everything else
to the host: neither `120.blockNets` nor `100.blockAll` is on. -/
theorem verdict_split (hsplit : Json.intValue (configStr.lookup "splitTunnelType") = 1)
    (hf : p.dst.family = .IPv4) (htun : p.isTunnel = false) (hlo : p.isLoopback = false)
    (hlan : p.inLAN = false) (hdhcp : p.isDHCP = false) :
    (enableSettings configStr x).verdict q p = if p.isDNS then some .reject else none := by
  have hrules : KillSwitchConfig.splitRules configStr =
      { blockNets := true, blocknets := sites configStr } := by
    rw [KillSwitchConfig.splitRules, hsplit]
    rfl
  have hadns : (enableSettings configStr x).decides q p .allowDNS = none :=
    decides_eq_none p (by simp only [Settings.hits, htun, Bool.false_and])
  have hbdns : (enableSettings configStr x).decides q p .blockDNS =
      if p.isDNS then some .reject else none := by
    rw [Settings.decides, hf]
    simp only [enableSettings, Settings.hits, Bool.true_and, Anchor.action]
  have hoff : ∀ a ∈ [Anchor.blockNets, .allowNets, .blockAll],
      (enableSettings configStr x).decides q p a = none := by
    intro a ha
    refine decides_eq_none_of_disabled p ?_
    rw [hf]
    simp only [mem_cons, not_mem_nil, or_false] at ha
    rcases ha with rfl | rfl | rfl <;> simp only [enableSettings, hrules]
  rw [verdict_v4 hf, decides_eq_none p (a := .allowLoopback) hlo, hadns, hbdns,
    decides_eq_none p (a := .allowLAN) hlan,
    decides_eq_none p (a := .allowDHCP) hdhcp,
    decides_eq_none p (a := .allowVPN) htun, hoff .blockNets (by simp),
    hoff .allowNets (by simp), hoff .blockAll (by simp)]
  cases p.isDNS <;> rfl

/-- A query to a DNS server of the configuration. -/
def isAllowedDns (q : Platform) (configStr : JsonObject) (p : Packet) : Bool :=
  p.isDNS && p.isTo q (enableSettings configStr .initial).dnsServers

/-- After `enableKillSwitch` in split mode 1, every IPv4 packet on a physical interface to a listed
subnet, apart from loopback, local, DHCP and allowed DNS traffic, is rejected exactly when the
listed subnets lie within the local network. -/
theorem split_sites_rejected_iff (hst : Reached q s.fw)
    (hsplit : Json.intValue (configStr.lookup "splitTunnelType") = 1) :
    (∀ p : Packet, p.dst.family = .IPv4 → p.isTunnel = false → p.isLoopback = false →
      p.inLAN = false → p.isDHCP = false → isAllowedDns q configStr p = false →
      p.isTo q (sites configStr) = true →
      (KillSwitch.enableKillSwitch q configStr s).fw.anchorVerdict p = some .reject) ↔
    ∀ site ∈ sites configStr, ∀ n ∈ readDst q .IPv4 site, ∀ d : BitVec 32,
      n.contains (.v4 d) = true → (lanNets .IPv4).any (fun e => e.2.contains (.v4 d)) = true := by
  obtain ⟨o, ho⟩ := hst.holds
  have hx := holds_enableKillSwitch ho configStr
  constructor
  · intro h site hsite n hn d hd
    by_contra hout
    have hlan : (samplePacket (.v4 d)).inLAN = false := Bool.not_eq_true _ ▸ hout
    have hto : (samplePacket (.v4 d)).isTo q (sites configStr) = true :=
      any_eq_true.mpr ⟨site, hsite, any_eq_true.mpr ⟨n, hn, hd⟩⟩
    have hv := h _ rfl (sample_isTunnel _) (sample_isLoopback _) hlan rfl rfl hto
    rw [hx.anchorVerdict, verdict_split hsplit rfl (sample_isTunnel _) (sample_isLoopback _) hlan
      rfl] at hv
    cases hv
  · intro h p hf htun hlo hlan hdhcp hdns hto
    obtain ⟨site, hsite, hto⟩ := any_eq_true.mp hto
    obtain ⟨n, hn, hd⟩ := any_eq_true.mp hto
    cases hdst : p.dst with
    | v4 d =>
      rw [hdst] at hn hd
      have hin : p.inLAN = true := by
        rw [Packet.inLAN, hdst]
        exact h site hsite n hn d hd
      rw [hin] at hlan
      cases hlan
    | v6 d =>
      rw [hdst] at hf
      cases hf

end Split

/-- A configuration of split mode 1 with one site. -/
def splitConfig (site : String) : JsonObject :=
  [("splitTunnelType", .double 1), ("splitTunnelSites", .array [.string site])]

theorem split_sites_rejected_sample :
    Json.intValue ((splitConfig "10.0.0.0/8").lookup "splitTunnelType") = 1 ∧
    ∀ p : Packet, p.dst.family = .IPv4 → p.isTunnel = false → p.isLoopback = false →
      p.inLAN = false → p.isDHCP = false →
      isAllowedDns .plain (splitConfig "10.0.0.0/8") p = false →
      p.isTo .plain (sites (splitConfig "10.0.0.0/8")) = true →
      (KillSwitch.enableKillSwitch .plain (splitConfig "10.0.0.0/8")
        ⟨sampleTables, false, []⟩).fw.anchorVerdict p = some .reject := by
  refine ⟨by decide +kernel, (split_sites_rejected_iff (s := ⟨sampleTables, false, []⟩)
    (reached_sample _) (by decide +kernel)).mpr fun site hsite n hn d hd => ?_⟩
  have hnets : readDst .plain .IPv4 "10.0.0.0/8" = [net4 10 0 0 0 8] := by decide +kernel
  obtain rfl : site = "10.0.0.0/8" := mem_singleton.mp hsite
  rw [hnets] at hn
  obtain rfl := mem_singleton.mp hn
  exact any_eq_true.mpr ⟨_, mem_cons_self, hd⟩

/-- A web request to `93.184.216.34`. -/
def sitePacket : Packet := samplePacket (.v4 0x5db8d822#32)

/-- A listed public site is reached past the tunnel: no anchor decides, and the rules of the host
let the packet out. -/
theorem split_sites_leak :
    sitePacket.isTo .plain (sites (splitConfig "93.184.216.0/24")) = true ∧
    sitePacket.inLAN = false ∧ sitePacket.isTunnel = false ∧
    sitePacket.isLoopback = false ∧ sitePacket.isDHCP = false ∧
    isAllowedDns .plain (splitConfig "93.184.216.0/24") sitePacket = false ∧
    (KillSwitch.enableKillSwitch .plain (splitConfig "93.184.216.0/24")
      ⟨sampleTables, false, []⟩).fw.anchorVerdict sitePacket = none ∧
    (KillSwitch.enableKillSwitch .plain (splitConfig "93.184.216.0/24")
      ⟨sampleTables, false, []⟩).fw.verdict sitePacket =
        some .accept := by
  exact ⟨by decide +kernel, by decide, by decide, by decide, by decide, rfl, by decide +kernel,
    by decide +kernel⟩

end Dopamine.Linux
