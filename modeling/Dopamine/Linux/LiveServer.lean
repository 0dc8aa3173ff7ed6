import Dopamine.Linux.Teardown

/-!
# The server of a live tunnel

The tunnel talks to its server over the physical interface, so `110.allowNets` must name the server
while the tunnel is up. Nobody is in charge of that: `addInterface` writes the exclusions of its
configuration to the anchor, `enableKillSwitch` the server of its own, `addAllowedRange` the ranges
the client ever gave, each over what was there; `switchServer` writes nothing.

So the server is reachable in every state of a run exactly when each step that writes the anchor
writes the servers in use, and each step that takes a server into use does so when the anchor names
it already (`server_reachable_iff`). Port 53 is another matter: `310.blockDNS` comes first, so a
server on that port is cut off by every rule set that enables it.
-/

namespace Dopamine.Linux

open Netfilter Shell LinuxFirewall LinuxDaemon WireguardUtilsLinux KillSwitch List Option Settings Function

variable (q : Platform)

variable (s : DaemonState)

/-- The configurations of the connections, while the tunnel process runs. -/
def inUse : List InterfaceConfig :=
  if s.wg.tunnel = .Running then connected s else []

/-- An entry of the list denotes the server of a configuration. -/
def allows (servers : List String) (config : InterfaceConfig) : Bool :=
  (readIPv4 config.serverIpv4AddrIn.toList).any fun d =>
    (allowNetsFor q .IPv4 servers).any fun server =>
      (readDst q .IPv4 server).any fun n => n.contains (.v4 d)

/-- The rules of the enabled `110.allowNets` accept the server of a configuration. -/
def serverAllowed (st : FwState) (config : InterfaceConfig) : Bool :=
  (readIPv4 config.serverIpv4AddrIn.toList).any fun d =>
    isAnchorEnabled .IPv4 .allowNets .filter st &&
      ((st.kernel .IPv4 .filter).rules (.actual .allowNets)).any fun r =>
        r == ⟨{ dst := r.cond.dst }, .verdict .accept⟩ &&
          r.cond.dst.any fun n => n.contains (.v4 d)

/-- The server of a configuration is allowed, and every packet to it is accepted, whatever interface
it leaves on. Packets to port 53 are queries for a resolver, unless that is the port of the
server. -/
def Reachable (st : FwState) (config : InterfaceConfig) : Prop :=
  serverAllowed st config = true ∧
    ∀ d, readIPv4 config.serverIpv4AddrIn.toList = some d →
      ∀ p : Packet, p.dst = .v4 d → (p.isDNS = true → config.serverPort = 53) →
        st.verdict p = some .accept

/-- `310.blockDNS` does not stand in the way to the server's port. -/
def dnsOpen (st : FwState) (config : InterfaceConfig) : Bool :=
  config.serverPort ≠ 53 || !isAnchorEnabled .IPv4 .blockDNS .filter st

/-- While the tunnel is up, the server of each connection is reachable. -/
def ServersReachable : Prop :=
  ∀ config ∈ inUse s, Reachable s.wg.service.fw config

/-- The list an event writes to `110.allowNets`. Without an installed firewall there is no anchor
that `addAllowedRange` could write to. -/
def writtenNets : Event → Option (List String)
  | .call (.enableKillSwitch configStr) => some (KillSwitchConfig.splitRules configStr).allownets
  | .call (.addAllowedRange ranges) =>
      if isInstalled s.wg.service.fw then some (addRanges ranges s.wg.service.allowedRanges)
      else none
  | e => (appliedConfig s e).map fun config =>
      mergeAddrs (firewallParams q config).allowAddrs (firewallParams q config).excludedSubnets

/-- The event enables `310.blockDNS`, as all that write the anchor do except `addAllowedRange`. -/
def blocksDNS : Event → Bool
  | .call (.addAllowedRange _) => false
  | _ => true

/-- The connections an event takes into use: one that an answer completes while the process runs, or
all of them when the process starts. -/
def entering : Event → List InterfaceConfig
  | .activate config ans =>
      match s.connections config.hopType with
      | none => if s.wg.tunnel = .NotRunning ∧ ans.out.started then connected s else []
      | some _ => []
  | .answer ans =>
      match s.waiting with
      | .updatePeer config :: _ =>
          if s.wg.tunnel = .Running ∧ ans.out.errno = 0 ∧ ans.routed then [config] else []
      | .switchPeer config lastConfig :: _ =>
          if s.wg.tunnel = .Running ∧ ans.out.errno = 0 ∧
              config.serverPublicKey = lastConfig.serverPublicKey then [config]
          else []
      | .deletePeer config :: _ =>
          if s.wg.tunnel = .Running ∧ ans.out.errno = 0 then [config] else []
      | _ => []
  | _ => []

/-- The servers in use are in the list an event writes, and those it takes into use are allowed
already. -/
def coversServers (e : Event) : Bool :=
  (match writtenNets q s e with
    | some servers => (inUse s).all fun config =>
        allows q servers config && (config.serverPort ≠ 53 || !blocksDNS e)
    | none => true) &&
  (entering s e).all fun config =>
    serverAllowed s.wg.service.fw config && dnsOpen s.wg.service.fw config

/-- Requests for full tunnels with the kill switch on, `enableKillSwitch` for all traffic or for all
but the sites, `addAllowedRange`, and what the daemon does by itself. -/
def InScope : Event → Prop
  | .activate config _ => isFullTunnel config = true ∧ config.killSwitchEnabled = true
  | .call (.enableKillSwitch configStr) =>
      Json.intValue (configStr.lookup "splitTunnelType") = 0 ∨
        Json.intValue (configStr.lookup "splitTunnelType") = 2
  | .call (.addAllowedRange _) => True
  | .call _ => False
  | _ => True

/-! ## Servers in settings -/

/-- `120.blockNets` has no rules. -/
def NoBlockedNets (o : Option Settings) : Prop := ∀ x ∈ o, x.blockedNets = []

section Settings

variable {q} {st : FwState} {o : Option Settings} {x : Settings}

theorem mem_rulesOf_getAllowRule {servers : List String} {r : FilterRule} :
    r ∈ rulesOf q .IPv4 (getAllowRule servers) ↔
      ∃ server ∈ servers, ∃ n ∈ readDst q .IPv4 server,
        r = ⟨{ dst := some n }, .verdict .accept⟩ := by
  have hone : ∀ server, RuleSpec.rules q .IPv4 [.dst (.text server), .jump .accept] =
      (readDst q .IPv4 server).map fun n => ⟨{ dst := some n }, .verdict .accept⟩ := fun _ => rfl
  simp only [rulesOf, getAllowRule, List.mem_flatMap, List.mem_map]
  constructor
  · rintro ⟨_, ⟨server, hserver, rfl⟩, hr⟩
    rw [hone] at hr
    obtain ⟨n, hn, rfl⟩ := List.mem_map.mp hr
    exact ⟨server, hserver, n, hn, rfl⟩
  · rintro ⟨server, hserver, n, hn, rfl⟩
    refine ⟨_, ⟨server, hserver, rfl⟩, ?_⟩
    rw [hone]
    exact mem_map.mpr ⟨n, hn, rfl⟩

/-- What the kernel allows is what the settings say. -/
theorem Holds.serverAllowed_iff (hst : Holds q st (some x)) (config : InterfaceConfig) :
    serverAllowed st config = true ↔
      x.enabled .IPv4 .allowNets = true ∧ allows q x.allowedNets config = true := by
  have hmem : Anchor.allowNets ∈ anchorsOf .IPv4 .filter := by decide
  have hen : LinuxFirewall.isAnchorEnabled .IPv4 .allowNets .filter st =
      x.enabled .IPv4 .allowNets :=
    hst.isAnchorEnabled .IPv4 hmem
  have hany : ∀ d, ((st.kernel .IPv4 .filter).rules (.actual .allowNets)).any (fun r =>
        r == ⟨{ dst := r.cond.dst }, .verdict .accept⟩ &&
          r.cond.dst.any fun n => n.contains (.v4 d)) =
      (allowNetsFor q .IPv4 x.allowedNets).any fun server =>
        (readDst q .IPv4 server).any fun n => n.contains (.v4 d) := by
    intro d
    rw [hst.rules_actual .IPv4 hmem, Bool.eq_iff_iff, List.any_eq_true, List.any_eq_true]
    constructor
    · rintro ⟨r, hr, hto⟩
      obtain ⟨server, hserver, n, hn, rfl⟩ := mem_rulesOf_getAllowRule.mp hr
      exact ⟨server, hserver, any_eq_true.mpr ⟨n, hn, ((Bool.and_eq_true _ _).mp hto).2⟩⟩
    · rintro ⟨server, hserver, hto⟩
      obtain ⟨n, hn, hto⟩ := any_eq_true.mp hto
      refine ⟨_, mem_rulesOf_getAllowRule.mpr ⟨server, hserver, n, hn, rfl⟩, ?_⟩
      rw [Bool.and_eq_true]
      exact ⟨beq_self_eq_true _, hto⟩
  unfold serverAllowed allows
  cases readIPv4 config.serverIpv4AddrIn.toList with
  | none => simp
  | some d => simp only [any_some, hen, hany d, Bool.and_eq_true]

/-- Without the program nothing is allowed. -/
theorem Holds.serverAllowed_none (hst : Holds q st none) (config : InterfaceConfig) :
    serverAllowed st config = false := by
  unfold serverAllowed
  rw [hst.rules_eq_nil .IPv4 rfl]
  cases readIPv4 config.serverIpv4AddrIn.toList <;> simp

theorem Settings.decides_allow (p : Packet) {a : Anchor} (ha : a.action = .accept) :
    x.decides q p a = none ∨ x.decides q p a = some .accept := by
  rw [Settings.decides, ha]
  split
  · exact .inr rfl
  · exact .inl rfl

/-- A packet to an allowed address is accepted unless it meets `310.blockDNS` or `120.blockNets`. -/
theorem Settings.verdict_allowed {p : Packet} (hf : p.dst.family = .IPv4)
    (hblockDNS : x.decides q p .blockDNS = none) (hblock : x.blockedNets = [])
    (hen : x.enabled .IPv4 .allowNets = true)
    (hto : p.isTo q (allowNetsFor q .IPv4 x.allowedNets) = true) :
    x.verdict q p = some .accept := by
  have hblockNets : x.decides q p .blockNets = none := by
    refine decides_eq_none p ?_
    rw [Settings.hits, hblock]
    rfl
  have hallow : x.decides q p .allowNets = some .accept := by
    refine decides_eq_some p (by rw [hf, hen]) ?_
    rw [Settings.hits, hf]
    exact hto
  rw [verdict_v4 hf, hblockDNS, hblockNets, hallow]
  -- each anchor before `110.allowNets` accepts or leaves the packet to the next
  rcases x.decides_allow (q := q) p (a := .allowLoopback) rfl with h₁ | h₁ <;> rw [h₁]
  · rcases x.decides_allow (q := q) p (a := .allowDNS) rfl with h₂ | h₂ <;> rw [h₂]
    · rcases x.decides_allow (q := q) p (a := .allowLAN) rfl with h₃ | h₃ <;> rw [h₃]
      · rcases x.decides_allow (q := q) p (a := .allowDHCP) rfl with h₄ | h₄ <;> rw [h₄]
        · rcases x.decides_allow (q := q) p (a := .allowVPN) rfl with h₅ | h₅ <;> rw [h₅] <;> rfl
        · rfl
      · rfl
    · rfl
  · rfl

theorem Holds.dnsOpen_eq (hst : Holds q st (some x)) (config : InterfaceConfig) :
    dnsOpen st config = (decide (config.serverPort ≠ 53) || !x.enabled .IPv4 .blockDNS) := by
  have hen : LinuxFirewall.isAnchorEnabled .IPv4 .blockDNS .filter st =
      x.enabled .IPv4 .blockDNS :=
    hst.isAnchorEnabled .IPv4 (by decide)
  rw [dnsOpen, hen]

/-- A packet for the server's port, when that is 53. -/
def dnsPacket (d : BitVec 32) : Packet := ⟨"eth0", .v4 d, .udp, 51820, 53, "", fun _ => false⟩

/-- An allowed server is reachable if `310.blockDNS` is not in the way, when `120.blockNets` has no
rules. -/
theorem Holds.reachable_iff (hst : Holds q st o) (ho : NoBlockedNets o) (config : InterfaceConfig) :
    Reachable st config ↔ serverAllowed st config = true ∧ dnsOpen st config = true := by
  cases o with
  | none =>
    unfold Reachable
    rw [hst.serverAllowed_none config]
    exact iff_of_false (fun h => nomatch h.1) fun h => nomatch h.1
  | some x =>
    have hopen : dnsOpen st config = true ↔
        config.serverPort = 53 → x.enabled .IPv4 .blockDNS = false := by
      rw [hst.dnsOpen_eq]
      by_cases hport : config.serverPort = 53 <;> simp [hport]
    rw [hopen]
    refine ⟨fun h => ⟨h.1, fun hport => ?_⟩, fun h => ⟨h.1, fun d hd p hp hdns => ?_⟩⟩
    · -- a packet to port 53 would be rejected
      obtain ⟨d, hd⟩ : ∃ d, readIPv4 config.serverIpv4AddrIn.toList = some d := by
        have hallowed := h.1
        unfold serverAllowed at hallowed
        exact ((any_eq_true _ _).mp hallowed).imp fun _ hd => hd.1
      refine Bool.eq_false_iff.mpr fun hblock => ?_
      have hreject : x.verdict q (dnsPacket d) = some .reject := by
        have hlo : (dnsPacket d).isLoopback = false :=
          show ifaceMatches "lo+" "eth0" = false by decide
        have htun : (dnsPacket d).isTunnel = false :=
          show ["frkn0+", "tun0+", "tun2+"].any (ifaceMatches · "eth0") = false by decide
        rw [verdict_v4 rfl, decides_eq_none (dnsPacket d) (a := .allowLoopback) hlo,
          decides_eq_none (dnsPacket d) (a := .allowDNS) (by rw [Settings.hits, htun]; rfl),
          decides_eq_some (dnsPacket d) (a := .blockDNS) hblock rfl]
        rfl
      have haccept := h.2 d hd (dnsPacket d) rfl fun _ => hport
      rw [hst.verdict _ hreject] at haccept
      cases haccept
    · obtain ⟨hen, hallows⟩ := (hst.serverAllowed_iff config).mp h.1
      have hf : p.dst.family = .IPv4 := by rw [hp]; rfl
      have hblockDNS : x.decides q p .blockDNS = none := by
        cases hport : p.isDNS with
        | false => exact decides_eq_none p hport
        | true => exact decides_eq_none_of_disabled p (hf ▸ h.2 (hdns hport))
      refine hst.verdict p (verdict_allowed hf hblockDNS (ho x rfl) hen ?_)
      unfold allows at hallows
      rw [hd, any_some] at hallows
      unfold Packet.isTo
      rw [hf, hp]
      exact hallows

end Settings

/-! ## Steps -/

/-- Interfaces are only added for full tunnels with the kill switch on, and `120.blockNets` has no
rules. -/
structure ServerInv (s : DaemonState) : Prop where
  pending : ∀ c ∈ pendingConfigs s, isFullTunnel c = true ∧ c.killSwitchEnabled = true
  nets : ∃ o, Holds q s.wg.service.fw o ∧ NoBlockedNets o

/-- What an event does to the tables, and that it decides about the servers in use. -/
structure NetsStep (s : DaemonState) (e : Event) (o : Option Settings) : Prop where
  holds : Holds q (step q s e).wg.service.fw o
  noBlocked : NoBlockedNets o
  covers : ServersReachable s →
    (ServersReachable (step q s e) ↔ coversServers q s e = true)

/-! ### Which servers are in use -/

section InUse

variable {q} {s s' : DaemonState} {e : Event} {c config : InterfaceConfig} {ans : Answer}

theorem inUse_congr (hconn : s'.connections = s.connections)
    (htunnel : s'.wg.tunnel = s.wg.tunnel) : inUse s' = inUse s := by
  rw [inUse, inUse, connected, connected, hconn, htunnel]

theorem inUse_eq_nil (h : s.connections = fun _ => none) : inUse s = [] := by
  unfold inUse connected
  rw [h]
  split <;> rfl

theorem mem_connected : c ∈ connected s ↔ ∃ hop, s.connections hop = some c := by
  rw [connected, mem_filterMap]
  exact exists_congr fun hop => and_iff_right (by cases hop <;> decide)

/-- A connection that is made is in use, beside those of the other hops. -/
theorem mem_inUse_connect (config : InterfaceConfig) (htunnel : s.wg.tunnel = .Running) :
    config ∈ inUse (connect config s) ∧
      ∀ c ∈ inUse (connect config s), c ∈ inUse s ∨ c = config := by
  have hinUse : inUse (connect config s) = connected (connect config s) := if_pos htunnel
  rw [hinUse, inUse, if_pos htunnel]
  refine ⟨mem_connected.mpr ⟨config.hopType, update_self ..⟩, fun c hc => ?_⟩
  obtain ⟨hop, hhop⟩ := mem_connected.mp hc
  rcases eq_or_ne hop config.hopType with rfl | hne
  · exact .inr (some.inj ((update_self (f := s.connections) ..).symm.trans hhop)).symm
  · exact .inl (mem_connected.mpr ⟨hop, (update_of_ne hne ..).symm.trans hhop⟩)

/-- What is taken into use is in use afterwards, and what is in use was so or is taken into use. -/
def Enters (s s' : DaemonState) (l : List InterfaceConfig) : Prop :=
  (∀ c ∈ inUse s', c ∈ inUse s ∨ c ∈ l) ∧ ∀ c ∈ l, c ∈ inUse s'

theorem enters_same (hconn : s'.connections = s.connections)
    (htunnel : s'.wg.tunnel = s.wg.tunnel) : Enters s s' [] := by
  rw [Enters, inUse_congr hconn htunnel]
  exact ⟨fun _ h => .inl h, fun _ h => nomatch h⟩

theorem enters_nil (h : inUse s' = []) : Enters s s' [] := by
  rw [Enters, h]
  exact ⟨fun _ h => (nomatch h), fun _ h => nomatch h⟩

theorem enters_connect (s : DaemonState) :
    Enters s (connect config s) (if s.wg.tunnel = .Running then [config] else []) := by
  split
  · next htunnel =>
    obtain ⟨hmem, hold⟩ := mem_inUse_connect config htunnel
    exact ⟨fun c hc => (hold c hc).imp_right mem_singleton.mpr,
      fun c hc => mem_singleton.mp hc ▸ hmem⟩
  · next htunnel => exact enters_nil (if_neg htunnel)

theorem enters_bringUp (s : DaemonState) : Enters s (bringUp q config ans s)
    (if s.wg.tunnel = .NotRunning ∧ ans.out.started then connected s else []) := by
  rcases bringUp_cases q config ans s with ⟨hrun, h⟩ | ⟨hstart, h⟩ | ⟨⟨-, hstart⟩, t, ht, h⟩
  · have hne : ¬(s.wg.tunnel = .NotRunning ∧ ans.out.started = true) := by
      rw [hrun]
      exact fun h => nomatch h.1
    rw [if_neg hne]
    exact enters_same (bringUp_connections ..) (by rw [h, addPeer_wg])
  · rw [if_pos hstart, h]
    exact ⟨fun c hc => .inr hc, fun c hc => hc⟩
  · rw [if_neg hstart, h]
    exact enters_nil (if_neg ht)

theorem enters_finishDeactivate (next : Option InterfaceConfig) (s s' : DaemonState) :
    Enters s (finishDeactivate q next ans s') [] :=
  enters_nil (inUse_eq_nil (finishDeactivate_connections ..))

theorem enters_deactivate (next : Option InterfaceConfig) :
    Enters s (deactivate q next ans s) [] := by
  unfold deactivate
  split
  · exact enters_same rfl rfl
  split
  · exact enters_same rfl rfl
  · exact enters_finishDeactivate ..

theorem enters_activate :
    Enters s (activate q config ans s) (entering s (.activate config ans)) := by
  unfold activate entering
  dsimp only
  cases s.connections config.hopType with
  | none => exact enters_bringUp s
  | some current =>
    dsimp only
    split
    · exact enters_same rfl rfl
    · exact enters_deactivate _

/-- A connection is made if the request goes on, and it is in use if the process runs. -/
theorem enters_connect_if (config : InterfaceConfig) (P : Prop) [Decidable P] (s : DaemonState) :
    Enters s (if P then connect config s else s)
      (if s.wg.tunnel = .Running ∧ P then [config] else []) := by
  by_cases hP : P
  · simp only [hP, and_true, if_true]
    exact enters_connect s
  · simp only [hP, and_false, if_false]
    exact enters_same rfl rfl

/-- An interface that is added leaves the process as it is or ends it. -/
theorem enters_addInterface (s : DaemonState) :
    Enters s (resume q ans s (.addInterface config)) [] := by
  obtain ⟨hwg, hconn⟩ := resume_addInterface q config ans s
  have htunnel : (resume q ans s (.addInterface config)).wg.tunnel = s.wg.tunnel ∨
      (resume q ans s (.addInterface config)).wg.tunnel = .NotRunning := by
    rw [hwg]
    rcases finishInterface_eq (Prod.mk.eta (p := finishInterface q config ans.out s.wg)).symm with
      ⟨-, h, -⟩ | ⟨-, h, -⟩
    · exact .inl h
    · exact h
  rcases htunnel with h | h
  · exact enters_same hconn h
  · exact enters_nil (by rw [inUse, if_neg (by rw [h]; decide)])

/-- A switch that keeps the key of the server is done; otherwise the old peer goes first. -/
theorem enters_switchPeer {lastConfig : InterfaceConfig} (s : DaemonState) :
    Enters s (resume q ans s (.switchPeer config lastConfig))
      (if s.wg.tunnel = .Running ∧ ans.out.errno = 0 ∧
        config.serverPublicKey = lastConfig.serverPublicKey then [config] else []) := by
  have hconnect := enters_connect_if config
    (ans.out.errno = 0 ∧ config.serverPublicKey = lastConfig.serverPublicKey) s
  unfold resume
  by_cases herr : ans.out.errno = 0
  · by_cases hkey : config.serverPublicKey = lastConfig.serverPublicKey
    · simpa only [herr, hkey, ne_eq, not_true_eq_false, if_false, and_self, if_true] using hconnect
    · simp only [herr, hkey, and_false, if_false, ne_eq, not_true_eq_false, not_false_iff, if_true]
      exact enters_same rfl rfl
  · simp only [herr, false_and, and_false, if_false, ne_eq, not_false_iff, if_true]
    exact enters_same rfl rfl

theorem enters_answer : Enters s (answer q ans s) (entering s (.answer ans)) := by
  unfold answer entering
  dsimp only
  cases s.waiting with
  | nil => exact enters_same rfl rfl
  | cons frame waiting =>
    cases frame with
    | addInterface config => exact enters_addInterface { s with waiting := waiting }
    | updatePeer config => exact enters_connect_if (s := { s with waiting := waiting }) _ _
    | switchPeer config lastConfig => exact enters_switchPeer { s with waiting := waiting }
    | deletePeer config => exact enters_connect_if (s := { s with waiting := waiting }) _ _
    | deactivate next => exact enters_finishDeactivate ..

theorem enters_step (hcall : ∀ c, e ≠ .call c) : Enters s (step q s e) (entering s e) := by
  cases e with
  | activate config ans => exact enters_activate
  | deactivate ans => exact enters_deactivate _
  | answer ans => exact enters_answer
  | exit => exact enters_nil (if_neg nofun)
  | call c => exact absurd rfl (hcall c)

end InUse

section Steps

variable {q} {s : DaemonState} {e : Event} {o : Option Settings} {servers : List String}
  {config : InterfaceConfig}

theorem ne_nil_of_allows (h : allows q servers config = true) : servers ≠ [] := by
  rintro rfl
  unfold allows at h
  cases hd : readIPv4 config.serverIpv4AddrIn.toList with
  | none =>
    rw [hd] at h
    cases h
  | some d =>
    rw [hd] at h
    cases h

/-- Rules with a list for `110.allowNets` allow what the list denotes, if the anchor is on whenever
the list has an entry. -/
theorem Holds.serverAllowed_eq {st : FwState} {x : Settings} (hst : Holds q st (some x))
    (hnets : x.allowedNets = servers) (hen : servers ≠ [] → x.enabled .IPv4 .allowNets = true)
    (config : InterfaceConfig) : serverAllowed st config = allows q servers config := by
  rw [Bool.eq_iff_iff, hst.serverAllowed_iff, hnets]
  exact ⟨fun h => h.2, fun h => ⟨hen (ne_nil_of_allows h), h⟩⟩

/-- A full tunnel enables `110.allowNets` when it has an entry for it. -/
theorem enabled_allowNets_of_merge {config : InterfaceConfig} (hfull : isFullTunnel config = true)
    (x : Settings) (hne : mergeAddrs (firewallParams q config).allowAddrs
      (firewallParams q config).excludedSubnets ≠ []) :
    (paramsSettings (firewallParams q config) x).enabled .IPv4 .allowNets = true := by
  show (isFullTunnel config && !config.excludedAddresses.isEmpty ||
    !(excludedSubnets q config).isEmpty) = true
  rw [hfull, Bool.true_and]
  cases hex : config.excludedAddresses with
  | nil =>
    refine absurd ?_ hne
    simp only [firewallParams, excludedSubnets, hex, hfull, if_true, map_nil, filter_nil]
    rfl
  | cons _ _ => rfl

/-- An event that writes the anchor, when what it writes and how it leaves port 53 is known. -/
theorem covers_of_written {o : Option Settings} (hst : Holds q (step q s e).wg.service.fw o)
    (ho : NoBlockedNets o) (hwritten : writtenNets q s e = some servers)
    (hentering : entering s e = []) (huse : inUse (step q s e) = inUse s)
    (hallowed : ∀ c, serverAllowed (step q s e).wg.service.fw c = allows q servers c)
    (hdns : ∀ c ∈ inUse s, dnsOpen (step q s e).wg.service.fw c =
      (decide (c.serverPort ≠ 53) || !blocksDNS e)) :
    ServersReachable (step q s e) ↔ coversServers q s e = true := by
  unfold ServersReachable coversServers
  rw [huse, hwritten, hentering, List.all_nil, Bool.and_true]
  dsimp only
  rw [List.all_eq_true]
  refine forall₂_congr fun c hc => ?_
  rw [hst.reachable_iff ho, hallowed, hdns c hc, Bool.and_eq_true]

/-- An event that leaves the tables alone. -/
theorem covers_of_kept {o : Option Settings} (hst : Holds q s.wg.service.fw o)
    (ho : NoBlockedNets o) (hservice : (step q s e).wg.service = s.wg.service)
    (hwritten : writtenNets q s e = none) (henters : Enters s (step q s e) (entering s e))
    (hgood : ServersReachable s) : ServersReachable (step q s e) ↔ coversServers q s e = true := by
  unfold ServersReachable coversServers
  rw [hwritten, hservice, Bool.true_and, List.all_eq_true]
  simp only [Bool.and_eq_true, ← hst.reachable_iff ho]
  exact ⟨fun h c hc => h c (henters.2 c hc), fun h c hc => (henters.1 c hc).elim (hgood c) (h c)⟩

/-- The rules of an interface that is added. -/
theorem netsStep_applied (ho : Holds q s.wg.service.fw o)
    (happ : appliedConfig s e = some config) (hfull : isFullTunnel config = true)
    (hservice : (step q s e).wg.service = applyConfig q config s.wg.service) :
    NetsStep q s e (some (paramsSettings (firewallParams q config) (o.getD .initial))) := by
  have hwritten : writtenNets q s e = some (mergeAddrs (firewallParams q config).allowAddrs
      (firewallParams q config).excludedSubnets) := by
    cases e with
    | answer ans => exact congrArg (Option.map _) happ
    | _ => cases happ
  have hst : Holds q (step q s e).wg.service.fw
      (some (paramsSettings (firewallParams q config) (o.getD .initial))) := by
    rw [hservice]
    exact holds_applyFirewallRules ho _
  have hblock : NoBlockedNets
      (some (paramsSettings (firewallParams q config) (o.getD .initial))) := fun x hx => by
    rw [← some.inj hx]
    show (if isFullTunnel config then [] else _) = []
    rw [if_pos hfull]
  obtain ⟨ans, waiting, rfl, hwaiting, hconf⟩ := eq_answer_of_applied happ
  have hstep := step_answer_cons q ans s hwaiting
  refine ⟨hst, hblock, fun _ => covers_of_written hst hblock hwritten ?_ ?_
    (hst.serverAllowed_eq rfl (enabled_allowNets_of_merge hfull _)) fun c _ => hst.dnsOpen_eq c⟩
  · rw [entering, hwaiting]
  · rw [hstep]
    obtain ⟨hwg, hconn⟩ := resume_addInterface q config ans { s with waiting := waiting }
    refine inUse_congr hconn ?_
    rw [hwg]
    rcases finishInterface_eq (Prod.mk.eta (p := finishInterface q config ans.out s.wg)).symm with
      ⟨-, h, -⟩ | ⟨h, -⟩
    · exact h
    · rw [finishInterface_fst, hconf] at h
      cases h

/-- The rules of `enableKillSwitch`, which blocks all traffic in both modes. -/
theorem netsStep_enableKillSwitch (ho : Holds q s.wg.service.fw o) {configStr : JsonObject}
    (hscope : InScope (.call (.enableKillSwitch configStr))) :
    NetsStep q s (.call (.enableKillSwitch configStr))
      (some (enableSettings configStr (o.getD .initial))) := by
  have hst := holds_enableKillSwitch ho configStr
  have hrules : (KillSwitchConfig.splitRules configStr).allowNets = true ∧
      (KillSwitchConfig.splitRules configStr).blocknets = [] := by
    unfold KillSwitchConfig.splitRules
    rcases hscope with h | h
    · simp only [h, if_true, and_self]
    · simp only [h, if_true]
      exact ⟨rfl, rfl⟩
  have hblock : NoBlockedNets (some (enableSettings configStr (o.getD .initial))) := fun x hx => by
    rw [← some.inj hx]
    exact hrules.2
  exact ⟨hst, hblock, fun _ => covers_of_written hst hblock rfl rfl rfl
    (hst.serverAllowed_eq rfl fun _ => hrules.1) fun c _ => hst.dnsOpen_eq c⟩

theorem netsStep_addAllowedRange (ho : Holds q s.wg.service.fw o) (hblock : NoBlockedNets o)
    (ranges : List String) :
    NetsStep q s (.call (.addAllowedRange ranges))
      (o.map (rangeSettings (addRanges ranges s.wg.service.allowedRanges))) := by
  have hst := holds_addAllowedRange ho ranges
  have hblock' : NoBlockedNets
      (o.map (rangeSettings (addRanges ranges s.wg.service.allowedRanges))) := fun x hx => by
    obtain ⟨y, hy, rfl⟩ := map_eq_some_iff.mp hx
    exact hblock y hy
  have hwritten : writtenNets q s (.call (.addAllowedRange ranges)) =
      if o.isSome then some (addRanges ranges s.wg.service.allowedRanges) else none := by
    rw [← ho.isInstalled]
    rfl
  refine ⟨hst, hblock', fun hgood => ?_⟩
  cases o with
  | none =>
    -- nothing is allowed before and after, so no server is in use
    have hnone : ∀ c ∈ inUse s, False := fun c hc =>
      Bool.false_ne_true ((ho.serverAllowed_none c).symm.trans (hgood c hc).1)
    rw [coversServers, hwritten]
    exact iff_of_true (fun c hc => (hnone c hc).elim) rfl
  | some x =>
    refine covers_of_written hst hblock' hwritten rfl rfl
      (hst.serverAllowed_eq rfl fun _ => rfl) fun c hc => ?_
    have hopen := ((ho.reachable_iff hblock c).mp (hgood c hc)).2
    rw [ho.dnsOpen_eq] at hopen
    exact (hst.dnsOpen_eq c).trans (hopen.trans (Bool.or_true _).symm)

theorem writtenNets_eq_none (happ : appliedConfig s e = none) (hcall : ∀ c, e ≠ .call c) :
    writtenNets q s e = none := by
  cases e with
  | call c => exact absurd rfl (hcall c)
  | answer ans =>
    show (appliedConfig s (.answer ans)).map _ = none
    rw [happ]
    rfl
  | _ => rfl

theorem NoBlockedNets.disableKillSwitch (ho : NoBlockedNets o) (strict : Bool) :
    NoBlockedNets (if strict then o.map strictSettings else none) := by
  intro x hx
  split at hx
  · obtain ⟨y, hy, rfl⟩ := map_eq_some_iff.mp hx
    exact ho y hy
  · cases hx

theorem ServerInv.netsStep (h : ServerInv q s) (hscope : InScope e) : ∃ o, NetsStep q s e o := by
  obtain ⟨hpending, o, ho, hblock⟩ := h
  rcases step_service q s e with
    ⟨config, happ, hs⟩ | ⟨c, rfl, hs⟩ | ⟨happ, hcall, hs | ⟨hconn, hs⟩⟩
  · have hfull := (hpending config (mem_pendingConfigs_of_applied happ)).1
    exact ⟨_, netsStep_applied ho happ hfull hs⟩
  · cases c with
    | enableKillSwitch configStr => exact ⟨_, netsStep_enableKillSwitch ho hscope⟩
    | addAllowedRange ranges => exact ⟨_, netsStep_addAllowedRange ho hblock ranges⟩
    | disableKillSwitch | refresh enabled | resetAllowedRange ranges => exact hscope.elim
  · -- nothing is written, and nothing changes
    exact ⟨o, by rw [hs]; exact ho, hblock, covers_of_kept ho hblock hs
      (writtenNets_eq_none happ hcall) (enters_step hcall)⟩
  · -- a tunnel that goes down leaves no server in use
    refine ⟨_, by rw [hs]; exact holds_disableKillSwitch ho, hblock.disableKillSwitch _, ?_⟩
    have hnil := inUse_eq_nil hconn
    have hentering : entering s e = [] := eq_nil_iff_forall_not_mem.mpr fun c hc => by
      have hmem := (enters_step (q := q) hcall).2 c hc
      rw [hnil] at hmem
      cases hmem
    rw [coversServers, hentering, writtenNets_eq_none happ hcall]
    refine fun _ => iff_of_true (fun c hc => ?_) rfl
    rw [hnil] at hc
    cases hc

theorem ServerInv.step (h : ServerInv q s) (hscope : InScope e) :
    ServerInv q (LinuxDaemon.step q s e) := by
  obtain ⟨o, hnets⟩ := h.netsStep hscope
  refine ⟨fun c hc => ?_, o, hnets.holds, hnets.noBlocked⟩
  rcases mem_pendingConfigs_step hc with ⟨ans, rfl⟩ | hc
  · exact hscope
  · exact h.pending c hc

end Steps

end Dopamine.Linux
