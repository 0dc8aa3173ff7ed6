import Dopamine.Linux.Activation

/-!
# The routes into the tunnel after a server switch

`switchServer` adds the routes of the new ranges and then takes back those of the old ranges that
are not among them. `deleteRoutePrefix` inserts a range again unless it is a default one, and a
default one takes the two halves away even if the new ranges have them. Nothing takes back the
routes of the local networks.

`retract` is what the loop over the old ranges does to the destinations. The last range that touches
a destination decides (`retract_iff`).
-/

namespace Dopamine.Linux.LinuxUtils

open Prog Daemon Routing WireguardUtilsLinux List Triple

variable {q : Platform} {config : InterfaceConfig}

/-! ## Destinations -/

/-- There is a route into the tunnel. -/
def IsTunneled (t : Routes) (dest : Dest) : Prop := ∃ r ∈ t, r.hop = .tunnel ∧ r.dest = dest

/-- The ranges that are sent for a range: itself, or two halves for a default one. -/
def pieces (ip : IPAddress) : List IPAddress := if ip.prefixLength > 0 then [ip] else halves ip

/-- The destinations of the routes `updateRoutePrefix` installs. -/
def prefixDests (ip : IPAddress) : List Dest := (pieces ip).filterMap routeDest

/-- The destinations of the routes for the allowed ranges. -/
def rangeDests (config : InterfaceConfig) : List Dest :=
  config.allowedIPAddressRanges.flatMap prefixDests

/-- The destinations of the routes for the local networks. -/
def lanDests (config : InterfaceConfig) : List Dest :=
  if config.routeLanThroughVpn then [] else kLanRanges.filterMap routeDest

/-- Every request for the range is one that can be sent. -/
def Routable (ip : IPAddress) : Prop :=
  if ip.prefixLength > 0 then (buildAllowedIp ip).isSome = true else ip.address ≠ .null

section Tables

variable {t : Routes}

/-- Every route into the tunnel has the metric of `insertRoute`. -/
def OneMetric (t : Routes) : Prop := ∀ r ∈ t, r.hop = .tunnel → r.metric = 1

theorem isTunneled_insertRoute (ip : IPAddress) (dest : Dest) :
    IsTunneled (LinuxRouteMonitor.insertRoute ip t) dest ↔
      IsTunneled t dest ∨ routeDest ip = some dest := by
  unfold LinuxRouteMonitor.insertRoute
  cases routeDest ip with
  | none => simp
  | some d =>
    constructor
    · rintro ⟨r, hr, hhop, hdest⟩
      rcases Table.mem_insert.mp hr with rfl | ⟨hr, -⟩
      · exact .inr (congrArg some hdest)
      · exact .inl ⟨r, hr, hhop, hdest⟩
    · rintro (⟨r, hr, hhop, hdest⟩ | heq)
      · by_cases hkey : r.key = (tunnelRoute d).key
        · exact ⟨tunnelRoute d, Table.mem_insert.mpr (.inl rfl), rfl,
            (congrArg Prod.fst hkey).symm.trans hdest⟩
        · exact ⟨r, Table.mem_insert.mpr (.inr ⟨hr, hkey⟩), hhop, hdest⟩
      · exact ⟨tunnelRoute d, Table.mem_insert.mpr (.inl rfl), rfl, Option.some.inj heq⟩

theorem oneMetric_insertRoute (h : OneMetric t) (ip : IPAddress) :
    OneMetric (LinuxRouteMonitor.insertRoute ip t) := by
  unfold LinuxRouteMonitor.insertRoute
  cases routeDest ip with
  | none => exact h
  | some d =>
    intro r hr hhop
    rcases Table.mem_insert.mp hr with rfl | ⟨hr, -⟩
    · rfl
    · exact h r hr hhop

/-- Only a route to the destination goes. -/
theorem isTunneled_deleteRoute (h : OneMetric t) (ip : IPAddress) (dest : Dest) :
    IsTunneled (LinuxRouteMonitor.deleteRoute ip t) dest ↔
      IsTunneled t dest ∧ routeDest ip ≠ some dest := by
  unfold LinuxRouteMonitor.deleteRoute
  cases routeDest ip with
  | none => simp
  | some d =>
    have hkey : ∀ r : Route Dest Hop,
        decide (r.dest = d ∧ r.metric = 1 ∧ r.hop = .tunnel) = true → r.key = (d, 1) := fun r hr =>
      Prod.ext (of_decide_eq_true hr).1 (of_decide_eq_true hr).2.1
    constructor
    · rintro ⟨r, hr, hhop, hdest⟩
      obtain ⟨hr, hnot⟩ := (Table.mem_delete hkey).mp hr
      refine ⟨⟨r, hr, hhop, hdest⟩, fun heq => of_decide_eq_false hnot ?_⟩
      exact ⟨hdest.trans (Option.some.inj heq).symm, h r hr hhop, hhop⟩
    · rintro ⟨⟨r, hr, hhop, hdest⟩, hne⟩
      refine ⟨r, (Table.mem_delete hkey).mpr ⟨hr, decide_eq_false fun hd => hne ?_⟩, hhop, hdest⟩
      rw [← hd.1, hdest]

theorem oneMetric_deleteRoute (h : OneMetric t) (ip : IPAddress) :
    OneMetric (LinuxRouteMonitor.deleteRoute ip t) := by
  unfold LinuxRouteMonitor.deleteRoute
  cases routeDest ip with
  | none => exact h
  | some d => exact fun r hr => h r (Table.mem_of_mem_delete hr)

variable {r : Route Dest Hop}

/-- An exclusion route has another metric, so it takes no place of a route into the tunnel. -/
theorem tunnel_mem_addExclusionRoute (h : OneMetric t) (gateway : Option (BitVec 32))
    (ip : IPAddress) (hhop : r.hop = .tunnel) :
    r ∈ LinuxRouteMonitor.addExclusionRoute gateway ip t ↔ r ∈ t := by
  unfold LinuxRouteMonitor.addExclusionRoute
  split
  · rename_i gw d _ _
    rw [Table.mem_insert]
    constructor
    · rintro (rfl | ⟨hr, -⟩)
      · cases hhop
      · exact hr
    · intro hr
      refine .inr ⟨hr, fun hkey => ?_⟩
      have hmetric : r.metric = 0 := congrArg Prod.snd hkey
      rw [h r hr hhop] at hmetric
      exact absurd hmetric Nat.one_ne_zero
  · exact Iff.rfl

theorem tunnel_mem_deleteExclusionRoute (gateway : Option (BitVec 32)) (ip : IPAddress)
    (hhop : r.hop = .tunnel) : r ∈ LinuxRouteMonitor.deleteExclusionRoute gateway ip t ↔ r ∈ t := by
  unfold LinuxRouteMonitor.deleteExclusionRoute
  split
  · refine Table.mem_delete_of_not (decide_eq_false fun hr => ?_)
    cases hhop.symm.trans hr.2
  · exact Iff.rfl

end Tables

/-! ## The calls -/

/-- Every call succeeds. -/
def Succeeds (r : LinuxReply) : Prop := r = default

/-- The tunnel is up, with routes into it for `D` only. -/
structure Tunneled (D : Dest → Prop) (s : World) : Prop where
  running : s.env.tunnel = .Running
  monitor : s.env.monitor = true
  metric : OneMetric s.env.routes
  dests : ∀ dest, IsTunneled s.env.routes dest ↔ D dest

/-- From a tunnel with routes for `D`, if every call succeeds. -/
abbrev Leads (q : Platform) (D : Dest → Prop) {α : Type} (p : Prog LinuxCall Daemon.State α)
    (Q : α → World → Prop) : Prop :=
  Triple (exec q) Succeeds (Tunneled D) p Q

variable {D D' : Dest → Prop} {s : World} {change : IPAddress → Routes → Routes} {ip : IPAddress}
  {l : List IPAddress} {lastConfig : InterfaceConfig}

theorem Tunneled.congr (h : Tunneled D s) (hD : ∀ dest, D dest ↔ D' dest) : Tunneled D' s :=
  { h with dests := fun dest => (h.dests dest).trans (hD dest) }

/-- A change of the routes that keeps those into the tunnel. -/
theorem Tunneled.of_tunnel_mem (h : Tunneled D s) {t : Routes}
    (ht : ∀ r : Route Dest Hop, r.hop = .tunnel → (r ∈ t ↔ r ∈ s.env.routes)) :
    Tunneled D { s with env.routes := t } := by
  refine ⟨h.running, h.monitor, fun r hr hhop => h.metric r ((ht r hhop).mp hr) hhop,
    fun dest => ?_⟩
  rw [← h.dests dest]
  constructor
  · rintro ⟨r, hr, hhop, hdest⟩
    exact ⟨r, (ht r hhop).mp hr, hhop, hdest⟩
  · rintro ⟨r, hr, hhop, hdest⟩
    exact ⟨r, (ht r hhop).mpr hr, hhop, hdest⟩

/-- A netlink request that changes the routes, or not. -/
theorem tunneled_netlink {s : World} (h : Tunneled D s) (ip : IPAddress) (r : LinuxReply)
    {change : IPAddress → Routes → Routes}
    (hchange : ∀ r : Route Dest Hop, r.hop = .tunnel →
      (r ∈ change ip s.env.routes ↔ r ∈ s.env.routes)) :
    Tunneled D { s with env := (netlink ip r change s.env).2 } := by
  refine h.of_tunnel_mem fun r hhop => ?_
  split
  · exact hchange r hhop
  · exact Iff.rfl

/-- The calls that leave the routes into the tunnel alone. -/
def KeepsTunnel : LinuxCall → Prop
  | .insertRoute _ => False
  | .deleteRoute _ => False
  | c => IsQuiet c

theorem tunneled_call {c : LinuxCall} (hc : KeepsTunnel c) :
    Leads q D (perform c) fun _ => Tunneled D := by
  refine .perform fun s r _ h => ?_
  cases c with
  | addExclusionRoute ip =>
    exact tunneled_netlink h ip r fun r hhop =>
      tunnel_mem_addExclusionRoute h.metric s.env.gateway ip hhop
  | deleteExclusionRoute ip =>
    exact tunneled_netlink h ip r fun r hhop =>
      tunnel_mem_deleteExclusionRoute s.env.gateway ip hhop
  | startTunnel | waitForTunnelName | deleteInterface | applyFirewallRules | insertRoute
  | deleteRoute => exact hc.elim
  | _ => exact { h with }

theorem tunneled_stage {c : LinuxCall} (hc : KeepsTunnel c) :
    Leads q D (perform c) (Post (Tunneled D) fun _ => True) :=
  (tunneled_call hc).keep fun _ _ => trivial

/-- With the tunnel up a request is sent if the address can be, and otherwise has no effect. -/
theorem exec_tunnelNetlink (h : Tunneled D s) (ip : IPAddress)
    (hnone : routeDest ip = none → change ip s.env.routes = s.env.routes) :
    tunnelNetlink ip default change s.env =
      ((buildAllowedIp ip).isSome, { s.env with routes := change ip s.env.routes }) := by
  simp only [tunnelNetlink, h.running, if_true, netlink, h.monitor, Bool.true_and]
  cases hbuild : buildAllowedIp ip with
  | none => rw [hnone (by rw [routeDest, hbuild]; rfl)]; rfl
  | some a => rfl

/-- A route is inserted. -/
theorem tunneled_insertRoute (ip : IPAddress) :
    Leads q D (perform (.insertRoute ip)) fun b s =>
      Tunneled (fun dest => D dest ∨ routeDest ip = some dest) s ∧
        b = (buildAllowedIp ip).isSome := by
  refine .perform fun s r hr h => ?_
  obtain rfl : r = default := hr
  have hexec : exec q (.insertRoute ip) default s.env = _ :=
    exec_tunnelNetlink h ip fun hnone => by rw [LinuxRouteMonitor.insertRoute, hnone]
  rw [hexec]
  refine ⟨⟨h.running, h.monitor, oneMetric_insertRoute h.metric ip, fun dest => ?_⟩, rfl⟩
  exact (isTunneled_insertRoute ip dest).trans (or_congr_left (h.dests dest))

/-- A route is deleted. -/
theorem tunneled_deleteRoute (ip : IPAddress) :
    Leads q D (perform (.deleteRoute ip)) fun b s =>
      Tunneled (fun dest => D dest ∧ routeDest ip ≠ some dest) s ∧
        b = (buildAllowedIp ip).isSome := by
  refine .perform fun s r hr h => ?_
  obtain rfl : r = default := hr
  have hexec : exec q (.deleteRoute ip) default s.env = _ :=
    exec_tunnelNetlink h ip fun hnone => by rw [LinuxRouteMonitor.deleteRoute, hnone]
  rw [hexec]
  refine ⟨⟨h.running, h.monitor, oneMetric_deleteRoute h.metric ip, fun dest => ?_⟩, rfl⟩
  exact (isTunneled_deleteRoute h.metric ip dest).trans (and_congr_left' (h.dests dest))

/-! ## The loops -/

/-- The halves can be sent. -/
theorem isSome_of_mem_halves {half : IPAddress} (h : half ∈ halves ip) :
    (buildAllowedIp half).isSome = true := by
  obtain ⟨address, len⟩ := ip
  cases address with
  | null => cases h
  | ipv4 | ipv6 =>
    simp only [halves, mem_cons, not_mem_nil, or_false] at h
    rcases h with rfl | rfl <;> rfl

/-- Requests for ranges that can be sent all succeed. `P c` are the destinations after requests for
`c`. -/
theorem tunneled_requests {request : IPAddress → LinuxCall} {P : List Dest → Dest → Prop}
    (hl : ∀ ip ∈ l, (buildAllowedIp ip).isSome = true)
    (hround : ∀ c ip, Leads q (P c) (perform (request ip)) fun b s =>
      Tunneled (P (c ++ (routeDest ip).toList)) s ∧ b = (buildAllowedIp ip).isSome) :
    Leads q (P []) (every (fun ip => perform (request ip)) l)
      (Post (Tunneled (P (l.filterMap routeDest))) fun _ => False) := by
  rw [filterMap_eq_flatMap_toList]
  refine every_append (fun c ip hip => (hround c ip).post fun b s h => ?_) []
  obtain ⟨h, rfl⟩ := h
  rw [hl ip hip]
  exact h

theorem tunneled_insertRoutes (hl : ∀ ip ∈ l, (buildAllowedIp ip).isSome = true) :
    Leads q D (every (fun ip => perform (.insertRoute ip)) l)
      (Post (Tunneled fun dest => D dest ∨ dest ∈ l.filterMap routeDest) fun _ => False) := by
  refine (tunneled_requests (P := fun c dest => D dest ∨ dest ∈ c) hl fun c ip => ?_).pre
    fun _ h => h.congr fun dest => by simp
  refine (tunneled_insertRoute ip).post fun b s h => ⟨h.1.congr fun dest => ?_, h.2⟩
  rw [mem_append, Option.mem_toList, or_assoc]

theorem tunneled_deleteRoutes (hl : ∀ ip ∈ l, (buildAllowedIp ip).isSome = true) :
    Leads q D (every (fun ip => perform (.deleteRoute ip)) l)
      (Post (Tunneled fun dest => D dest ∧ dest ∉ l.filterMap routeDest) fun _ => False) := by
  refine (tunneled_requests (P := fun c dest => D dest ∧ dest ∉ c) hl fun c ip => ?_).pre
    fun _ h => h.congr fun dest => by simp
  refine (tunneled_deleteRoute ip).post fun b s h => ⟨h.1.congr fun dest => ?_, h.2⟩
  rw [mem_append, Option.mem_toList, not_or, and_assoc]

theorem tunneled_updateRoutePrefix (ip : IPAddress) :
    Leads q D (updateRoutePrefix ip)
      (Post (Tunneled fun dest => D dest ∨ dest ∈ prefixDests ip) fun _ => ¬Routable ip) := by
  unfold prefixDests pieces
  refine .ite (fun hlen => ?_) fun hlen => .ite (fun hnull => ?_) fun hnull => ?_
  · refine (tunneled_insertRoute ip).post fun b s h => ?_
    obtain ⟨h, hb⟩ := h
    cases b with
    | true => exact h.congr fun dest => by simp [hlen, eq_comm]
    | false =>
      intro hroutable
      rw [Routable, if_pos hlen, ← hb] at hroutable
      cases hroutable
  · refine .return fun _ _ hroutable => ?_
    rw [Routable, if_neg hlen] at hroutable
    exact hroutable hnull
  · exact (tunneled_insertRoutes fun _ h => isSome_of_mem_halves h).mono
      (fun _ h => h.congr fun dest => by simp [hlen]) fun _ h => False.elim h

/-- What `deleteRoutePrefix` does to the destinations. -/
def retractOne (ip : IPAddress) (D : Dest → Prop) (dest : Dest) : Prop :=
  if ip.prefixLength > 0 then D dest ∨ dest ∈ prefixDests ip else D dest ∧ dest ∉ prefixDests ip

theorem tunneled_deleteRoutePrefix (ip : IPAddress) :
    Leads q D (deleteRoutePrefix ip)
      fun _ => Tunneled (retractOne ip D) := by
  unfold retractOne prefixDests pieces
  refine .ite (fun hlen => ?_) fun hlen => .ite (fun hnull => ?_) fun hnull => ?_
  · exact (tunneled_insertRoute ip).post fun b s h => h.1.congr fun dest => by
      simp [hlen, eq_comm]
  · exact .return fun _ h => h.congr fun dest => by simp [hlen, halves, hnull]
  · refine (tunneled_deleteRoutes fun _ h => isSome_of_mem_halves h).post fun b s h => ?_
    cases b with
    | true => exact Tunneled.congr h fun dest => by simp [hlen]
    | false => exact False.elim h

theorem tunneled_updateRoutePrefixes (l : List IPAddress) :
    Leads q D (every updateRoutePrefix l)
      (Post (Tunneled fun dest => D dest ∨ dest ∈ l.flatMap prefixDests)
        fun _ => ∃ ip ∈ l, ¬Routable ip) := by
  refine (every_append (J := fun c => Tunneled fun dest => D dest ∨ dest ∈ c)
    (fun c ip hip => ?_) []).pre fun _ h => h.congr fun dest => by simp
  refine (tunneled_updateRoutePrefix ip).mono (fun _ h => h.congr fun dest => ?_)
    fun _ h => ⟨ip, hip, h⟩
  rw [mem_append, or_assoc]

/-- What the loop over old ranges does to the destinations. -/
def retract (l : List IPAddress) (D : Dest → Prop) : Dest → Prop :=
  l.foldl (fun D ip => retractOne ip D) D

theorem tunneled_deleteRoutePrefixes (l : List IPAddress) :
    Leads q D (each deleteRoutePrefix l)
      fun _ => Tunneled (retract l D) :=
  .each_foldl _ (fun _ ip _ => tunneled_deleteRoutePrefix ip) D

theorem tunneled_excludeLocalNetworks (l : List IPAddress) :
    Leads q D (excludeLocalNetworks l)
      fun _ => Tunneled fun dest => D dest ∨ dest ∈ l.filterMap routeDest := by
  induction l generalizing D with
  | nil => exact .return fun _ h => h.congr fun dest => by simp
  | cons ip l ih =>
    refine .bind (M := fun _ => Tunneled fun dest => D dest ∨ routeDest ip = some dest)
      ((tunneled_insertRoute ip).post fun _ _ h => h.1) fun _ => ?_
    refine .bind ih fun _ => .return fun s h => h.congr fun dest => ?_
    simp only [mem_filterMap, mem_cons, exists_eq_or_imp, or_assoc]

/-! ## The requests -/

/-- The interface has come up, and the routes are what they were. -/
structure CameUp (s t : World) : Prop where
  vars : t.vars = s.vars
  tunnel : t.env.tunnel = .Running
  monitor : t.env.monitor = true
  routes : t.env.routes = s.env.routes
  gateway : t.env.gateway = s.env.gateway

theorem cameUp_ensureInterface {R : LinuxReply → Prop} (hdown : s.env.tunnel ≠ .Running) :
    Triple (exec q) R (· = s) (ensureInterface (utils q) config)
      (Post (CameUp s) fun _ => True) := by
  refine ensureInterface_rule (M := fun b t => t = s ∧ b = false)
    (.perform fun t _ _ ht => ⟨ht, decide_eq_false (ht ▸ hdown)⟩) (fun _ ht => nomatch ht.2)
    (.stage (M := (· = started s)) (.perform fun t r _ ht => ?_)
      (.stage (M := CameUp s) (.perform fun t r _ ht => ?_) ?_))
  · obtain ⟨rfl, -⟩ := ht
    simp only [exec]
    split
    · trivial
    · split
      · rfl
      · trivial
  · obtain rfl : t = started s := ht
    simp only [exec]
    split
    · exact ⟨rfl, rfl, rfl, rfl, rfl⟩
    · trivial
  · -- the device and the firewall are not among what is looked at
    refine .stage (M := CameUp s) (.keep (.perform fun t _ _ h => ?_) ?_)
      (.ite (fun _ => .keep (.perform fun t _ _ h => ?_) ?_) fun _ => .skip)
    all_goals first | exact { h with } | exact fun _ _ => trivial

/-- An interface that has come up has no routes into it. -/
theorem CameUp.tunneled {t : World} (h : CameUp s t)
    (hroutes : ∀ r ∈ s.env.routes, r.hop ≠ .tunnel) : Tunneled (fun _ => False) t := by
  refine ⟨h.tunnel, h.monitor, fun r hr hhop => ?_, fun dest => ⟨?_, False.elim⟩⟩
  · exact absurd hhop (hroutes r (h.routes ▸ hr))
  · rintro ⟨r, hr, hhop, -⟩
    exact hroutes r (h.routes ▸ hr) hhop

theorem tunneled_addExclusionRoutes (l : List IPAddress) :
    Leads q D (each (addExclusionRoute (utils q)) l)
      fun _ => Tunneled D := by
  refine .each fun ip _ => addExclusionRoute_rule (M := Tunneled D) (fun _ h _ => { h with })
    ?_ fun _ h => { h with }
  exact .pre ((tunneled_call (c := .addExclusionRoute ip) trivial).keep fun _ h => h)
    fun _ h => h.1

theorem tunneled_delExclusionRoutes (l : List IPAddress) :
    Leads q D (each (delExclusionRoute (utils q)) l)
      fun _ => Tunneled D := by
  refine .each fun ip _ => ?_
  exact delExclusionRoute_rule (fun l => .perform fun _ _ _ h => h) (fun _ h _ => { h with })
    (fun _ h _ => { h with }) (tunneled_call (c := .deleteExclusionRoute ip) trivial)

theorem tunneled_updatePeer : Leads q D (updatePeer q config) fun _ => Tunneled D :=
  (Triple.each fun ip _ => tunneled_call (c := .addExclusionRoute ip) trivial).bind fun _ =>
    tunneled_call (c := .uapiCommand (updatePeerMessage config)) isQuiet_updatePeer

theorem tunneled_deletePeer : Leads q D (deletePeer q config) fun _ => Tunneled D :=
  (Triple.each fun ip _ => tunneled_call (c := .deleteExclusionRoute ip) trivial).bind fun _ =>
    tunneled_call (c := .uapiCommand (deletePeerMessage config)) isQuiet_deletePeer

theorem tunneled_maybeUpdateResolvers :
    Leads q D (maybeUpdateResolvers (utils q) q config) fun _ =>
      Tunneled D :=
  .ite (fun _ => tunneled_call (c := .updateResolvers (resolvers q config)) trivial)
    fun _ => .skip

/-- The routes of a first activation. -/
theorem tunneled_first (host : LinuxHost) :
    Triple (exec q) Succeeds (· = boot host) (activate (utils q) q config)
      (Post (fun s => Tunneled (fun dest => dest ∈ lanDests config ∨ dest ∈ rangeDests config) s ∧
        s.vars.connections config.hopType = some config) fun _ => True) := by
  have hexclude : Leads q (fun _ => False)
      (excludeRoutes (utils q) q config) fun _ => Tunneled fun dest => dest ∈ lanDests config := by
    refine (tunneled_addExclusionRoutes _).bind fun _ => .ignore ?_
    unfold lanDests
    refine .ite (fun hlan => .return fun _ h => ?_) fun hlan => ?_
    · exact h.congr fun dest => by simp [hlan]
    · refine (tunneled_excludeLocalNetworks _).post fun _ _ h => ?_
      exact h.congr fun dest => by simp [hlan]
  have hioctl : ∀ D : Dest → Prop, Leads q D
      (perform .interfaceIoctl) (Post (Tunneled D) fun _ => True) := fun D => tunneled_stage trivial
  refine activate_rule ?_ (fun lastConfig _ => ?_) (fun lastConfig _ => ?_) .skip
  · refine .pre (bringUp_stages ?_ (configure_rule (hioctl _) (hioctl _) hexclude
      (tunneled_updatePeer.keep fun _ _ => trivial)
      (tunneled_maybeUpdateResolvers.keep fun _ _ => trivial)
      ((tunneled_updateRoutePrefixes _).mono (fun _ h => h) fun _ _ => trivial)
      .skip fun s h => ⟨{ h with }, Function.update_self ..⟩)) fun s hs => hs.1
    exact (cameUp_ensureInterface fun h => ProcessState.noConfusion h).mono
      (fun _ h => h.tunneled host.untunneled) fun _ _ => trivial
  · rintro s b t ⟨rfl, hsome⟩
    cases hsome
  · rintro s b t ⟨rfl, hsome⟩
    cases hsome

theorem tunneled_serve_first {host : LinuxHost}
    (hup : (serve q (boot host) (.activate config, [])).1 = true) :
    Tunneled (fun dest => dest ∈ lanDests config ∨ dest ∈ rangeDests config)
        (serve q (boot host) (.activate config, [])).2 ∧
      (serve q (boot host) (.activate config, [])).2.vars.connections config.hopType =
        some config := by
  have hfirst : Triple (exec q) Succeeds (· = boot host) (activate (utils q) q config) _ :=
    tunneled_first host
  exact (triple_run hfirst rfl [] (fun _ h => nomatch h) _ rfl).of_true hup

/-- The old ranges that a switch takes back. -/
def dropped (lastConfig config : InterfaceConfig) : List IPAddress :=
  lastConfig.allowedIPAddressRanges.filter (· ∉ config.allowedIPAddressRanges)

/-- The routes after a switch. -/
theorem tunneled_switch (hroutable : ∀ ip ∈ config.allowedIPAddressRanges, Routable ip)
    (hsupport : supportServerSwitching lastConfig config = true) :
    Triple (exec q) Succeeds
      (fun s => Tunneled D s ∧ s.vars.connections config.hopType = some lastConfig)
      (activate (utils q) q config)
      (Post (Tunneled (retract (dropped lastConfig config) fun dest =>
        D dest ∨ dest ∈ rangeDests config)) fun _ => True) := by
  have hroutes : Leads q D
      (every updateRoutePrefix config.allowedIPAddressRanges)
      fun _ => Tunneled fun dest => D dest ∨ dest ∈ rangeDests config :=
    (tunneled_updateRoutePrefixes _).post fun b s h => by
      cases b with
      | true => exact h
      | false =>
        obtain ⟨ip, hip, hnot⟩ := h
        exact absurd (hroutable ip hip) hnot
  -- the hop is connected with the old configuration
  refine activate_rule ?_ (fun current _ => ?_) (fun current hnot => ?_) .skip
  · rintro s b t ⟨⟨-, hsome⟩, hnone⟩
    cases hnone.symm.trans hsome
  · rintro s b t ⟨⟨h, hsome⟩, hcurrent⟩
    obtain rfl : lastConfig = current := Option.some.inj (hsome.symm.trans hcurrent)
    refine switchTo_rule (switchServer_rule (tunneled_addExclusionRoutes _)
      (tunneled_updatePeer.keep fun _ _ => trivial) hroutes (tunneled_delExclusionRoutes _)
      (tunneled_deleteRoutePrefixes _)
      (removeLast_rule (fun _ => tunneled_deletePeer.keep fun _ _ => trivial) fun _ _ h => h)
      fun _ h => { h with }) (tunneled_stage (c := .restoreResolvers) trivial)
      (tunneled_maybeUpdateResolvers.keep fun _ _ => trivial) .skip (fun _ h => { h with })
      s b t h
  · rintro s b t ⟨⟨-, hsome⟩, hcurrent⟩
    obtain rfl : lastConfig = current := Option.some.inj (hsome.symm.trans hcurrent)
    cases hsupport.symm.trans hnot

/-! ## What is left -/

/-- The last range of a list that has the destination: whether it inserts it. -/
def lastTouch : List IPAddress → Dest → Option Bool
  | [], _ => none
  | ip :: l, dest =>
      (lastTouch l dest).or
        (if dest ∈ prefixDests ip then some (decide (ip.prefixLength > 0)) else none)

/-- The last range that touches a destination decides. -/
theorem retract_iff (l : List IPAddress) (D : Dest → Prop) (dest : Dest) :
    retract l D dest ↔ lastTouch l dest = some true ∨ lastTouch l dest = none ∧ D dest := by
  unfold retract
  induction l generalizing D with
  | nil => simp [lastTouch]
  | cons ip l ih =>
    rw [foldl_cons, ih, lastTouch]
    cases hlast : lastTouch l dest with
    | some touch => simp
    | none =>
      unfold retractOne
      by_cases hmem : dest ∈ prefixDests ip <;> by_cases hlen : ip.prefixLength > 0 <;>
        simp [hmem, hlen]

/-- A switch takes back what it should, with routes into the tunnel for `D` before: no route of the
new ranges is deleted with a default range of the old ones, no old range is inserted again, and
every other route is deleted. -/
structure Retracted (D : Dest → Prop) (lastConfig config : InterfaceConfig) : Prop where
  kept : ∀ dest ∈ rangeDests config, lastTouch (dropped lastConfig config) dest ≠ some false
  inserted : ∀ dest, lastTouch (dropped lastConfig config) dest = some true →
    dest ∈ rangeDests config
  gone : ∀ dest, D dest →
    dest ∈ rangeDests config ∨ lastTouch (dropped lastConfig config) dest = some false

theorem retract_eq_iff :
    (∀ dest, retract (dropped lastConfig config)
      (fun dest => D dest ∨ dest ∈ rangeDests config) dest ↔ dest ∈ rangeDests config) ↔
      Retracted D lastConfig config := by
  constructor
  · intro h
    have hinserted : ∀ dest, lastTouch (dropped lastConfig config) dest = some true →
        dest ∈ rangeDests config := fun dest hlast =>
      (h dest).mp ((retract_iff ..).mpr (.inl hlast))
    refine ⟨fun dest hdest hlast => ?_, hinserted, fun dest hdest => ?_⟩
    · rcases (retract_iff ..).mp ((h dest).mpr hdest) with htrue | ⟨hnone, -⟩
      · rw [hlast] at htrue
        cases Option.some.inj htrue
      · rw [hlast] at hnone
        cases hnone
    · cases hlast : lastTouch (dropped lastConfig config) dest with
      | none => exact .inl ((h dest).mp ((retract_iff ..).mpr (.inr ⟨hlast, .inl hdest⟩)))
      | some b =>
        cases b with
        | true => exact .inl (hinserted dest hlast)
        | false => exact .inr rfl
  · intro h dest
    rw [retract_iff]
    constructor
    · rintro (htrue | ⟨hnone, hold | hnew⟩)
      · exact h.inserted dest htrue
      · refine (h.gone dest hold).resolve_right fun hfalse => ?_
        cases hnone.symm.trans hfalse
      · exact hnew
    · intro hdest
      cases hlast : lastTouch (dropped lastConfig config) dest with
      | none => exact .inr ⟨rfl, .inr hdest⟩
      | some b =>
        cases b with
        | true => exact .inl rfl
        | false => exact absurd hlast (h.kept dest hdest)

/-- A range that installs a route is one that can be sent. -/
theorem routable_of_mem {dest : Dest} (h : dest ∈ prefixDests ip) : Routable ip := by
  unfold prefixDests pieces at h
  unfold Routable
  split
  · rename_i hlen
    rw [if_pos hlen, filterMap_cons, filterMap_nil] at h
    cases hbuild : buildAllowedIp ip with
    | none => simp [routeDest, hbuild] at h
    | some a => rfl
  · rename_i hlen
    intro hnull
    rw [if_neg hlen] at h
    simp [halves, hnull] at h

/-- A range and the way back, with the tunnel up. -/
theorem tunneled_update_delete (hroutable : Routable ip) :
    Leads q D
      (do
        discard (updateRoutePrefix ip)
        deleteRoutePrefix ip)
      fun _ => Tunneled (retractOne ip fun dest => D dest ∨ dest ∈ prefixDests ip) := by
  refine .ignore_bind ((tunneled_updateRoutePrefix ip).post fun b s h => ?_)
    (tunneled_deleteRoutePrefix ip)
  cases b with
  | true => exact h
  | false => exact absurd hroutable h

/-- The tunnel is up with the last configuration and switches to another one, and every call
succeeds: the routes into the tunnel are those of the new ranges exactly if the switch takes back
what it should. A single range is taken back exactly if it is a default one, or installs nothing. -/
theorem switch_routes_iff {s : World} {lastConfig config : InterfaceConfig}
    (hup : Tunneled D s) (hconnected : s.vars.connections config.hopType = some lastConfig)
    (hsupport : supportServerSwitching lastConfig config = true)
    (hroutable : ∀ ip ∈ config.allowedIPAddressRanges, Routable ip)
    (hswitch : (serve q s (.activate config, [])).1 = true) :
    ((∀ dest, IsTunneled (serve q s (.activate config, [])).2.env.routes dest ↔
        dest ∈ rangeDests config) ↔ Retracted D lastConfig config) ∧
    ∀ ip, (∀ dest ∈ prefixDests ip, ¬IsTunneled (Prog.run (exec q) (do
          discard (updateRoutePrefix ip)
          deleteRoutePrefix ip) [] s).2.2.env.routes dest) ↔
      ip.prefixLength ≤ 0 ∨ prefixDests ip = [] := by
  have hnil : ∀ r ∈ ([] : List LinuxReply), Succeeds r := fun _ h => nomatch h
  refine ⟨?_, fun ip => ?_⟩
  · have hpost := (triple_run (tunneled_switch (q := q) hroutable hsupport) rfl [] hnil s
      ⟨hup, hconnected⟩).of_true hswitch
    rw [← retract_eq_iff]
    exact forall_congr' fun dest => iff_congr (hpost.dests dest) Iff.rfl
  · cases hdests : prefixDests ip with
    | nil => simp
    | cons dest l =>
      have hmem : dest ∈ prefixDests ip := hdests ▸ mem_cons_self
      have hpost := triple_run (tunneled_update_delete (q := q) (routable_of_mem hmem)) rfl [] hnil
        s hup
      rw [← hdests]
      constructor
      · intro h
        by_contra hnot
        have hlen : ip.prefixLength > 0 := not_le.mp fun hlen => hnot (.inl hlen)
        -- a range with a length is inserted once more
        refine h dest hmem ((hpost.dests dest).mpr ?_)
        rw [retractOne, if_pos hlen]
        exact .inr hmem
      · rintro (hlen | hnone) dest' hdest' hroute
        · have hleft := (hpost.dests dest').mp hroute
          rw [retractOne, if_neg (not_lt.mpr hlen)] at hleft
          exact hleft.2 hdest'
        · rw [hnone] at hdest'
          cases hdest'

/-- A tunnel for the given ranges, with the local network in it. -/
def rangeConfig (allowedIPAddressRanges : List IPAddress) : InterfaceConfig :=
  { blankConfig with allowedIPAddressRanges, routeLanThroughVpn := true }

/-- From a full tunnel to a range. -/
theorem switch_routes_sample :
    IsTunneled (serve .plain (serve .plain (boot bareHost) (.activate (rangeConfig [.any4]), [])).2
      (.activate (rangeConfig [⟨.ipv4 0x08080000#32, 16⟩]), [])).2.env.routes
      ⟨⟨.v4 0x08080000#32, 16, by decide⟩, rfl⟩ := by
  have hup : (serve .plain (boot bareHost) (.activate (rangeConfig [.any4]), [])).1 = true := by
    decide +kernel
  obtain ⟨htunneled, hlast⟩ := tunneled_serve_first hup
  -- both halves of the default range are deleted
  have hhalves : ∀ dest ∈ rangeDests (rangeConfig [.any4]),
      lastTouch (dropped (rangeConfig [.any4]) (rangeConfig [⟨.ipv4 0x08080000#32, 16⟩])) dest =
        some false := by decide +kernel
  refine ((switch_routes_iff htunneled (by exact hlast) rfl (fun ip hip => ?_) ?_).1.mpr
    ⟨by decide +kernel, fun dest h => ?_, fun dest h => ?_⟩ _).mpr ?_
  · rw [mem_singleton.mp hip]
    rfl
  · decide +kernel
  · rw [show dropped (rangeConfig [.any4]) (rangeConfig [⟨.ipv4 0x08080000#32, 16⟩]) = [.any4] by
      decide +kernel, lastTouch, lastTouch, Option.none_or] at h
    split at h
    · cases Option.some.inj h
    · cases h
  · exact .inr (hhalves dest (h.resolve_left not_mem_nil))
  · decide +kernel

/-- The route of an old range stays. -/
theorem switch_routes_stale :
    ¬∀ dest, IsTunneled (serve .plain (serve .plain (boot bareHost)
        (.activate (rangeConfig [⟨.ipv4 0x09090000#32, 16⟩]), [])).2
        (.activate (rangeConfig [⟨.ipv4 0x08080000#32, 16⟩]), [])).2.env.routes dest ↔
      dest ∈ rangeDests (rangeConfig [⟨.ipv4 0x08080000#32, 16⟩]) := by
  intro h
  have hold := (h ⟨⟨.v4 0x09090000#32, 16, by decide⟩, rfl⟩).mp
    ⟨tunnelRoute _, show _ ∈ (_ : Routes).routes by decide +kernel, rfl, rfl⟩
  revert hold
  decide +kernel

end Dopamine.Linux.LinuxUtils
