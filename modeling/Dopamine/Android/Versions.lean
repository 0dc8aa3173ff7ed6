import Dopamine.Android.SplitTunneling

/-!
# Older and newer versions of Android

Older versions of Android get a plain list of subnets, newer ones get included and excluded routes.
If no excluded network contains an included one, both route the same addresses into the tunnel
(`old_covers_iff_tunneled`).
-/

namespace Dopamine.Android

open InetNetwork Fallible List

variable {android : Device}

/-- No excluded network contains an included one or is equal to it. -/
def Separate (routes : List Route) : Prop :=
  ∀ e ∈ routes, e.included = false → ∀ i ∈ routes, i.included = true →
    ¬(e.inetNetwork.mask ≤ i.inetNetwork.mask ∧ e.inetNetwork.covers i.inetNetwork.address.ip = true)

/-- If no excluded network contains an included one, an address goes into the tunnel exactly if an
included network covers it and no excluded one does. -/
theorem tunneled_iff_of_separate {sdk : ℕ} {included excluded : List InetNetwork}
    {table : VpnTable} (hsdk : excluded = [] ∨ tiramisu ≤ sdk)
    (h : android.buildVpnInterface sdk (includeAll included ++ excludeAll excluded) = .ok table)
    (hseparate : Separate (includeAll included ++ excludeAll excluded)) {d : IpAddress} :
    Tunneled table d ↔ d ∈ coverOf included \ coverOf excluded := by
  obtain ⟨hincluded, hexcluded, -⟩ := (buildVpnInterface_iff android hsdk).mp h
  rw [tunneled_iff android hsdk h, Set.mem_sdiff, mem_coverOf]
  constructor
  · rintro ⟨i, hi, hcovers, hlonger⟩
    refine ⟨⟨i, hi, hcovers⟩, fun ⟨e, he, hecovers⟩ => ?_⟩
    have hlt := hlonger e he hecovers
    have hmask := android.mask_of_excludeRoute e (hexcluded e he)
    have hmask' := android.mask_of_addRoute i (hincluded i hi)
    refine hseparate ⟨e, false⟩ (mem_append_right _ (mem_excludeAll.mpr ⟨rfl, he⟩)) rfl
      ⟨i, true⟩ (mem_append_left _ (mem_includeAll.mpr ⟨rfl, hi⟩)) rfl ⟨?_, ?_⟩
    · show e.mask ≤ i.mask
      omega
    · exact covers_of_mask_le hecovers hcovers hlt.le (covers_self i)
  · rintro ⟨⟨i, hi, hcovers⟩, hnone⟩
    exact ⟨i, hi, hcovers, fun e he hecovers => absurd ⟨e, he, hecovers⟩ hnone⟩

/-- For every config, if the excluded networks of its routes do not contain an included one: the
routes for versions of Android below 13 are included ones, and outside of `127.0.0.0/8` and `::1`
they cover exactly the addresses that go into the tunnel on newer versions. -/
theorem old_covers_iff_tunneled (android : Device) {config : Config} {old new : ℕ}
    {oldRoutes newRoutes : List Route} {table : VpnTable} (hold : old < tiramisu)
    (hnew : tiramisu ≤ new) (holdRoutes : android.parseConfig old config = .ok oldRoutes)
    (hnewRoutes : android.parseConfig new config = .ok newRoutes)
    (htable : android.buildVpnInterface new newRoutes = .ok table)
    (hseparate : Separate newRoutes) :
    (∀ r ∈ oldRoutes, r.included = true) ∧
      ∀ d, ¬loopback4.covers d = true → ¬loopback6.covers d = true →
        ((∃ r ∈ oldRoutes, r.inetNetwork.covers d = true) ↔ Tunneled table d) := by
  obtain ⟨b, own, b', own', hb, hconfigured, hb', hexcluding, hbuild⟩ := parseConfig_spec hnewRoutes
  have hbuild' : b'.configBuild android old = .ok oldRoutes := by
    obtain ⟨b₁, hb₁, holdRoutes⟩ := bind_eq_ok.mp holdRoutes
    obtain rfl : b = b₁ := Except.ok.inj (hb.symm.trans hb₁)
    obtain ⟨b₂, hb₂, holdRoutes⟩ := bind_eq_ok.mp holdRoutes
    obtain rfl : b' = b₂ := Except.ok.inj (hb'.symm.trans hb₂)
    exact holdRoutes
  have hconfigured' := hexcluding.configured hconfigured
  obtain ⟨base, hbase, hiff⟩ := configBuild_iff android hconfigured'
  obtain ⟨hprocess, -⟩ := hiff.mp hbuild
  obtain ⟨hprocess', -⟩ := hiff.mp hbuild'
  obtain rfl := Except.ok.inj (hprocess.symm.trans (processRoutes_eq hbase (.inr hnew)))
  have htunneled := fun d => tunneled_iff_of_separate (d := d) (.inr hnew) htable hseparate
  have hcover : ∀ {l : List InetNetwork} {d : IpAddress},
      (∃ r ∈ includeAll l, r.inetNetwork.covers d = true) ↔ d ∈ coverOf l := by
    intro l d
    rw [mem_coverOf]
    constructor
    · rintro ⟨r, hr, hd⟩
      exact ⟨_, (mem_includeAll.mp hr).2, hd⟩
    · rintro ⟨n, hn, hd⟩
      exact ⟨⟨n, true⟩, mem_includeAll.mpr ⟨rfl, hn⟩, hd⟩
  by_cases hexcluded : b'.excludedAddresses = []
  · -- both versions have the same routes
    rw [hexcluded, hashOrder_nil] at hbase hseparate htunneled htable
    obtain rfl := Except.ok.inj (hprocess'.symm.trans (processRoutes_eq hbase (.inl rfl)))
    rw [show excludeAll [] = [] from rfl, append_nil] at *
    refine ⟨fun r hr => (mem_includeAll.mp hr).1, fun d _ _ => ?_⟩
    rw [htunneled, coverOf_nil, Set.sdiff_empty, hcover]
  · -- the default routes without the excluded networks
    have hscope : kept (scope android b' own') = scope android b' own' :=
      kept_scope hconfigured' hexcluded
    obtain ⟨l, rfl, hl, -⟩ := old_routes hconfigured' hbase hold hexcluded hprocess'
    refine ⟨fun r hr => (mem_includeAll.mp hr).1, fun d h4 h6 => ?_⟩
    have hexcl : d ∈ coverOf (b'.excludedAddresses ++ [loopback4, loopback6]) ↔
        d ∈ coverOf b'.excludedAddresses := by
      simp [mem_coverOf, or_and_right, exists_or, h4, h6]
    rw [htunneled, hcover, hl, hscope, Set.mem_sdiff, Set.mem_sdiff, hexcl,
      coverOf_perm (android.hashOrder_perm _)]

/-- A system that takes every network with a prefix length of its family. -/
def plainAndroid : Device where
  getByName host :=
    if host = "0.0.0.0" then some (ipv4 0 0 0 0)
    else if host = "10.8.0.2" then some (ipv4 10 8 0 2)
    else if host = "192.168.0.0" then some (ipv4 192 168 0 0)
    else if host = "192.168.1.0" then some (ipv4 192 168 1 0)
    else none
  toInt text :=
    if text = "0" then some 0 else if text = "16" then some 16 else if text = "24" then some 24
    else none
  trim := id
  hashOrder := id
  hashOrder_perm := List.Perm.refl
  addRoute n := decide (0 ≤ n.mask ∧ n.mask ≤ n.address.ip.maxMask)
  excludeRoute n := decide (0 ≤ n.mask ∧ n.mask ≤ n.address.ip.maxMask)
  mask_of_addRoute _ h := of_decide_eq_true h
  mask_of_excludeRoute _ h := of_decide_eq_true h
  addRoute_of_first _ h h' _ _ := decide_eq_true ⟨h, h'⟩

/-- A config for all IPv4 addresses but those of the local network. -/
def lanConfig : Config where
  clientIp := "10.8.0.2"
  allowedIps := ["0.0.0.0/0"]
  mtu := none
  splitTunnelType := 0
  splitTunnelIncludeSites := none
  splitTunnelExcludeSites := none
  splitTunnelSites := none
  localSubnetExclusions := some ["192.168.0.0/16"]
  other := .ok ()

/-- The local network of `lanConfig`. -/
def lan : InetNetwork := ⟨ipv4 192 168 0 0, 16⟩

/-- The routes of `lanConfig`. -/
theorem parseConfig_lan :
    plainAndroid.parseConfig 33 lanConfig = .ok [⟨default4, true⟩, ⟨lan, false⟩] := by
  rfl

/-- The builder of `lanConfig`. -/
def lanBuilder : Builder where
  addresses := [⟨ipv4 10 8 0 2, 32⟩]
  routes := includeAll [default4]
  includedAddresses := []
  excludedAddresses := [lan]
  allowSplitTunneling := true
  mtu := 1280

theorem configured_lan : Configured lanBuilder [default4] where
  routes_eq := rfl
  own_nodup := nodup_singleton _
  default_of_allow _ _ h := .inl (mem_singleton.mp h)
  included_nodup := nodup_nil
  excluded_nodup := nodup_singleton _
  exclusive := .inl rfl
  prohibited h := nomatch h

/-- The routes of `lanConfig` for older versions of Android. -/
theorem exists_parseConfig_lan : ∃ routes, plainAndroid.parseConfig 32 lanConfig = .ok routes := by
  have hparse : ∀ sdk, plainAndroid.parseConfig sdk lanConfig =
      lanBuilder.configBuild plainAndroid sdk := fun _ => rfl
  obtain ⟨base, hbase, hiff⟩ := configBuild_iff plainAndroid configured_lan
  obtain ⟨out, hout⟩ := exists_processRoutes 32 hbase (by decide) (by decide)
  refine ⟨out, (hparse 32).trans (hiff.mpr ⟨hout, by decide, ?_, by decide⟩)⟩
  -- `8.8.8.8` is not excluded
  obtain ⟨l, rfl, hl, -⟩ := old_routes configured_lan hbase (by decide) (by decide) hout
  have hmem : (ipv4 8 8 8 8).ip ∈ coverOf l := by
    rw [hl]
    exact ⟨⟨default4, by decide, by decide⟩, fun ⟨n, hn, h⟩ => by revert n; decide⟩
  obtain ⟨n, hn, -⟩ := hmem
  have hroute : (⟨n, true⟩ : Route) ∈ includeAll l := mem_includeAll.mpr ⟨rfl, hn⟩
  exact ne_nil_of_mem hroute

/-- With the local network excluded, the routes for older versions of Android cover what goes into
the tunnel on newer ones. -/
theorem old_covers_iff_tunneled_lan :
    ∃ oldRoutes newRoutes table, plainAndroid.parseConfig 32 lanConfig = .ok oldRoutes ∧
      plainAndroid.parseConfig 33 lanConfig = .ok newRoutes ∧
      plainAndroid.buildVpnInterface 33 newRoutes = .ok table ∧ Separate newRoutes ∧
      (∀ r ∈ oldRoutes, r.included = true) ∧
      ∀ d, ¬loopback4.covers d = true → ¬loopback6.covers d = true →
        ((∃ r ∈ oldRoutes, r.inetNetwork.covers d = true) ↔ Tunneled table d) := by
  obtain ⟨oldRoutes, hold⟩ := exists_parseConfig_lan
  have hseparate : Separate [⟨default4, true⟩, ⟨lan, false⟩] := by
    unfold Separate
    decide
  exact ⟨oldRoutes, _, _, hold, parseConfig_lan, rfl, hseparate,
    old_covers_iff_tunneled plainAndroid (by decide) (by decide) hold parseConfig_lan rfl hseparate⟩

end Dopamine.Android
