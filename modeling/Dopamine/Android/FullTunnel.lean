import Dopamine.Android.LocalSubnets

/-!
# Split tunneling in a full tunnel

A config for all IPv4 addresses without local subnet exclusions: which IPv4 addresses go into the
tunnel follows from its split tunneling alone (`tunneled_all`, `tunneled_only`, `tunneled_except`).
-/

namespace Dopamine.Android

open InetNetwork List Bool Fallible Except

variable {android : Device} {sdk : ℕ} {config : Config} {table : VpnTable} {d : IpAddress}

/-- The routes for some networks, for IPv4 addresses. -/
theorem mem_coverOf_kept_replaced {l : List InetNetwork} (hd : d.size = 4) :
    d ∈ coverOf (kept (replaced l)) ↔ ∃ n ∈ l, ¬isLoopback n = true ∧ n.covers d = true := by
  have hsize : d.size ≠ 16 := fun h => absurd (hd.symm.trans h) (by decide)
  constructor
  · rintro ⟨n, hn, hcovers⟩
    obtain ⟨hreplaced, hloopback⟩ := mem_kept.mp hn
    rcases mem_replaced.mp hreplaced with ⟨hn, -⟩ | ⟨rfl, -⟩
    · exact ⟨n, hn, hloopback, hcovers⟩
    · exact absurd (global6_covers.mp hcovers).1 hsize
  · rintro ⟨n, hn, hloopback, hcovers⟩
    refine ⟨n, mem_kept.mpr ⟨mem_replaced.mpr (.inl ⟨hn, ?_⟩), hloopback⟩, hcovers⟩
    rintro rfl
    exact hsize (default6_covers.mp hcovers)

/-- The networks of the config are default routes, that of IPv4 among them. -/
structure FullTunnel (android : Device) (config : Config) : Prop where
  isDefault : ∀ ip ∈ config.allowedIps, android.parse (android.trim ip) = .ok default4 ∨
    android.parse (android.trim ip) = .ok default6
  ipv4 : ∃ ip ∈ config.allowedIps, android.parse (android.trim ip) = .ok default4

theorem configWireguard_full (hfull : FullTunnel android config) {b : Builder}
    (h : android.configWireguard config = .ok b) :
    ∃ own, Configured b own ∧ b.includedAddresses = [] ∧ b.excludedAddresses = [] ∧
      b.allowSplitTunneling = true ∧ default4 ∈ own := by
  obtain ⟨own, hconfigured, hincluded, hexcluded⟩ := configWireguard_spec h
  obtain ⟨addresses, -, h⟩ := bind_eq_ok.mp h
  obtain ⟨allowed, hallowed, h⟩ := bind_eq_ok.mp h
  obtain ⟨mtu, -, h⟩ := bind_eq_ok.mp h
  obtain ⟨_, -, h⟩ := bind_eq_ok.mp h
  obtain rfl := ok.inj h
  refine ⟨own, hconfigured, hincluded, hexcluded, ?_, ?_⟩
  · refine all_eq_true.mpr fun n hn => ?_
    obtain ⟨ip, hip, hn⟩ := (mem_of_mapM hallowed).mp
      ((mem_addAll.mp hn).resolve_left not_mem_nil)
    rcases hfull.isDefault ip hip with hdefault | hdefault
    · simp [ok.inj (hn.symm.trans hdefault)]
    · simp [ok.inj (hn.symm.trans hdefault)]
  · obtain ⟨ip, hip, hdefault⟩ := hfull.ipv4
    have hmem : default4 ∈ android.hashOrder (addAll [] allowed) :=
      (android.hashOrder_perm _).mem_iff.mpr
        (mem_addAll.mpr (.inr ((mem_of_mapM hallowed).mpr ⟨ip, hip, hdefault⟩)))
    have hroute : (⟨default4, true⟩ : Route) ∈ includeAll own :=
      hconfigured.routes_eq ▸ mem_includeAll.mpr ⟨rfl, hmem⟩
    exact (mem_includeAll.mp hroute).2

/-- Without exclusions the system has the routes of the builder. -/
theorem start_of_startVpn (hnone : android.exclusions config = [])
    (h : android.startVpn sdk config = .ok table) :
    ∃ b₀ b, android.configWireguard config = .ok b₀ ∧
      android.configSplitTunneling config b₀ = .ok b ∧ b.start android sdk = .ok table := by
  obtain ⟨b, b', hb, hb', hstart⟩ := startVpn_iff.mp h
  obtain ⟨b₀, hb₀, hb⟩ := bind_eq_ok.mp hb
  rw [Device.configLocalSubnetExclusions, if_pos hnone] at hb'
  obtain rfl := ok.inj hb'
  exact ⟨b₀, b, hb₀, hb, hstart⟩

/-- The networks read from sites. -/
theorem mem_readSites {value other : Option (List String)} {sites : List String}
    {nets : List InetNetwork} (hsites : value = some sites)
    (h : android.readSites value other = .ok nets) :
    (∀ site ∈ sites, ∃ n, android.parse site = .ok n) ∧
      ∀ n, n ∈ addAll [] nets ↔ ∃ site ∈ sites, android.parse site = .ok n := by
  rw [Device.readSites, hsites] at h
  refine ⟨fun site hsite => exists_of_mapM h hsite, fun n => ?_⟩
  rw [mem_addAll, or_iff_right not_mem_nil, mem_of_mapM h]

section Modes

variable (hfull : FullTunnel android config) (hnone : android.exclusions config = [])
  (h : android.startVpn sdk config = .ok table) (hd : d.size = 4)

include hfull hnone h hd

/-- Without split tunneling all IPv4 addresses go into the tunnel. -/
theorem tunneled_all (htype : config.splitTunnelType = 0) : Tunneled table d := by
  obtain ⟨b₀, b, hb₀, hb, hstart⟩ := start_of_startVpn hnone h
  obtain ⟨own, hconfigured, hincluded, hexcluded, hallow, hown⟩ := configWireguard_full hfull hb₀
  rw [Device.configSplitTunneling, if_neg (eq_false_iff.not.mpr (not_not.mpr hallow)),
    if_pos htype] at hb
  obtain rfl := ok.inj hb
  refine (tunneled_included hconfigured hexcluded hstart).mpr ⟨default4, ?_, default4_covers.mpr hd⟩
  rw [scope, if_neg (not_not.mpr hincluded), if_neg (not_not.mpr hexcluded)]
  exact mem_kept.mpr ⟨mem_replaced.mpr (.inl ⟨hown, by decide⟩), by decide⟩

variable {sites : List String}

/-- With only some sites in the tunnel, those that are no loopback networks go into it. -/
theorem tunneled_only (htype : config.splitTunnelType = 1)
    (hsites : config.splitTunnelIncludeSites = some sites) (hne : sites ≠ []) :
    (∀ site ∈ sites, ∃ n, android.parse site = .ok n) ∧
      (Tunneled table d ↔ ∃ site ∈ sites, ∃ n, android.parse site = .ok n ∧
        ¬isLoopback n = true ∧ n.covers d = true) := by
  obtain ⟨b₀, b, hb₀, hb, hstart⟩ := start_of_startVpn hnone h
  obtain ⟨own, hconfigured, hincluded, hexcluded, hallow, hown⟩ := configWireguard_full hfull hb₀
  have hconfigured' := configSplitTunneling_spec hconfigured hincluded hexcluded hb
  rw [Device.configSplitTunneling, if_neg (eq_false_iff.not.mpr (not_not.mpr hallow)),
    if_neg (by omega), if_pos htype] at hb
  obtain ⟨nets, hnets, hb⟩ := bind_eq_ok.mp hb
  obtain rfl := ok.inj hb
  obtain ⟨hread, hmem⟩ := mem_readSites hsites hnets
  rw [← hincluded] at hmem
  refine ⟨hread, ?_⟩
  obtain ⟨site, hsite⟩ := exists_mem_of_ne_nil _ hne
  obtain ⟨n, hn⟩ := hread site hsite
  have hsome : addAll b₀.includedAddresses nets ≠ [] :=
    ne_nil_of_mem ((hmem n).mpr ⟨site, hsite, hn⟩)
  rw [tunneled_included hconfigured' hexcluded hstart, scope, if_pos hsome,
    mem_coverOf_kept_replaced hd]
  simp only [(android.hashOrder_perm _).mem_iff, hmem]
  constructor
  · rintro ⟨n, ⟨site, hsite, hn⟩, hrest⟩
    exact ⟨site, hsite, n, hn, hrest⟩
  · rintro ⟨site, hsite, n, hn, hrest⟩
    exact ⟨n, ⟨site, hsite, hn⟩, hrest⟩

/-- With some sites outside of the tunnel, the other addresses go into it. Older versions of Android
leave out loopback addresses with them. -/
theorem tunneled_except (htype : config.splitTunnelType = 2)
    (hsites : config.splitTunnelExcludeSites = some sites) :
    (∀ site ∈ sites, ∃ n, android.parse site = .ok n) ∧
      (Tunneled table d ↔ (∀ site ∈ sites, ∀ n, android.parse site = .ok n → ¬n.covers d = true) ∧
        (sites ≠ [] → sdk < tiramisu → ¬loopback4.covers d = true)) := by
  obtain ⟨b₀, b, hb₀, hb, hstart⟩ := start_of_startVpn hnone h
  obtain ⟨own, hconfigured, hincluded, hexcluded, hallow, hown⟩ := configWireguard_full hfull hb₀
  have hconfigured' := configSplitTunneling_spec hconfigured hincluded hexcluded hb
  rw [Device.configSplitTunneling, if_neg (eq_false_iff.not.mpr (not_not.mpr hallow)),
    if_neg (by omega), if_neg (by omega), if_pos htype] at hb
  obtain ⟨nets, hnets, hb⟩ := bind_eq_ok.mp hb
  obtain rfl := ok.inj hb
  obtain ⟨hread, hmem⟩ := mem_readSites hsites hnets
  rw [← hexcluded] at hmem
  refine ⟨hread, ?_⟩
  have hcover : d ∉ coverOf (addAll b₀.excludedAddresses nets) ↔
      ∀ site ∈ sites, ∀ n, android.parse site = .ok n → ¬n.covers d = true := by
    constructor
    · exact fun hnot site hsite n hn hcovers => hnot ⟨n, (hmem n).mpr ⟨site, hsite, hn⟩, hcovers⟩
    · rintro hnot ⟨n, hn, hcovers⟩
      obtain ⟨site, hsite, hn⟩ := (hmem n).mp hn
      exact hnot site hsite n hn hcovers
  have hdefault : default4.covers d = true := default4_covers.mpr hd
  have hsize : d.size ≠ 16 := fun h => absurd (hd.symm.trans h) (by decide)
  by_cases hnil : sites = []
  · -- the list of excluded networks is empty
    subst hnil
    have hempty : addAll b₀.excludedAddresses nets = [] := by
      refine eq_nil_iff_forall_not_mem.mpr fun n hn => ?_
      obtain ⟨_, hsite, -⟩ := (hmem n).mp hn
      cases hsite
    refine iff_of_true ?_ ⟨fun _ hsite => (nomatch hsite), fun hne => absurd rfl hne⟩
    refine (tunneled_included hconfigured' hempty hstart).mpr ?_
    rw [scope, if_neg (not_not.mpr hincluded), if_neg (not_not.mpr hempty)]
    exact (mem_coverOf_kept_replaced hd).mpr ⟨default4, hown, by decide, hdefault⟩
  · obtain ⟨site, hsite⟩ := exists_mem_of_ne_nil _ hnil
    obtain ⟨n, hn⟩ := hread site hsite
    have hsome : addAll b₀.excludedAddresses nets ≠ [] :=
      ne_nil_of_mem ((hmem n).mpr ⟨site, hsite, hn⟩)
    rw [← hcover, forall_prop_of_true hnil]
    rcases lt_or_ge sdk tiramisu with hold | hnew
    · rw [tunneled_old hconfigured' hsome hold hstart, and_iff_right (.inl hdefault),
        forall_prop_of_true hold]
      have h6 : ¬loopback6.covers d = true := fun h => hsize (loopback6_covers.mp h).1
      simp [mem_coverOf, or_and_right, exists_or, h6]
    · have hnot : ¬sdk < tiramisu := not_lt.mpr hnew
      rw [tunneled_excluded hconfigured' hsome hnew hstart, and_iff_right hdefault,
        and_iff_left fun hold => absurd hold hnot]
      exact or_iff_left fun h => hsize (global6_covers.mp h.2.1).1

end Modes

end Dopamine.Android
