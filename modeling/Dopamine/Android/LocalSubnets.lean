import Dopamine.Android.LeftOver
import Dopamine.Android.Versions

/-!
# Local subnet exclusions on Android

`configLocalSubnetExclusions` cuts the exclusions out of the site list or of the networks of the
config, or else excludes them. What is cut is written as networks again, and these are not treated
as the networks they come from: a list that becomes empty is no list, `127.0.0.0/8` and `::1` are
filtered only if they stand alone, and `::/0` is replaced only if it is whole. Excluding them also
brings in `0.0.0.0/0`, and `2000::/3` that is longer than some exclusions.

So the exclusions are outside of the tunnel, and the tunnel is not wider than without them, exactly
if `Contained` holds (`exclusions_hold_iff`).
-/

namespace Dopamine.Android

open Intervals InetNetwork List Fallible

variable {android : Device}

/-! ## Starting with a builder -/

/-- The system has the routes of the builder. -/
def Builder.start (android : Device) (sdk : ℕ) (b : Builder) : Except Failure VpnTable := do
  let routes ← b.configBuild android sdk
  android.buildVpnInterface sdk routes

variable {sdk : ℕ} {config : Config} {table : VpnTable}

theorem startVpn_iff :
    android.startVpn sdk config = .ok table ↔ ∃ b b', android.configure config = .ok b ∧
      android.configLocalSubnetExclusions config b = .ok b' ∧ b'.start android sdk = .ok table := by
  constructor
  · intro h
    obtain ⟨routes, hroutes, h⟩ := bind_eq_ok.mp h
    obtain ⟨b, hb, hroutes⟩ := bind_eq_ok.mp hroutes
    obtain ⟨b', hb', hroutes⟩ := bind_eq_ok.mp hroutes
    exact ⟨b, b', hb, hb', bind_eq_ok.mpr ⟨routes, hroutes, h⟩⟩
  · rintro ⟨b, b', hb, hb', h⟩
    obtain ⟨routes, hroutes, h⟩ := bind_eq_ok.mp h
    exact bind_eq_ok.mpr ⟨routes, bind_eq_ok.mpr ⟨b, hb, bind_eq_ok.mpr ⟨b', hb', hroutes⟩⟩, h⟩

section Start

variable {sdk : ℕ} {b : Builder} {own : List InetNetwork} {table : VpnTable}

theorem start_iff (android : Device) (hb : Configured b own) :
    ∃ base, replaceDefault6 base = includeAll (scope android b own) ++
        excludeAll (android.hashOrder b.excludedAddresses) ∧
      ∀ {sdk table}, b.start android sdk = .ok table ↔ b.addresses ≠ [] ∧ b.mtu ≠ 0 ∧
        ∃ routes, processRoutes sdk base = .ok routes ∧ routes ≠ [] ∧
          android.buildVpnInterface sdk routes = .ok table := by
  obtain ⟨base, hbase, hiff⟩ := configBuild_iff android hb
  refine ⟨base, hbase, fun {sdk table} => ?_⟩
  rw [Builder.start, bind_eq_ok]
  constructor
  · rintro ⟨routes, hbuild, htable⟩
    obtain ⟨hroutes, haddresses, hne, hmtu⟩ := hiff.mp hbuild
    exact ⟨haddresses, hmtu, routes, hroutes, hne, htable⟩
  · rintro ⟨haddresses, hmtu, routes, hroutes, hne, htable⟩
    exact ⟨routes, hiff.mpr ⟨hroutes, haddresses, hne, hmtu⟩, htable⟩

theorem includeAll_ne_nil {l : List InetNetwork} (h : l ≠ []) (l' : List Route) :
    includeAll l ++ l' ≠ [] := by
  simp [includeAll, h]

/-- Without excluded networks: the routes are the included networks that are no loopback ones. -/
theorem start_included (hb : Configured b own) (hexcluded : b.excludedAddresses = []) :
    b.start android sdk = .ok table ↔ b.addresses ≠ [] ∧ b.mtu ≠ 0 ∧
      kept (scope android b own) ≠ [] ∧
      android.buildVpnInterface sdk (includeAll (kept (scope android b own)) ++ excludeAll []) =
        .ok table := by
  obtain ⟨base, hbase, hiff⟩ := start_iff android hb
  rw [hexcluded, hashOrder_nil] at hbase
  have hprocess : processRoutes sdk base = _ := processRoutes_eq hbase (.inl rfl)
  rw [hiff]
  refine and_congr_right fun _ => and_congr_right fun _ => ?_
  constructor
  · rintro ⟨routes, hroutes, hne, htable⟩
    obtain rfl := Except.ok.inj (hprocess.symm.trans hroutes)
    refine ⟨fun hnil => hne ?_, htable⟩
    rw [hnil]
    rfl
  · rintro ⟨hne, htable⟩
    exact ⟨_, hprocess, includeAll_ne_nil hne _, htable⟩

variable {d : IpAddress}

theorem tunneled_included (hb : Configured b own) (hexcluded : b.excludedAddresses = [])
    (h : b.start android sdk = .ok table) :
    Tunneled table d ↔ d ∈ coverOf (kept (scope android b own)) := by
  obtain ⟨-, -, -, htable⟩ := (start_included hb hexcluded).mp h
  rw [tunneled_iff android (.inl rfl) htable]
  simp [mem_coverOf]

/-- Without excluded networks, an address goes into the tunnel if the system takes all included
networks and one of them covers the address. -/
theorem exists_tunneled_included (hb : Configured b own) (hexcluded : b.excludedAddresses = [])
    (haddresses : b.addresses ≠ []) (hmtu : b.mtu ≠ 0) :
    (∃ table, b.start android sdk = .ok table ∧ Tunneled table d) ↔
      (∀ n ∈ kept (scope android b own), android.addRoute n = true) ∧
        d ∈ coverOf (kept (scope android b own)) := by
  constructor
  · rintro ⟨table, h, hd⟩
    obtain ⟨-, -, -, htable⟩ := (start_included hb hexcluded).mp h
    exact ⟨((buildVpnInterface_iff android (.inl rfl)).mp htable).1,
      (tunneled_included hb hexcluded h).mp hd⟩
  · rintro ⟨haccept, hd⟩
    have htable : android.buildVpnInterface sdk
        (includeAll (kept (scope android b own)) ++ excludeAll []) = .ok _ :=
      (buildVpnInterface_iff android (.inl rfl)).mpr
        ⟨haccept, fun _ h => (nomatch h), rfl⟩
    obtain ⟨n, hn, -⟩ := id hd
    have h := (start_included hb hexcluded).mpr
      ⟨haddresses, hmtu, ne_nil_of_mem hn, htable⟩
    exact ⟨_, h, (tunneled_included hb hexcluded h).mpr hd⟩

theorem addRoute_default4 : android.addRoute default4 = true :=
  android.addRoute_of_first _ (by decide) (by decide) (by decide) (by decide)

theorem addRoute_global6 : android.addRoute global6 = true :=
  android.addRoute_of_first _ (by decide) (by decide) (by decide) (by decide)

variable (hb : Configured b own) (hexcluded : b.excludedAddresses ≠ [])
include hb hexcluded

/-- With excluded networks, on newer versions of Android. -/
theorem start_excluded (hsdk : tiramisu ≤ sdk) :
    b.start android sdk = .ok table ↔ b.addresses ≠ [] ∧ b.mtu ≠ 0 ∧
      android.buildVpnInterface sdk (includeAll (scope android b own) ++
        excludeAll (android.hashOrder b.excludedAddresses)) = .ok table := by
  obtain ⟨base, hbase, hiff⟩ := start_iff android hb
  have hprocess := processRoutes_eq hbase (.inr hsdk)
  rw [kept_scope hb hexcluded] at hprocess
  have hne : scope android b own ≠ [] :=
    ne_nil_of_mem ((mem_scope_iff hb hexcluded).mpr (.inl rfl))
  rw [hiff]
  refine and_congr_right fun _ => and_congr_right fun _ => ?_
  constructor
  · rintro ⟨routes, hroutes, -, htable⟩
    obtain rfl := Except.ok.inj (hprocess.symm.trans hroutes)
    exact htable
  · intro htable
    exact ⟨_, hprocess, includeAll_ne_nil hne _, htable⟩

/-- On newer versions `0.0.0.0/0` is shorter than every excluded network, and `2000::/3` is
not. -/
theorem tunneled_excluded (hsdk : tiramisu ≤ sdk) (h : b.start android sdk = .ok table) :
    Tunneled table d ↔ default4.covers d = true ∧ d ∉ coverOf b.excludedAddresses ∨
      default6 ∈ own ∧ global6.covers d = true ∧
        ∀ e ∈ b.excludedAddresses, e.covers d = true → e.mask.toNat < 3 := by
  obtain ⟨-, -, htable⟩ := (start_excluded hb hexcluded hsdk).mp h
  rw [tunneled_iff android (.inr hsdk) htable]
  simp only [mem_scope_iff hb hexcluded, (android.hashOrder_perm _).mem_iff]
  constructor
  · rintro ⟨i, rfl | ⟨rfl, h6⟩, hcovers, hlonger⟩
    · exact .inl ⟨hcovers, fun ⟨e, he, hecovers⟩ => Nat.not_lt_zero _ (hlonger e he hecovers)⟩
    · exact .inr ⟨h6, hcovers, hlonger⟩
  · rintro (⟨hcovers, hnone⟩ | ⟨h6, hcovers, hlonger⟩)
    · exact ⟨default4, .inl rfl, hcovers, fun e he hecovers => absurd ⟨e, he, hecovers⟩ hnone⟩
    · exact ⟨global6, .inr ⟨rfl, h6⟩, hcovers, hlonger⟩

theorem exists_start_excluded (hsdk : tiramisu ≤ sdk) (haddresses : b.addresses ≠ [])
    (hmtu : b.mtu ≠ 0)
    (haccept : ∀ e ∈ b.excludedAddresses, android.excludeRoute e = true) :
    ∃ table, b.start android sdk = .ok table := by
  refine ⟨_, (start_excluded hb hexcluded hsdk).mpr ⟨haddresses, hmtu,
    (buildVpnInterface_iff android (.inr hsdk)).mpr ⟨fun n hn => ?_, fun e he => ?_, rfl⟩⟩⟩
  · rcases mem_scope_of_excluded hb hexcluded hn with rfl | rfl
    · exact addRoute_default4
    · exact addRoute_global6
  · exact haccept e ((android.hashOrder_perm _).mem_iff.mp he)

/-- With excluded networks, on older versions of Android. -/
theorem tunneled_old (hsdk : sdk < tiramisu) (h : b.start android sdk = .ok table) :
    Tunneled table d ↔ (default4.covers d = true ∨ default6 ∈ own ∧ global6.covers d = true) ∧
      d ∉ coverOf (b.excludedAddresses ++ [loopback4, loopback6]) := by
  obtain ⟨base, hbase, hiff⟩ := start_iff android hb
  obtain ⟨-, -, routes, hroutes, -, htable⟩ := hiff.mp h
  obtain ⟨l, rfl, hl, -⟩ := old_routes hb hbase hsdk hexcluded hroutes
  have hnone : includeAll l = includeAll l ++ excludeAll [] := (append_nil _).symm
  rw [hnone] at htable
  have hcover : Tunneled table d ↔ d ∈ coverOf l := by
    rw [tunneled_iff android (.inl rfl) htable]
    simp [mem_coverOf]
  rw [hcover, hl, Set.mem_sdiff]
  refine and_congr_left fun _ => ?_
  rw [mem_coverOf]
  simp only [mem_scope_iff hb hexcluded]
  constructor
  · rintro ⟨n, rfl | ⟨rfl, h6⟩, hcovers⟩
    · exact .inl hcovers
    · exact .inr ⟨h6, hcovers⟩
  · rintro (hcovers | ⟨h6, hcovers⟩)
    · exact ⟨default4, .inl rfl, hcovers⟩
    · exact ⟨global6, .inr ⟨rfl, h6⟩, hcovers⟩

/-- The networks of older versions are taken. -/
theorem exists_start_old (hsdk : sdk < tiramisu) (haddresses : b.addresses ≠ []) (hmtu : b.mtu ≠ 0)
    (hmask : ∀ e ∈ b.excludedAddresses, -8 < e.mask)
    (hne : (coverOf (scope android b own) \
      coverOf (b.excludedAddresses ++ [loopback4, loopback6])).Nonempty) :
    ∃ table, b.start android sdk = .ok table := by
  obtain ⟨base, hbase, hiff⟩ := start_iff android hb
  have hincluded : ∀ n ∈ scope android b own, -8 < n.mask := by
    intro n hn
    rcases mem_scope_of_excluded hb hexcluded hn with rfl | rfl <;> decide
  obtain ⟨routes, hroutes⟩ := exists_processRoutes sdk hbase hincluded
    fun e he => hmask e ((android.hashOrder_perm _).mem_iff.mp he)
  obtain ⟨l, rfl, hl, haccept, -⟩ := old_routes hb hbase hsdk hexcluded hroutes
  rw [← hl] at hne
  obtain ⟨d, n, hn, -⟩ := hne
  have hnone : includeAll l ++ excludeAll [] = includeAll l := append_nil _
  have htable : android.buildVpnInterface sdk (includeAll l ++ excludeAll []) = .ok _ :=
    (buildVpnInterface_iff android (.inl rfl)).mpr
      ⟨haccept, fun _ h => (nomatch h), rfl⟩
  rw [hnone] at htable
  have hroute := includeAll_ne_nil (ne_nil_of_mem hn) (excludeAll [])
  rw [hnone] at hroute
  exact ⟨_, hiff.mpr ⟨haddresses, hmtu, _, hroutes, hroute, htable⟩⟩

end Start

/-! ## With and without the exclusions -/

/-- The config with an empty list of exclusions. -/
def withoutExclusions (config : Config) : Config := { config with localSubnetExclusions := none }

theorem startVpn_withoutExclusions {b : Builder} (hb : android.configure config = .ok b) :
    android.startVpn sdk (withoutExclusions config) = .ok table ↔
      b.start android sdk = .ok table := by
  have hconfigure : android.configure (withoutExclusions config) = .ok b := hb
  have hnone : android.exclusions (withoutExclusions config) = [] := rfl
  have hsame : android.configLocalSubnetExclusions (withoutExclusions config) b = .ok b := by
    rw [Device.configLocalSubnetExclusions, if_pos hnone]
  rw [startVpn_iff]
  constructor
  · rintro ⟨b₁, b₂, hb₁, hb₂, h⟩
    obtain rfl : b = b₁ := Except.ok.inj (hconfigure.symm.trans hb₁)
    obtain rfl : b = b₂ := Except.ok.inj (hsame.symm.trans hb₂)
    exact h
  · exact fun h => ⟨b, b, hconfigure, hsame, h⟩

/-- What is left of the networks after the exclusions is something, and within the routes that the
system takes for the networks themselves. -/
def CutContained (android : Device) (networks exclusions : List InetNetwork) : Prop :=
  (coverOf networks \ coverOf exclusions).Nonempty ∧
    (∀ n ∈ kept (replaced networks), android.addRoute n = true) ∧
    leftOver (coverOf networks \ coverOf exclusions) ⊆ coverOf (kept (replaced networks))

/-- On newer versions no exclusion is shorter than `2000::/3` where that is included, unless others
exclude all of it; and `0.0.0.0/0` is included without the exclusions too, unless they exclude all
of it. -/
def ExcludeContained (sdk : ℕ) (own sites exclusions : List InetNetwork) : Prop :=
  (tiramisu ≤ sdk → default6 ∈ own →
    (∃ x ∈ exclusions, x.mask.toNat < 3 ∧ x.covers global6.address.ip = true) →
    ∀ d, global6.covers d = true →
      ∃ e ∈ sites ++ exclusions, 3 ≤ e.mask.toNat ∧ e.covers d = true) ∧
  (sites ≠ [] ∨ default4 ∈ own ∨
    ∀ d, default4.covers d = true → (sdk < tiramisu → ¬loopback4.covers d = true) →
      d ∈ coverOf exclusions)

/-- The condition on the config, by the list that the exclusions are used on. -/
def Contained (android : Device) (sdk : ℕ) (config : Config) : Prop :=
  ∃ b, android.configure config = .ok b ∧
    (android.exclusions config = [] ∨
      if b.includedAddresses ≠ [] then
        CutContained android b.includedAddresses (android.exclusions config)
      else if b.allowSplitTunneling = false then
        CutContained android (b.routes.map Route.inetNetwork) (android.exclusions config)
      else ExcludeContained sdk (b.routes.map Route.inetNetwork) b.excludedAddresses
        (android.exclusions config))

theorem coverOf_congr {l l' : List InetNetwork} (h : ∀ n, n ∈ l ↔ n ∈ l') :
    coverOf l = coverOf l' := by
  ext d
  simp only [mem_coverOf, h]

theorem mem_kept_replaced_congr {l l' : List InetNetwork} (h : ∀ n, n ∈ l ↔ n ∈ l') :
    ∀ n, n ∈ kept (replaced l) ↔ n ∈ kept (replaced l') := by
  intro n
  rw [mem_kept, mem_kept, mem_replaced, mem_replaced, h, h]

section Cases

variable {sdk : ℕ} {b b' : Builder} {own own' networks exclusions : List InetNetwork}
  {table : VpnTable} {nets : List Network}

section Cut

variable (hb : Configured b own) (hexcluded : b.excludedAddresses = [])
  (hscope : ∀ n, n ∈ kept (scope android b own) ↔ n ∈ kept (replaced networks))
  (hb' : Configured b' own') (hexcluded' : b'.excludedAddresses = [])
include hb hexcluded hscope hb' hexcluded'

/-- The exclusions are cut out of networks, and something is left. -/
theorem cut_iff (haddresses : b'.addresses = b.addresses) (hmtu : b'.mtu = b.mtu)
    (htiles : Tiles (coverOf networks \ coverOf exclusions) nets)
    (hscope' : ∃ l, (∀ n, n ∈ l ↔ n ∈ nets.map Network.toInet) ∧
      scope android b' own' = replaced l)
    (h : b'.start android sdk = .ok table) :
    ((∀ d ∈ coverOf exclusions, ¬Tunneled table d) ∧
      ∀ d, Tunneled table d → ∃ table, b.start android sdk = .ok table ∧ Tunneled table d) ↔
      CutContained android networks exclusions := by
  obtain ⟨l, hl, hscope'⟩ := hscope'
  obtain ⟨hne, hmtu₀, hkept, htable⟩ := (start_included hb' hexcluded').mp h
  rw [haddresses] at hne
  rw [hmtu] at hmtu₀
  have haccept := ((buildVpnInterface_iff android (.inl rfl)).mp htable).1
  have hmapped := htiles.not_mapped fun i hi hne6 hloopback => by
    refine (android.mask_of_addRoute i (haccept i ?_)).2
    rw [hscope']
    exact mem_kept.mpr ⟨mem_replaced.mpr (.inl ⟨(hl i).mpr hi, hne6⟩), hloopback⟩
  have htunneled : ∀ d, Tunneled table d ↔
      d ∈ leftOver (coverOf networks \ coverOf exclusions) := fun d => by
    rw [tunneled_included hb' hexcluded' h, hscope', htiles.coverOf_kept_replaced hmapped hl]
  have hbefore : ∀ d, (∃ table, b.start android sdk = .ok table ∧ Tunneled table d) ↔
      (∀ n ∈ kept (replaced networks), android.addRoute n = true) ∧
        d ∈ coverOf (kept (replaced networks)) := fun d => by
    rw [exists_tunneled_included hb hexcluded hne hmtu₀, coverOf_congr hscope]
    simp only [hscope]
  -- the system has some route, so something goes into the tunnel
  have hsome : ∃ d, d ∈ leftOver (coverOf networks \ coverOf exclusions) := by
    obtain ⟨n, hn⟩ := exists_mem_of_ne_nil _ hkept
    exact ⟨n.address.ip, (htunneled _).mp
      ((tunneled_included hb' hexcluded' h).mpr ⟨n, hn, covers_self n⟩)⟩
  simp only [htunneled, hbefore]
  constructor
  · rintro ⟨-, hwiden⟩
    obtain ⟨d, hd⟩ := hsome
    exact ⟨⟨d, hd.1⟩, (hwiden d hd).1, fun a ha => (hwiden a ha).2⟩
  · rintro ⟨-, htaken, hsub⟩
    exact ⟨fun d hd hleft => hleft.1.2 hd, fun d hd => ⟨htaken, hsub hd⟩⟩

/-- Nothing is left of the site list: the default routes stay. -/
theorem not_contained_of_empty (hempty : ¬(coverOf networks \ coverOf exclusions).Nonempty)
    (h : b'.start android sdk = .ok table) :
    ¬((∀ d ∈ coverOf exclusions, ¬Tunneled table d) ∧
      ∀ d, Tunneled table d → ∃ table, b.start android sdk = .ok table ∧ Tunneled table d) := by
  rintro ⟨hwin, hwiden⟩
  obtain ⟨-, -, hkept, -⟩ := (start_included hb' hexcluded').mp h
  obtain ⟨n, hn⟩ := exists_mem_of_ne_nil _ hkept
  have hd := (tunneled_included hb' hexcluded' h).mpr ⟨n, hn, covers_self n⟩
  obtain ⟨table₀, htable₀, hd₀⟩ := hwiden _ hd
  have hmem := (tunneled_included hb hexcluded htable₀).mp hd₀
  rw [coverOf_congr hscope] at hmem
  refine hempty ⟨_, coverOf_kept_replaced_subset _ hmem, fun hx => hwin _ hx hd⟩

end Cut

/-- The exclusions are excluded, on newer versions of Android: they win unless they are shorter
than `2000::/3`. -/
theorem exclude_wins_iff (hb' : Configured b' own) (hexcluded' : b'.excludedAddresses ≠ [])
    {sites : List InetNetwork} (hmem : ∀ e, e ∈ b'.excludedAddresses ↔ e ∈ sites ++ exclusions)
    (hsdk : tiramisu ≤ sdk) (h : b'.start android sdk = .ok table) :
    (∀ d ∈ coverOf exclusions, ¬Tunneled table d) ↔ (default6 ∈ own →
      (∃ x ∈ exclusions, x.mask.toNat < 3 ∧ x.covers global6.address.ip = true) →
      ∀ d, global6.covers d = true →
        ∃ e ∈ sites ++ exclusions, 3 ≤ e.mask.toNat ∧ e.covers d = true) := by
  simp only [tunneled_excluded hb' hexcluded' hsdk h, hmem]
  constructor
  · rintro hwin h6 ⟨x, hx, hshort, hcovers⟩ d hd
    by_contra hnone
    have hxd : x.covers d = true :=
      covers_of_mask_le hcovers (covers_self global6) hshort.le hd
    refine hwin d ⟨x, hx, hxd⟩ (.inr ⟨h6, hd, fun e he hecovers => ?_⟩)
    exact not_le.mp fun hle => hnone ⟨e, he, hle, hecovers⟩
  · rintro hcond d ⟨x, hx, hxd⟩ (⟨-, hnone⟩ | ⟨h6, hd, hshort⟩)
    · exact hnone ⟨x, (hmem x).mpr (mem_append_right _ hx), hxd⟩
    · have hlt := hshort x (mem_append_right _ hx) hxd
      have hcovers := covers_of_mask_le hxd hd hlt.le (covers_self global6)
      obtain ⟨e, he, hle, hecovers⟩ := hcond h6 ⟨x, hx, hlt, hcovers⟩ d hd
      exact absurd (hshort e he hecovers) (not_lt.mpr hle)

/-- Without sites and exclusions the tunnel has the default routes of the config. -/
theorem exists_tunneled_default (hb : Configured b own) (hincluded : b.includedAddresses = [])
    (hexcluded : b.excludedAddresses = []) (hallow : b.allowSplitTunneling = true)
    (haddresses : b.addresses ≠ []) (hmtu : b.mtu ≠ 0) {d : IpAddress} :
    (∃ table, b.start android sdk = .ok table ∧ Tunneled table d) ↔
      default4 ∈ own ∧ default4.covers d = true ∨ default6 ∈ own ∧ global6.covers d = true := by
  have hdefault := hb.default_of_allow hallow
  have hmem : ∀ n, n ∈ kept (scope android b own) ↔
      n = default4 ∧ default4 ∈ own ∨ n = global6 ∧ default6 ∈ own := by
    intro n
    rw [scope, if_neg (not_not.mpr hincluded), if_neg (not_not.mpr hexcluded), mem_kept,
      mem_replaced]
    constructor
    · rintro ⟨⟨hn, hne⟩ | hn, -⟩
      · obtain rfl := (hdefault n hn).resolve_right hne
        exact .inl ⟨rfl, hn⟩
      · exact .inr hn
    · rintro (⟨rfl, hn⟩ | ⟨rfl, h6⟩)
      · exact ⟨.inl ⟨hn, by decide⟩, by decide⟩
      · exact ⟨.inr ⟨rfl, h6⟩, by decide⟩
  rw [exists_tunneled_included hb hexcluded haddresses hmtu, mem_coverOf]
  simp only [hmem]
  refine (and_iff_right ?_).trans ⟨?_, ?_⟩
  · rintro n (⟨rfl, -⟩ | ⟨rfl, -⟩)
    · exact addRoute_default4
    · exact addRoute_global6
  · rintro ⟨n, ⟨rfl, hn⟩ | ⟨rfl, hn⟩, hd⟩
    · exact .inl ⟨hn, hd⟩
    · exact .inr ⟨hn, hd⟩
  · rintro (⟨hn, hd⟩ | ⟨hn, hd⟩)
    · exact ⟨default4, .inl ⟨rfl, hn⟩, hd⟩
    · exact ⟨global6, .inr ⟨rfl, hn⟩, hd⟩

/-- The tunnel is not wider than the default routes of the config if it needs no `0.0.0.0/0` that
the config does not have. -/
theorem widen_default_iff {tunneled : IpAddress → Prop} {rest : Set IpAddress}
    (htunneled : ∀ d, default4.covers d = true → (tunneled d ↔ d ∈ rest))
    (hglobal : ∀ d, tunneled d → default4.covers d = true ∨
      default6 ∈ own ∧ global6.covers d = true) :
    (∀ d, tunneled d → default4 ∈ own ∧ default4.covers d = true ∨
      default6 ∈ own ∧ global6.covers d = true) ↔
      default4 ∈ own ∨ ∀ d, default4.covers d = true → d ∉ rest := by
  constructor
  · intro hwiden
    by_cases h4 : default4 ∈ own
    · exact .inl h4
    refine .inr fun d hd hrest => ?_
    rcases hwiden d ((htunneled d hd).mpr hrest) with ⟨hmem, -⟩ | ⟨-, h6⟩
    · exact h4 hmem
    · cases (default4_covers.mp hd).symm.trans (global6_covers.mp h6).1
  · intro hcond d hd
    rcases hglobal d hd with h4 | h6
    · exact .inl ⟨hcond.resolve_right fun hall => hall d h4 ((htunneled d h4).mp hd), h4⟩
    · exact .inr h6

section Exclude

variable (hb : Configured b own) (hincluded : b.includedAddresses = [])
  (hallow : b.allowSplitTunneling = true) (hne : addAll b.excludedAddresses exclusions ≠ [])
  (hb' : Configured { b with excludedAddresses := addAll b.excludedAddresses exclusions } own)
  (haddresses : b.addresses ≠ []) (hmtu : b.mtu ≠ 0)
  (h : Builder.start android sdk
    { b with excludedAddresses := addAll b.excludedAddresses exclusions } = .ok table)

include hb hincluded hallow hne hb' haddresses hmtu h

/-- The exclusions are excluded. -/
theorem exclude_widens :
    (∀ d, Tunneled table d → ∃ table, b.start android sdk = .ok table ∧ Tunneled table d) ↔
      b.excludedAddresses ≠ [] ∨ default4 ∈ own ∨
        ∀ d, default4.covers d = true → (sdk < tiramisu → ¬loopback4.covers d = true) →
          d ∈ coverOf exclusions := by
  by_cases hexcluded : b.excludedAddresses = []
  · simp only [exists_tunneled_default hb hincluded hexcluded hallow haddresses hmtu]
    rw [or_iff_right (not_not.mpr hexcluded)]
    have hrest : ∀ d, default4.covers d = true → (Tunneled table d ↔ d ∈
        {d | (sdk < tiramisu → ¬loopback4.covers d = true) ∧ d ∉ coverOf exclusions}) := by
      intro d hd
      have hsize := default4_covers.mp hd
      rw [Set.mem_ofPred_eq]
      rcases lt_or_ge sdk tiramisu with hold | hnew
      · have h6 : ¬loopback6.covers d = true := fun h => by
          cases hsize.symm.trans (loopback6_covers.mp h).1
        rw [tunneled_old hb' hne hold h, and_iff_right (.inl hd), hexcluded]
        simp [mem_coverOf, mem_addAll, or_and_right, exists_or, h6, and_comm, hold]
      · have h6 : ¬global6.covers d = true := fun h => by
          cases hsize.symm.trans (global6_covers.mp h).1
        rw [tunneled_excluded hb' hne hnew h, and_iff_right hd, or_iff_left fun h => h6 h.2.1,
          hexcluded, coverOf_addAll, and_iff_right fun hlt => absurd hlt (not_lt.mpr hnew)]
    rw [widen_default_iff hrest fun d hd => ?_]
    · refine or_congr_right (forall₂_congr fun d _ => ?_)
      rw [Set.mem_ofPred_eq, not_and, not_not]
    · rcases lt_or_ge sdk tiramisu with hold | hnew
      · exact ((tunneled_old hb' hne hold h).mp hd).1
      · exact ((tunneled_excluded hb' hne hnew h).mp hd).imp And.left fun h => ⟨h.1, h.2.1⟩
  · -- the sites are excluded without the exclusions too
    refine iff_of_true (fun d hd => ?_) (.inl hexcluded)
    rcases lt_or_ge sdk tiramisu with hold | hnew
    · obtain ⟨hcovers, hnone⟩ := (tunneled_old hb' hne hold h).mp hd
      have hnone' : d ∉ coverOf (b.excludedAddresses ++ [loopback4, loopback6]) := by
        rintro ⟨e, he, hecovers⟩
        refine hnone ⟨e, ?_, hecovers⟩
        rcases mem_append.mp he with he | he
        · exact mem_append_left _ (mem_addAll_left he)
        · exact mem_append_right _ he
      have hmask : ∀ e ∈ b.excludedAddresses, -8 < e.mask := by
        obtain ⟨base, hbase, hiff⟩ := start_iff android hb'
        obtain ⟨-, -, routes, hroutes, -⟩ := hiff.mp h
        obtain ⟨_, -, -, -, hmask⟩ := old_routes hb' hbase hold hne hroutes
        exact fun e he => hmask e (mem_addAll_left he)
      have hscope : d ∈ coverOf (scope android b own) := by
        rcases hcovers with hcovers | ⟨h6, hcovers⟩
        · exact ⟨default4, (mem_scope_iff hb hexcluded).mpr (.inl rfl), hcovers⟩
        · exact ⟨global6, (mem_scope_iff hb hexcluded).mpr (.inr ⟨rfl, h6⟩), hcovers⟩
      obtain ⟨table₀, htable₀⟩ := exists_start_old hb hexcluded hold haddresses hmtu hmask
        ⟨d, hscope, hnone'⟩
      exact ⟨table₀, htable₀, (tunneled_old hb hexcluded hold htable₀).mpr ⟨hcovers, hnone'⟩⟩
    · obtain ⟨-, -, htable⟩ := (start_excluded hb' hne hnew).mp h
      have haccept := ((buildVpnInterface_iff android (.inr hnew)).mp htable).2.1
      obtain ⟨table₀, htable₀⟩ := exists_start_excluded hb hexcluded hnew haddresses hmtu
        fun e he => haccept e ((android.hashOrder_perm _).mem_iff.mpr (mem_addAll_left he))
      refine ⟨table₀, htable₀, (tunneled_excluded hb hexcluded hnew htable₀).mpr ?_⟩
      rcases (tunneled_excluded hb' hne hnew h).mp hd with ⟨hcovers, hnone⟩ | ⟨h6, hcovers, hshort⟩
      · exact .inl ⟨hcovers, fun ⟨e, he, hecovers⟩ => hnone ⟨e, mem_addAll_left he, hecovers⟩⟩
      · exact .inr ⟨h6, hcovers, fun e he => hshort e (mem_addAll_left he)⟩

end Exclude

/-- The exclusions are excluded. -/
theorem exclude_iff (hb : Configured b own) (hincluded : b.includedAddresses = [])
    (hallow : b.allowSplitTunneling = true) (hne : exclusions ≠ [])
    (hb' : Configured { b with excludedAddresses := addAll b.excludedAddresses exclusions } own)
    (h : Builder.start android sdk
      { b with excludedAddresses := addAll b.excludedAddresses exclusions } = .ok table) :
    ((∀ d ∈ coverOf exclusions, ¬Tunneled table d) ∧
      ∀ d, Tunneled table d → ∃ table, b.start android sdk = .ok table ∧ Tunneled table d) ↔
      ExcludeContained sdk own b.excludedAddresses exclusions := by
  obtain ⟨x, hx⟩ := exists_mem_of_ne_nil _ hne
  have hne' : addAll b.excludedAddresses exclusions ≠ [] :=
    ne_nil_of_mem (mem_addAll.mpr (.inr hx))
  obtain ⟨base, -, hiff⟩ := start_iff android hb'
  obtain ⟨haddresses, hmtu, -⟩ := hiff.mp h
  have hwiden := exclude_widens hb hincluded hallow hne' hb' haddresses hmtu h
  rw [ExcludeContained]
  rcases lt_or_ge sdk tiramisu with hold | hnew
  · -- what is excluded is not in the routes at all
    have hwin : ∀ d ∈ coverOf exclusions, ¬Tunneled table d := by
      rintro d ⟨x, hx, hcovers⟩ hd
      exact ((tunneled_old hb' hne' hold h).mp hd).2
        ⟨x, mem_append_left _ (mem_addAll.mpr (.inr hx)), hcovers⟩
    rw [and_iff_right hwin, and_iff_right fun hle => absurd hold (not_lt.mpr hle)]
    exact hwiden
  · have hmem : ∀ e, e ∈ addAll b.excludedAddresses exclusions ↔
        e ∈ b.excludedAddresses ++ exclusions := fun e => by
      rw [mem_addAll, mem_append]
    rw [exclude_wins_iff hb' hne' hmem hnew h]
    exact and_congr ⟨fun hwin _ => hwin, fun hwin => hwin hnew⟩ hwiden

end Cases

/-- For every config that starts: no address of the local subnet exclusions goes into the tunnel,
and every address that does would also go into it with an empty list of exclusions, exactly if
`Contained` holds for the config. -/
theorem exclusions_hold_iff (android : Device) (sdk : ℕ) (config : Config) {table : VpnTable}
    (h : android.startVpn sdk config = .ok table) :
    ((∀ d ∈ coverOf (android.exclusions config), ¬Tunneled table d) ∧
      ∀ d, Tunneled table d → ∃ table₀,
        android.startVpn sdk (withoutExclusions config) = .ok table₀ ∧ Tunneled table₀ d) ↔
      Contained android sdk config := by
  obtain ⟨b, b', hb, hb', hstart⟩ := startVpn_iff.mp h
  obtain ⟨own, hconfigured⟩ := configure_spec hb
  obtain ⟨own', hexcluding⟩ := configLocalSubnetExclusions_spec hconfigured hb'
  have hconfigured' := hexcluding.configured hconfigured
  have hown : b.routes.map Route.inetNetwork = own := by
    rw [hconfigured.routes_eq, includeAll, map_map]
    exact map_id' own
  have hcontained : Contained android sdk config ↔ (android.exclusions config = [] ∨
      if b.includedAddresses ≠ [] then
        CutContained android b.includedAddresses (android.exclusions config)
      else if b.allowSplitTunneling = false then
        CutContained android own (android.exclusions config)
      else ExcludeContained sdk own b.excludedAddresses (android.exclusions config)) := by
    rw [← hown]
    refine ⟨?_, fun hc => ⟨b, hb, hc⟩⟩
    rintro ⟨b₁, hb₁, hc⟩
    obtain rfl : b = b₁ := Except.ok.inj (hb.symm.trans hb₁)
    exact hc
  rw [hcontained]
  simp only [startVpn_withoutExclusions hb]
  have hset : ∀ {nets : List Network} (n : InetNetwork),
      n ∈ addAll [] (nets.map Network.toInet) ↔ n ∈ nets.map Network.toInet := fun n => by
    rw [mem_addAll, or_iff_right not_mem_nil]
  cases hexcluding with
  | none hnone =>
    refine iff_of_true ⟨fun d hd => ?_, fun d hd => ⟨table, hstart, hd⟩⟩ (.inl hnone)
    rw [hnone, coverOf_nil] at hd
    exact absurd hd (Set.notMem_empty d)
  | @sites nets hne hincluded htiles =>
    have hexcluded := hconfigured.exclusive.resolve_left hincluded
    have hscope : ∀ n, n ∈ kept (scope android b own) ↔
        n ∈ kept (replaced b.includedAddresses) := by
      rw [scope, if_pos hincluded]
      exact mem_kept_replaced_congr fun n => (android.hashOrder_perm _).mem_iff
    rw [or_iff_right hne, if_pos hincluded]
    by_cases hempty : (coverOf b.includedAddresses \ coverOf (android.exclusions config)).Nonempty
    · obtain ⟨d, hd⟩ := hempty
      obtain ⟨n, hn, -⟩ := htiles.mem_iff.mp hd
      have hsome : addAll [] (nets.map Network.toInet) ≠ [] :=
        ne_nil_of_mem ((hset _).mpr (mem_map_of_mem hn))
      refine cut_iff hconfigured hexcluded hscope hconfigured' hexcluded rfl rfl htiles
        ⟨_, fun n => ((android.hashOrder_perm _).mem_iff).trans (hset n), ?_⟩ hstart
      rw [scope, if_pos hsome]
    · refine iff_of_false ?_ fun hc => hempty hc.1
      exact not_contained_of_empty hconfigured hexcluded hscope hconfigured' hexcluded hempty hstart
  | @routes nets hne hallow htiles =>
    obtain ⟨hincluded, hexcluded⟩ := hconfigured.prohibited hallow
    rw [or_iff_right hne, if_neg (not_not.mpr hincluded), if_pos hallow]
    refine cut_iff hconfigured hexcluded ?_ hconfigured' hexcluded rfl rfl htiles
      ⟨_, hset, ?_⟩ hstart
    · rw [scope, if_neg (not_not.mpr hincluded), if_neg (not_not.mpr hexcluded)]
      exact fun n => Iff.rfl
    · rw [scope, if_neg (not_not.mpr hincluded), if_neg (not_not.mpr hexcluded)]
  | exclude hne hincluded hallow =>
    rw [or_iff_right hne, if_neg (not_not.mpr hincluded),
      if_neg ((Bool.not_eq_false _).mpr hallow)]
    exact exclude_iff hconfigured hincluded hallow hne hconfigured' hstart

/-- With the local network excluded from all IPv4 addresses, it is outside of the tunnel. -/
theorem exclusions_hold_lan :
    ∃ table, plainAndroid.startVpn 33 lanConfig = .ok table ∧
      (∀ d ∈ coverOf (plainAndroid.exclusions lanConfig), ¬Tunneled table d) ∧
      ∀ d, Tunneled table d → ∃ table₀,
        plainAndroid.startVpn 33 (withoutExclusions lanConfig) = .ok table₀ ∧
          Tunneled table₀ d := by
  have hcontained : Contained plainAndroid 33 lanConfig := by
    refine ⟨_, rfl, .inr ?_⟩
    rw [if_neg (not_not.mpr rfl), if_neg Bool.noConfusion]
    have hdefault : default6 ∉ [default4] := by decide
    exact ⟨fun _ h6 => absurd h6 hdefault, .inr (.inl (mem_singleton_self _))⟩
  exact ⟨_, rfl, (exclusions_hold_iff plainAndroid 33 lanConfig rfl).mpr hcontained⟩

/-- A config with one site, which lies in the local network. -/
def siteConfig : Config :=
  { lanConfig with splitTunnelType := 1, splitTunnelIncludeSites := some ["192.168.1.0/24"] }

theorem startVpn_site :
    plainAndroid.startVpn 33 siteConfig =
      plainAndroid.buildVpnInterface 33 (includeAll [default4] ++ excludeAll []) := by
  rfl

/-- If the exclusions cover the whole site list, all addresses go into the tunnel, those of the
exclusions too. -/
theorem exclusions_tunneled :
    ∃ table d, plainAndroid.startVpn 33 siteConfig = .ok table ∧
      d ∈ coverOf (plainAndroid.exclusions siteConfig) ∧ Tunneled table d := by
  obtain ⟨table, htable⟩ : ∃ table, plainAndroid.buildVpnInterface 33
      (includeAll [default4] ++ excludeAll []) = .ok table := ⟨_, rfl⟩
  refine ⟨table, (ipv4 192 168 1 5).ip, startVpn_site.trans htable, ?_, ?_⟩
  · exact ⟨lan, mem_singleton_self _, by decide⟩
  · refine (tunneled_iff plainAndroid (.inl rfl) htable).mpr ⟨default4, by decide, by decide, ?_⟩
    exact fun _ h => nomatch h

end Dopamine.Android
