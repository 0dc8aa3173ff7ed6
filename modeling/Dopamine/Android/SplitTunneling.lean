import Dopamine.Android.Routes

/-!
# The included and the excluded networks of a config

Whatever the config says, its routes are some included networks and then some excluded ones, and
there are excluded ones only if all networks of the config itself are default routes
(`processed_routes`). For older versions of Android they become a list of subnets (`old_routes`).
-/

namespace Dopamine.Android

open Intervals InetNetwork List Function BigEndian IpAddress Fallible Except

/-! ## Some networks -/

variable {d a : IpAddress} {n : InetNetwork} {config : Config} {b b' : Builder}
  {own l excluded included : List InetNetwork} {r : Route} {sdk : ℕ} {routes : List Route}
  {D : Set IpAddress} {nets : List Network}

theorem default4_covers : default4.covers d = true ↔ d.size = 4 := by
  rw [covers_iff]
  refine and_iff_left_of_imp fun hsize => Nat.div_eq_of_lt (d.value_lt.trans_eq ?_)
  rw [hsize]
  rfl

theorem default6_covers : default6.covers d = true ↔ d.size = 16 := by
  rw [covers_iff]
  refine and_iff_left_of_imp fun hsize => Nat.div_eq_of_lt (d.value_lt.trans_eq ?_)
  rw [hsize]
  rfl

theorem global6_covers : global6.covers d = true ↔ d.size = 16 ∧ d.value / 2 ^ 125 = 1 := by
  rw [covers_iff]
  show d.size = 16 ∧ d.value / 2 ^ 125 = (ipv6 0x20 0).ip.value / 2 ^ 125 ↔ _
  rw [show (ipv6 0x20 0).ip.value / 2 ^ 125 = 1 by decide]

theorem loopback4_covers : loopback4.covers d = true ↔ d.size = 4 ∧ d.value / 2 ^ 24 = 127 := by
  rw [covers_iff]
  show d.size = 4 ∧ d.value / 2 ^ 24 = (ipv4 127 0 0 0).ip.value / 2 ^ 24 ↔ _
  rw [show (ipv4 127 0 0 0).ip.value / 2 ^ 24 = 127 by decide]

theorem loopback6_covers : loopback6.covers d = true ↔ d.size = 16 ∧ d.value = 1 := by
  have hbits : loopback6.address.ip.maxMask - loopback6.mask.toNat = 0 := by decide
  have hvalue : loopback6.address.ip.value = 1 := by decide
  rw [covers_iff, hbits, pow_zero, Nat.div_one, Nat.div_one, hvalue]
  rfl

/-- `::1/128` holds its own address only. -/
theorem eq_loopback6_iff {a : InetAddress} :
    a = loopback6.address ↔ loopback6.covers a.ip = true := by
  rw [loopback6_covers]
  constructor
  · rintro rfl
    exact ⟨rfl, by decide⟩
  · rintro ⟨hsize, hvalue⟩
    have hip : a.ip = loopback6.address.ip := ext_value hsize (hvalue.trans (by decide))
    obtain ⟨ip, _⟩ := a
    obtain rfl : ip = _ := hip
    rfl

/-- The first byte of an IPv4 address. -/
theorem head_eq_iff (h : a.size = 4) : a.address.head? = some 127 ↔ loopback4.covers a = true := by
  rw [loopback4_covers, and_iff_right h]
  obtain ⟨l, hl⟩ := a
  cases l with
  | nil => cases show 0 = 4 from h
  | cons b rest =>
    have hlen : rest.length = 3 := Nat.succ.inj h
    have hlt := value_lt rest
    have hvalue : BigEndian.value (b :: rest) / 2 ^ 24 = b.toNat := by
      rw [value_cons]
      rw [hlen] at hlt ⊢
      omega
    show some b = some 127 ↔ BigEndian.value (b :: rest) / 2 ^ 24 = 127
    rw [hvalue, Option.some_inj, ← UInt8.toNat_inj]
    rfl

/-- The IPv4-mapped addresses are those of `::ffff:0:0/96`. -/
theorem isMapped_iff : a.isMapped = true ↔ a.size = 16 ∧ a.value / 2 ^ 32 = 0xffff := by
  have hvalue : a.size = 16 → a.value / 2 ^ 32 = BigEndian.value (a.address.take 12) := by
    intro hsize
    have hsize : a.address.length = 16 := hsize
    have hlt := value_lt (a.address.drop 12)
    have hsplit := value_append (a.address.take 12) (a.address.drop 12)
    rw [take_append_drop] at hsplit
    rw [length_drop, hsize] at hsplit hlt
    show BigEndian.value a.address / 2 ^ 32 = _
    omega
  constructor
  · intro h
    have hsize := size_of_isMapped h
    refine ⟨hsize, ?_⟩
    rw [hvalue hsize, beq_iff_eq.mp h]
    decide
  · rintro ⟨hsize, h⟩
    rw [hvalue hsize] at h
    have hsize : a.address.length = 16 := hsize
    refine beq_iff_eq.mpr (value_inj ?_ (h.trans ?_))
    · rw [length_take, hsize]
      rfl
    · decide

/-- A network that is not mapped is read back as it is. -/
theorem toInet_eq {n : Network} (h : n.address.isMapped = false) :
    n.toInet = ⟨⟨n.address, h⟩, n.mask⟩ := by
  rw [Network.toInet, InetAddress.ofIp, dif_neg (Bool.eq_false_iff.mp h)]

theorem toInet_covers {n : Network} (h : n.address.isMapped = false) :
    n.toInet.covers d = true ↔ d ∈ n.addresses := by
  rw [toInet_eq h, covers_iff]
  rfl

/-- Numbers that agree on some high bits agree on fewer of them. -/
theorem div_pow_eq_of_le {x y j k : ℕ} (hjk : j ≤ k) (h : x / 2 ^ j = y / 2 ^ j) :
    x / 2 ^ k = y / 2 ^ k := by
  obtain ⟨i, rfl⟩ : ∃ i, k = j + i := ⟨_, (Nat.add_sub_cancel' hjk).symm⟩
  rw [pow_add, ← Nat.div_div_eq_div_mul, ← Nat.div_div_eq_div_mul, h]

/-- Of two networks that share an address, the one with the shorter prefix covers all addresses of
the other. -/
theorem covers_of_mask_le {e i : InetNetwork} (he : e.covers d = true) (hi : i.covers d = true)
    (hmask : e.mask.toNat ≤ i.mask.toNat) (ha : i.covers a = true) : e.covers a = true := by
  rw [covers_iff] at he hi ha ⊢
  have hmaxMask : i.address.ip.maxMask = e.address.ip.maxMask :=
    congrArg (· * 8) (hi.1.symm.trans he.1)
  refine ⟨(ha.1.trans hi.1.symm).trans he.1, ?_⟩
  rw [← he.2]
  exact div_pow_eq_of_le (by omega) (ha.2.trans hi.2.symm)

theorem covers_self (n : InetNetwork) : n.covers n.address.ip = true := covers_iff.mpr ⟨rfl, rfl⟩

/-! ## The builder before `configBuild` -/

/-- What the functions before `configBuild` leave: the routes are those of the config itself, `own`;
there are lists of sites only if these are default routes, and not both of them. -/
structure Configured (b : Builder) (own : List InetNetwork) : Prop where
  routes_eq : b.routes = includeAll own
  own_nodup : own.Nodup
  default_of_allow : b.allowSplitTunneling = true → ∀ n ∈ own, n = default4 ∨ n = default6
  included_nodup : b.includedAddresses.Nodup
  excluded_nodup : b.excludedAddresses.Nodup
  exclusive : b.includedAddresses = [] ∨ b.excludedAddresses = []
  prohibited : b.allowSplitTunneling = false →
    b.includedAddresses = [] ∧ b.excludedAddresses = []

variable {android : Device}

theorem configWireguard_spec (h : android.configWireguard config = .ok b) :
    ∃ own, Configured b own ∧ b.includedAddresses = [] ∧ b.excludedAddresses = [] := by
  obtain ⟨addresses, -, h⟩ := bind_eq_ok.mp h
  obtain ⟨allowed, -, h⟩ := bind_eq_ok.mp h
  obtain ⟨mtu, -, h⟩ := bind_eq_ok.mp h
  obtain ⟨_, -, h⟩ := bind_eq_ok.mp h
  obtain rfl := ok.inj h
  have hperm := android.hashOrder_perm (addAll [] allowed)
  refine ⟨android.hashOrder (addAll [] allowed), ⟨rfl, ?_, fun hallow n hn => ?_, nodup_nil,
    nodup_nil, .inl rfl, fun _ => ⟨rfl, rfl⟩⟩, rfl, rfl⟩
  · exact hperm.nodup_iff.mpr (nodup_addAll nodup_nil)
  · have := all_eq_true.mp hallow n (hperm.mem_iff.mp hn)
    simpa using this

theorem configSplitTunneling_spec (hb : Configured b own) (hincluded : b.includedAddresses = [])
    (hexcluded : b.excludedAddresses = []) (h : android.configSplitTunneling config b = .ok b') :
    Configured b' own := by
  unfold Device.configSplitTunneling at h
  by_cases hallow : b.allowSplitTunneling = false
  · rw [if_pos hallow] at h
    exact ok.inj h ▸ hb
  rw [if_neg hallow] at h
  split at h
  · exact ok.inj h ▸ hb
  split at h
  · obtain ⟨sites, -, h⟩ := bind_eq_ok.mp h
    obtain rfl := ok.inj h
    exact ⟨hb.routes_eq, hb.own_nodup, hb.default_of_allow, nodup_addAll hb.included_nodup,
      hb.excluded_nodup, .inr hexcluded, fun hfalse => absurd hfalse hallow⟩
  split at h
  · obtain ⟨sites, -, h⟩ := bind_eq_ok.mp h
    obtain rfl := ok.inj h
    exact ⟨hb.routes_eq, hb.own_nodup, hb.default_of_allow, hb.included_nodup,
      nodup_addAll hb.excluded_nodup, .inl hincluded, fun hfalse => absurd hfalse hallow⟩
  · cases h

theorem configure_spec (h : android.configure config = .ok b) : ∃ own, Configured b own := by
  obtain ⟨b₀, hb₀, h⟩ := bind_eq_ok.mp h
  obtain ⟨own, hconfigured, hincluded, hexcluded⟩ := configWireguard_spec hb₀
  exact ⟨own, configSplitTunneling_spec hconfigured hincluded hexcluded h⟩

/-- The three ways in which the local subnet exclusions are used. -/
inductive Excluding (android : Device) (b : Builder) (own exclusions : List InetNetwork) :
    Builder → List InetNetwork → Prop where
  | none (h : exclusions = []) : Excluding android b own exclusions b own
  | sites {nets : List Network} (h : exclusions ≠ []) (hincluded : b.includedAddresses ≠ [])
      (htiles : Tiles (coverOf b.includedAddresses \ coverOf exclusions) nets) :
      Excluding android b own exclusions
        { b with includedAddresses := addAll [] (nets.map Network.toInet) } own
  | routes {nets : List Network} (h : exclusions ≠ []) (hallow : b.allowSplitTunneling = false)
      (htiles : Tiles (coverOf own \ coverOf exclusions) nets) :
      Excluding android b own exclusions
        { b with routes := includeAll (addAll [] (nets.map Network.toInet)) }
        (addAll [] (nets.map Network.toInet))
  | exclude (h : exclusions ≠ []) (hincluded : b.includedAddresses = [])
      (hallow : b.allowSplitTunneling = true) :
      Excluding android b own exclusions
        { b with excludedAddresses := addAll b.excludedAddresses exclusions } own

theorem coverOf_perm {l' : List InetNetwork} (h : l.Perm l') : coverOf l = coverOf l' := by
  ext d
  simp only [mem_coverOf, h.mem_iff]

theorem addAll_includeAll (l l' : List InetNetwork) :
    addAll (includeAll l) (includeAll l') = includeAll (addAll l l') := by
  induction l' generalizing l with
  | nil => rfl
  | cons n l' ih =>
    have hmem : (⟨n, true⟩ : Route) ∈ includeAll l ↔ n ∈ l := by
      simp [includeAll]
    show addAll (if (⟨n, true⟩ : Route) ∈ includeAll l then includeAll l
      else includeAll l ++ [⟨n, true⟩]) (includeAll l') =
      includeAll (addAll (if n ∈ l then l else l ++ [n]) l')
    by_cases hn : n ∈ l
    · rw [if_pos hn, if_pos (hmem.mpr hn)]
      exact ih l
    · rw [if_neg hn, if_neg (hmem.not.mpr hn)]
      exact (congrArg (addAll · (includeAll l')) (by simp [includeAll])).trans (ih (l ++ [n]))

theorem addAll_nil_includeAll (l : List InetNetwork) :
    addAll [] (includeAll l) = includeAll (addAll [] l) :=
  addAll_includeAll [] l

theorem configLocalSubnetExclusions_spec (hb : Configured b own)
    (h : android.configLocalSubnetExclusions config b = .ok b') :
    ∃ own', Excluding android b own (android.exclusions config) b' own' := by
  unfold Device.configLocalSubnetExclusions at h
  by_cases hnone : android.exclusions config = []
  · rw [if_pos hnone] at h
    exact ⟨own, ok.inj h ▸ .none hnone⟩
  rw [if_neg hnone] at h
  by_cases hincluded : b.includedAddresses = []
  swap
  · rw [if_pos hincluded] at h
    obtain ⟨rest, hrest, h⟩ := bind_eq_ok.mp h
    obtain ⟨nets, rfl, htiles⟩ := subtract_spec hrest
    rw [coverOf_perm (android.hashOrder_perm _)] at htiles
    exact ⟨own, ok.inj h ▸ .sites hnone hincluded htiles⟩
  rw [if_neg (not_not.mpr hincluded)] at h
  by_cases hallow : b.allowSplitTunneling = false
  · rw [if_pos hallow] at h
    obtain ⟨rest, hrest, h⟩ := bind_eq_ok.mp h
    obtain ⟨nets, rfl, htiles⟩ := subtract_spec hrest
    -- all routes are included ones
    have hall : (b.routes.filter fun r => r.included).map Route.inetNetwork = own := by
      rw [hb.routes_eq, includeAll, filter_map, map_map]
      simp [comp_def]
    have hkeep : (b.routes.filter fun r => !r.included) = [] := by
      rw [hb.routes_eq, includeAll, filter_map]
      simp [comp_def]
    rw [hall] at htiles
    rw [hkeep, addAll_nil_includeAll] at h
    exact ⟨_, ok.inj h ▸ Excluding.routes hnone hallow htiles⟩
  · rw [if_neg hallow] at h
    exact ⟨own, ok.inj h ▸ .exclude hnone hincluded ((Bool.not_eq_false _).mp hallow)⟩

/-- The builder is still as `configBuild` needs it. -/
theorem Excluding.configured {own' exclusions : List InetNetwork} (hb : Configured b own)
    (h : Excluding android b own exclusions b' own') : Configured b' own' := by
  cases h with
  | none => exact hb
  | sites _ hincluded _ =>
    have hexcluded := hb.exclusive.resolve_left hincluded
    exact ⟨hb.routes_eq, hb.own_nodup, hb.default_of_allow, nodup_addAll nodup_nil,
      hb.excluded_nodup, .inr hexcluded, fun hfalse => absurd (hb.prohibited hfalse).1 hincluded⟩
  | routes _ hallow _ =>
    exact ⟨rfl, nodup_addAll nodup_nil, fun htrue => Bool.noConfusion (hallow.symm.trans htrue),
      hb.included_nodup, hb.excluded_nodup, hb.exclusive, hb.prohibited⟩
  | exclude _ hincluded hallow =>
    exact ⟨hb.routes_eq, hb.own_nodup, hb.default_of_allow, hb.included_nodup,
      nodup_addAll hb.excluded_nodup, .inl hincluded,
      fun hfalse => Bool.noConfusion (hfalse.symm.trans hallow)⟩

/-! ## The routes that are built -/

/-- The networks of a list, with `2000::/3` in the place of `::/0`. -/
def replaced (l : List InetNetwork) : List InetNetwork :=
  if default6 ∈ l then addAll [global6] (l.filter fun n => n ≠ default6) else l

/-- The networks that are not loopback ones. -/
def kept (l : List InetNetwork) : List InetNetwork := l.filter fun n => !isLoopback n

/-- The networks that are included: the sites if there are any, all addresses if there are excluded
ones, and the networks of the config itself otherwise. -/
def scope (android : Device) (b : Builder) (own : List InetNetwork) : List InetNetwork :=
  if b.includedAddresses ≠ [] then replaced (android.hashOrder b.includedAddresses)
  else if b.excludedAddresses ≠ [] then
    if default6 ∈ own then [global6, default4] else [default4]
  else replaced own

theorem mem_includeAll : r ∈ includeAll l ↔ r.included = true ∧ r.inetNetwork ∈ l := by
  obtain ⟨n, included⟩ := r
  cases included <;> simp [includeAll]

theorem mem_excludeAll : r ∈ excludeAll l ↔ r.included = false ∧ r.inetNetwork ∈ l := by
  obtain ⟨n, included⟩ := r
  cases included <;> simp [excludeAll]

theorem filter_includeAll (p : Route → Bool) (l : List InetNetwork) :
    (includeAll l).filter p = includeAll (l.filter fun n => p ⟨n, true⟩) := by
  rw [includeAll, filter_map]
  rfl

theorem hashOrder_nil (android : Device) : android.hashOrder [] = [] :=
  (android.hashOrder_perm []).eq_nil

theorem replaceDefault6_includeAll (l : List InetNetwork) :
    replaceDefault6 (includeAll l) = includeAll (replaced l) := by
  have hmem : (⟨default6, true⟩ : Route) ∈ includeAll l ↔ default6 ∈ l := by
    simp [mem_includeAll]
  rw [replaceDefault6, replaced]
  by_cases h : default6 ∈ l
  · have hfilter : (includeAll l).filter (fun r => r ≠ ⟨default6, true⟩) =
        includeAll (l.filter fun n => n ≠ default6) := by
      rw [filter_includeAll]
      simp
    rw [if_pos h, if_pos (hmem.mpr h), hfilter]
    exact addAll_includeAll [global6] _
  · rw [if_neg h, if_neg (hmem.not.mpr h)]

theorem filter_concat_ne {r : Route} {l : List Route} (h : r ∉ l) :
    (l ++ [r]).filter (fun r' => r' ≠ r) = l := by
  rw [filter_append, filter_eq_self.mpr]
  · simp
  · exact fun r' hr' => decide_eq_true fun heq => h (heq ▸ hr')

/-- The default routes of a config that has excluded networks, after `processSplitTunneling`. -/
theorem replaceDefault6_excludeAll (hown : own.Nodup)
    (hdefault : ∀ n ∈ own, n = default4 ∨ n = default6) (hexcluded : excluded.Nodup) :
    replaceDefault6 (addAll (addAll [] ([⟨default4, true⟩] ++
      (if ((includeAll own).any fun r => r.included && !r.inetNetwork.isIpv4) = true
        then [⟨global6, true⟩] else []) ++ excludeAll excluded)) (includeAll own)) =
      includeAll (if default6 ∈ own then [global6, default4] else [default4]) ++
        excludeAll excluded := by
  have hany : ((includeAll own).any fun r => r.included && !r.inetNetwork.isIpv4) = true ↔
      default6 ∈ own := by
    rw [any_eq_true]
    constructor
    · rintro ⟨r, hr, h⟩
      obtain ⟨-, hr⟩ := mem_includeAll.mp hr
      rcases hdefault _ hr with heq | heq
      · rw [heq, show default4.isIpv4 = true from rfl, Bool.not_true, Bool.and_false] at h
        cases h
      · exact heq ▸ hr
    · intro h
      exact ⟨⟨default6, true⟩, mem_includeAll.mpr ⟨rfl, h⟩, rfl⟩
  have hexcl : (excludeAll excluded).Nodup := hexcluded.map fun _ _ h => congrArg Route.inetNetwork h
  have hnot : ∀ n : InetNetwork, (⟨n, true⟩ : Route) ∉ excludeAll excluded := fun n h =>
    absurd (mem_excludeAll.mp h).1 Bool.noConfusion
  have hown' : (includeAll own).Nodup := hown.map fun _ _ h => congrArg Route.inetNetwork h
  by_cases h6 : default6 ∈ own
  · -- `2000::/3` is there when `::/0` is replaced, and moves to the front
    have hfirst : ([(⟨default4, true⟩ : Route)] ++ [(⟨global6, true⟩ : Route)] ++
        excludeAll excluded).Nodup := by
      simp only [cons_append, nil_append, nodup_cons, mem_cons, hnot, or_false]
      exact ⟨by decide, not_false, hexcl⟩
    have hrest : (includeAll own).filter
        (fun r => r ∉ [⟨default4, true⟩] ++ [⟨global6, true⟩] ++ excludeAll excluded) =
        [⟨default6, true⟩] := by
      have hone : own.filter (fun n => n = default6) = [default6] := by
        rw [filter_eq, count_eq_one_of_mem hown h6]
        rfl
      rw [filter_includeAll, ← show includeAll [default6] = [⟨default6, true⟩] from rfl, ← hone]
      congr 1
      refine filter_congr fun n hn => ?_
      rcases hdefault n hn with rfl | rfl
      · simp [show default4 ≠ default6 by decide]
      · simp [hnot, show default6 ≠ default4 by decide, show default6 ≠ global6 by decide]
    rw [if_pos (hany.mpr h6), if_pos h6, addAll_nil_of_nodup hfirst, addAll_eq hown', hrest,
      replaceDefault6, if_pos (by simp), filter_concat_ne (by simp [hnot,
        show default6 ≠ default4 by decide, show default6 ≠ global6 by decide]), addAll_eq hfirst]
    have hall : (excludeAll excluded).filter (fun r => r ∉ [(⟨global6, true⟩ : Route)]) =
        excludeAll excluded := by
      refine filter_eq_self.mpr fun r hr => decide_eq_true fun h => ?_
      exact hnot _ (mem_singleton.mp h ▸ hr)
    rw [filter_append, hall]
    rfl
  · have hfirst : ([(⟨default4, true⟩ : Route)] ++ [] ++ excludeAll excluded).Nodup := by
      simp only [append_nil, singleton_append, nodup_cons]
      exact ⟨hnot _, hexcl⟩
    have hrest : (includeAll own).filter
        (fun r => r ∉ [⟨default4, true⟩] ++ [] ++ excludeAll excluded) = [] := by
      refine filter_eq_nil_iff.mpr fun r hr => ?_
      obtain ⟨hincluded, hmem⟩ := mem_includeAll.mp hr
      have hn : r.inetNetwork = default4 := (hdefault _ hmem).resolve_right fun h => h6 (h ▸ hmem)
      have hr : r = ⟨default4, true⟩ := by
        rw [← hn, ← hincluded]
      simp [hr]
    rw [if_neg (hany.not.mpr h6), if_neg h6, addAll_nil_of_nodup hfirst, addAll_eq hown', hrest,
      replaceDefault6, if_neg]
    · simp [includeAll]
    · simp [hnot, show default6 ≠ default4 by decide]

/-- The routes after `processSplitTunneling`, with `::/0` replaced: included networks and then
excluded ones. -/
theorem processed_routes (android : Device) (hb : Configured b own) :
    ∃ b', b.processSplitTunneling android = .ok b' ∧
      b'.addresses = b.addresses ∧ b'.mtu = b.mtu ∧
      replaceDefault6 b'.routes = includeAll (scope android b own) ++
        excludeAll (android.hashOrder b.excludedAddresses) := by
  unfold Builder.processSplitTunneling scope
  by_cases hincluded : b.includedAddresses = []
  swap
  · have hexcluded := hb.exclusive.resolve_left hincluded
    have hallow : b.allowSplitTunneling = true := by
      rw [← Bool.not_eq_false]
      exact fun h => hincluded (hb.prohibited h).1
    rw [if_neg fun h => h.2 hexcluded, if_pos hincluded, if_pos hincluded, hexcluded, hashOrder_nil]
    refine ⟨_, rfl, rfl, rfl, ?_⟩
    -- the routes of the config itself are default routes
    have hrest : (((b.routes.filter fun r => r.inetNetwork ≠ default4).filter
        fun r => r.inetNetwork ≠ default6).filter fun r => r.inetNetwork ≠ global6) = [] := by
      rw [filter_filter, filter_filter, hb.routes_eq]
      refine filter_eq_nil_iff.mpr fun r hr => ?_
      rcases hb.default_of_allow hallow _ (mem_includeAll.mp hr).2 with h | h <;> simp [h]
    have hnodup : (android.hashOrder b.includedAddresses).Nodup :=
      (android.hashOrder_perm _).nodup_iff.mpr hb.included_nodup
    refine (congrArg (fun l => replaceDefault6 (addAll _ l)) hrest).trans ?_
    show replaceDefault6 (addAll [] (includeAll (android.hashOrder b.includedAddresses))) = _
    rw [addAll_nil_includeAll, addAll_nil_of_nodup hnodup, replaceDefault6_includeAll]
    exact (append_nil _).symm
  rw [if_neg fun h => h.1 hincluded, if_neg (not_not.mpr hincluded),
    if_neg (not_not.mpr hincluded)]
  by_cases hexcluded : b.excludedAddresses = []
  · rw [if_neg (not_not.mpr hexcluded), if_neg (not_not.mpr hexcluded), hexcluded, hashOrder_nil]
    refine ⟨b, rfl, rfl, rfl, ?_⟩
    rw [hb.routes_eq, replaceDefault6_includeAll]
    exact (append_nil _).symm
  · have hallow : b.allowSplitTunneling = true := by
      rw [← Bool.not_eq_false]
      exact fun h => hexcluded (hb.prohibited h).2
    rw [if_pos hexcluded, if_pos hexcluded]
    refine ⟨_, rfl, rfl, rfl, ?_⟩
    have hnodup : (android.hashOrder b.excludedAddresses).Nodup :=
      (android.hashOrder_perm _).nodup_iff.mpr hb.excluded_nodup
    show replaceDefault6 (addAll (addAll [] ([⟨default4, true⟩] ++
      (if (b.routes.any fun r => r.included && !r.inetNetwork.isIpv4) = true
        then [⟨global6, true⟩] else []) ++ excludeAll (android.hashOrder b.excludedAddresses)))
      b.routes) = _
    rw [hb.routes_eq]
    exact replaceDefault6_excludeAll hb.own_nodup (hb.default_of_allow hallow) hnodup

/-! ## `processRoutes` -/

/-- Routes are handed on as they are, but for loopback networks, if excluded ones are known to the
system or there are none. -/
theorem processRoutes_eq
    (hroutes : replaceDefault6 routes = includeAll included ++ excludeAll excluded)
    (hsdk : excluded = [] ∨ tiramisu ≤ sdk) :
    processRoutes sdk routes = .ok (includeAll (kept included) ++ excludeAll excluded) := by
  have hcond : ¬(sdk < tiramisu ∧
      ((includeAll included ++ excludeAll excluded).any fun r => !r.included) = true) := by
    rintro ⟨hlt, hany⟩
    rcases hsdk with rfl | hle
    · obtain ⟨r, hr, h⟩ := any_eq_true.mp hany
      rw [excludeAll, map_nil, append_nil] at hr
      rw [(mem_includeAll.mp hr).1] at h
      cases h
    · exact absurd hlt (not_lt.mpr hle)
  have hexcluded : (excludeAll excluded).filter
      (fun r => !(r.included && isLoopback r.inetNetwork)) = excludeAll excluded := by
    refine filter_eq_self.mpr fun r hr => ?_
    rw [(mem_excludeAll.mp hr).1]
    rfl
  rw [processRoutes, hroutes, usableRoutes, if_neg hcond]
  show ok _ = _
  rw [filter_append, hexcluded, filter_includeAll, kept]
  simp

/-- For older versions of Android the routes are the networks of what is left without the excluded
ones and the loopback addresses. -/
theorem processRoutes_old {out : List Route}
    (hroutes : replaceDefault6 routes = includeAll included ++ excludeAll excluded)
    (hsdk : sdk < tiramisu) (hexcluded : excluded ≠ []) (h : processRoutes sdk routes = .ok out) :
    ∃ nets : List Network, out = includeAll (kept (addAll [] (nets.map Network.toInet))) ∧
      Tiles (coverOf included \ coverOf (excluded ++ [loopback4, loopback6])) nets ∧
      ∀ n ∈ excluded, -8 < n.mask := by
  have hcond : sdk < tiramisu ∧
      ((includeAll included ++ excludeAll excluded).any fun r => !r.included) = true := by
    obtain ⟨n, hn⟩ := exists_mem_of_ne_nil _ hexcluded
    refine ⟨hsdk, any_eq_true.mpr ⟨⟨n, false⟩, ?_, rfl⟩⟩
    exact mem_append_right _ (mem_excludeAll.mpr ⟨rfl, hn⟩)
  rw [processRoutes, hroutes] at h
  obtain ⟨list, hlist, h⟩ := bind_eq_ok.mp h
  rw [usableRoutes, if_pos hcond] at hlist
  obtain ⟨set₁, h₁, hlist⟩ := bind_eq_ok.mp hlist
  obtain ⟨set₂, h₂, hlist⟩ := bind_eq_ok.mp hlist
  obtain ⟨set₃, h₃, hlist⟩ := bind_eq_ok.mp hlist
  obtain ⟨nets, hnets, hlist⟩ := bind_eq_ok.mp hlist
  -- the loopback networks are excluded like the others
  have hall : (includeAll included ++ excludeAll (excluded ++ [loopback4, loopback6])).foldlM
      applyRoute IpRangeSet.empty = .ok set₃ := by
    rw [show includeAll included ++ excludeAll (excluded ++ [loopback4, loopback6]) =
      (includeAll included ++ excludeAll excluded) ++ [⟨loopback4, false⟩, ⟨loopback6, false⟩] by
        simp [excludeAll], foldlM_append, h₁]
    show ([⟨loopback4, false⟩, ⟨loopback6, false⟩] : List Route).foldlM applyRoute set₁ = _
    rw [foldlM_cons, h₂]
    show ([⟨loopback6, false⟩] : List Route).foldlM applyRoute set₂ = _
    rw [foldlM_cons, h₃]
    rfl
  obtain ⟨hnormal, hcover⟩ := cover_of_foldlM hall
  obtain ⟨tiles, htiles, hspec⟩ := IpRangeSet.exists_tiles hnormal
  rw [hcover] at hspec
  obtain rfl : tiles.map Network.toInet = nets := ok.inj (htiles.symm.trans hnets)
  refine ⟨tiles, ?_, hspec, fun n hn => ?_⟩
  swap
  · have hmem : (⟨n, false⟩ : Route) ∈ includeAll included ++ excludeAll excluded :=
      mem_append_right _ (mem_excludeAll.mpr ⟨rfl, hn⟩)
    exact mask_of_foldlM h₁ _ hmem
  rw [← ok.inj h, ← ok.inj hlist, addAll_nil_includeAll, filter_includeAll, kept]
  simp

/-- The networks of the routes can be made into ranges. -/
theorem exists_processRoutes (sdk : ℕ)
    (hroutes : replaceDefault6 routes = includeAll included ++ excludeAll excluded)
    (hincluded : ∀ n ∈ included, -8 < n.mask) (hexcluded : ∀ n ∈ excluded, -8 < n.mask) :
    ∃ out, processRoutes sdk routes = .ok out := by
  have hall : ∀ r ∈ includeAll included ++ excludeAll excluded, -8 < r.inetNetwork.mask := by
    intro r hr
    rcases mem_append.mp hr with hr | hr
    · exact hincluded _ (mem_includeAll.mp hr).2
    · exact hexcluded _ (mem_excludeAll.mp hr).2
  have husable : ∃ out, usableRoutes sdk (replaceDefault6 routes) = .ok out := by
    rw [hroutes, usableRoutes]
    split
    · obtain ⟨set₁, h₁⟩ := exists_foldlM_applyRoute IpRangeSet.empty hall
      obtain ⟨set₂, h₂⟩ := exists_applyRoute set₁ (r := ⟨loopback4, false⟩) (by decide)
      obtain ⟨set₃, h₃⟩ := exists_applyRoute set₂ (r := ⟨loopback6, false⟩) (by decide)
      have hnormal := (cover_of_foldlM h₁).1
      have hnormal := (applyRoute_spec hnormal h₂).1
      have hnormal := (applyRoute_spec hnormal h₃).1
      obtain ⟨nets, hnets, -⟩ := IpRangeSet.exists_tiles hnormal
      exact ⟨_, bind_eq_ok.mpr ⟨set₁, h₁, bind_eq_ok.mpr ⟨set₂, h₂, bind_eq_ok.mpr ⟨set₃, h₃,
        bind_eq_ok.mpr ⟨_, hnets, rfl⟩⟩⟩⟩⟩
    · exact ⟨_, rfl⟩
  obtain ⟨out, hout⟩ := husable
  exact ⟨_, bind_eq_ok.mpr ⟨out, hout, rfl⟩⟩

/-! ## `configBuild` -/

theorem validate_iff (b : Builder) :
    b.validate = .ok () ↔ b.addresses ≠ [] ∧ b.routes ≠ [] ∧ b.mtu ≠ 0 := by
  unfold Builder.validate
  by_cases haddresses : b.addresses = [] <;> by_cases hroutes : b.routes = [] <;>
    by_cases hmtu : b.mtu = 0 <;> simp [haddresses, hroutes, hmtu]

/-- What `configBuild` makes of the builder is what `processRoutes` makes of included networks and
then excluded ones. -/
theorem configBuild_iff (android : Device) (hb : Configured b own) :
    ∃ base, replaceDefault6 base = includeAll (scope android b own) ++
        excludeAll (android.hashOrder b.excludedAddresses) ∧
      ∀ {sdk : ℕ} {routes : List Route}, b.configBuild android sdk = .ok routes ↔
        processRoutes sdk base = .ok routes ∧ b.addresses ≠ [] ∧ routes ≠ [] ∧ b.mtu ≠ 0 := by
  obtain ⟨b', hb', haddresses, hmtu, hroutes⟩ := processed_routes android hb
  refine ⟨b'.routes, hroutes, fun {sdk routes} => ?_⟩
  have hvalid : ∀ out, { b' with routes := out }.validate = .ok () ↔
      b.addresses ≠ [] ∧ out ≠ [] ∧ b.mtu ≠ 0 := by
    intro out
    rw [← haddresses, ← hmtu]
    exact validate_iff { b' with routes := out }
  constructor
  · intro h
    obtain ⟨b₁, hb₁, h⟩ := bind_eq_ok.mp h
    obtain rfl : b' = b₁ := ok.inj (hb'.symm.trans hb₁)
    obtain ⟨out, hout, h⟩ := bind_eq_ok.mp h
    obtain ⟨_, hunit, h⟩ := bind_eq_ok.mp h
    obtain rfl : out = routes := ok.inj h
    exact ⟨hout, (hvalid out).mp hunit⟩
  · rintro ⟨hout, h⟩
    exact bind_eq_ok.mpr ⟨b', hb', bind_eq_ok.mpr
      ⟨routes, hout, bind_eq_ok.mpr ⟨(), (hvalid routes).mpr h, rfl⟩⟩⟩

/-- The config without its exclusions, and what comes of the builder with them. -/
theorem parseConfig_spec (h : android.parseConfig sdk config = .ok routes) :
    ∃ b own b' own', android.configure config = .ok b ∧ Configured b own ∧
      android.configLocalSubnetExclusions config b = .ok b' ∧
      Excluding android b own (android.exclusions config) b' own' ∧
      b'.configBuild android sdk = .ok routes := by
  obtain ⟨b, hb, h⟩ := bind_eq_ok.mp h
  obtain ⟨b', hb', h⟩ := bind_eq_ok.mp h
  obtain ⟨own, hconfigured⟩ := configure_spec hb
  obtain ⟨own', hexcluding⟩ := configLocalSubnetExclusions_spec hconfigured hb'
  exact ⟨b, own, b', own', hb, hconfigured, hb', hexcluding, h⟩

/-! ## The networks of a set of addresses, as routes -/

theorem isLoopback_iff :
    isLoopback n = true ↔ loopback4.covers n.address.ip = true ∨ n = loopback6 := by
  rw [isLoopback]
  by_cases hsize : n.address.ip.size = 4
  · have hne : n ≠ loopback6 := fun h => absurd (h ▸ hsize) (by decide)
    have hipv4 : n.isIpv4 = true := beq_iff_eq.mpr hsize
    rw [if_pos hipv4, beq_iff_eq, head_eq_iff hsize, or_iff_left hne]
  · have h4 : ¬loopback4.covers n.address.ip = true := fun h => hsize (loopback4_covers.mp h).1
    have hipv4 : ¬n.isIpv4 = true := fun h => hsize (beq_iff_eq.mp h)
    rw [if_neg hipv4, beq_iff_eq, or_iff_right h4]

theorem isLoopbackAddress_iff {a : InetAddress} :
    a.isLoopbackAddress = true ↔ loopback4.covers a.ip = true ∨ loopback6.covers a.ip = true := by
  rw [InetAddress.isLoopbackAddress]
  by_cases hsize : a.ip.size = 4
  · have h6 : ¬loopback6.covers a.ip = true := fun h =>
      absurd (hsize.symm.trans (loopback6_covers.mp h).1) (by decide)
    rw [if_pos (beq_iff_eq.mpr hsize), beq_iff_eq, head_eq_iff hsize, or_iff_left h6]
  · have h4 : ¬loopback4.covers a.ip = true := fun h => hsize (loopback4_covers.mp h).1
    rw [if_neg fun h => hsize (beq_iff_eq.mp h), beq_iff_eq, or_iff_right h4]
    exact eq_loopback6_iff

theorem mem_kept : n ∈ kept l ↔ n ∈ l ∧ ¬isLoopback n = true := by
  simp [kept]

theorem coverOf_addAll (l : List InetNetwork) : coverOf (addAll [] l) = coverOf l := by
  ext d
  simp [mem_coverOf, mem_addAll]

theorem Network.address_mem (n : Network) : n.address ∈ n.addresses := ⟨rfl, rfl⟩

/-- Networks that are not mapped cover what they hold. -/
theorem Tiles.coverOf_eq (h : Tiles D nets) (hnets : ∀ n ∈ nets, n.address.isMapped = false) :
    coverOf (nets.map Network.toInet) = D := by
  ext d
  rw [h.mem_iff, mem_coverOf]
  constructor
  · rintro ⟨_, hmap, hd⟩
    obtain ⟨n, hn, rfl⟩ := mem_map.mp hmap
    exact ⟨n, hn, (toInet_covers (hnets n hn)).mp hd⟩
  · rintro ⟨n, hn, hd⟩
    exact ⟨n.toInet, mem_map_of_mem hn, (toInet_covers (hnets n hn)).mpr hd⟩

/-- What the routes for older versions of Android cover. -/
theorem Tiles.coverOf_kept (h : Tiles D nets) (hD : ∀ d ∈ D, d.isMapped = false ∧
      ¬loopback4.covers d = true ∧ ¬loopback6.covers d = true) :
    coverOf (kept (addAll [] (nets.map Network.toInet))) = D := by
  have hnets : ∀ n ∈ nets, n.address.isMapped = false := fun n hn =>
    (hD _ (h.mem_iff.mpr ⟨n, hn, n.address_mem⟩)).1
  refine Eq.trans ?_ ((coverOf_addAll _).trans (h.coverOf_eq hnets))
  refine congrArg coverOf (filter_eq_self.mpr fun i hi => ?_)
  obtain ⟨n, hn, rfl⟩ := mem_map.mp ((mem_addAll.mp hi).resolve_left not_mem_nil)
  obtain ⟨hmapped, h4, h6⟩ := hD _ (h.mem_iff.mpr ⟨n, hn, n.address_mem⟩)
  rw [Bool.not_eq_true', Bool.eq_false_iff, toInet_eq hmapped]
  refine fun hi => (isLoopback_iff.mp hi).elim h4 fun heq => h6 ?_
  have hip : n.address = loopback6.address.ip := congrArg (fun n => n.address.ip) heq
  rw [hip]
  decide

/-- With excluded networks the included ones are the default routes. -/
theorem mem_scope_iff (hb : Configured b own) (hexcluded : b.excludedAddresses ≠ []) :
    n ∈ scope android b own ↔ n = default4 ∨ n = global6 ∧ default6 ∈ own := by
  have hincluded := hb.exclusive.resolve_right hexcluded
  rw [scope, if_neg (not_not.mpr hincluded), if_pos hexcluded]
  by_cases h6 : default6 ∈ own
  · rw [if_pos h6, mem_cons, mem_singleton, and_iff_left h6, or_comm]
  · rw [if_neg h6, mem_singleton, or_iff_left fun h => h6 h.2]

theorem mem_scope_of_excluded (hb : Configured b own) (hexcluded : b.excludedAddresses ≠ [])
    (hn : n ∈ scope android b own) : n = default4 ∨ n = global6 :=
  ((mem_scope_iff hb hexcluded).mp hn).imp_right And.left

/-- They are no loopback networks. -/
theorem kept_scope (hb : Configured b own) (hexcluded : b.excludedAddresses ≠ []) :
    kept (scope android b own) = scope android b own := by
  refine filter_eq_self.mpr fun n hn => ?_
  rcases mem_scope_of_excluded hb hexcluded hn with rfl | rfl <;> decide

theorem not_isMapped_of_global6 (h : global6.covers d = true) : d.isMapped = false := by
  obtain ⟨-, hvalue⟩ := global6_covers.mp h
  refine Bool.eq_false_iff.mpr fun hmapped => ?_
  have := (isMapped_iff.mp hmapped).2
  omega

theorem hashOrder_ne_nil (h : l ≠ []) : android.hashOrder l ≠ [] :=
  fun hnil => h (nil_perm.mp (hnil ▸ android.hashOrder_perm l))

/-- With excluded networks, the routes for older versions of Android cover the default routes
without the excluded networks and the loopback addresses. They are given by first addresses. -/
theorem old_routes {b : Builder} {own : List InetNetwork} (hb : Configured b own)
    {base out : List Route} (hbase : replaceDefault6 base = includeAll (scope android b own) ++
      excludeAll (android.hashOrder b.excludedAddresses))
    {sdk : ℕ} (hsdk : sdk < tiramisu) (hexcluded : b.excludedAddresses ≠ [])
    (h : processRoutes sdk base = .ok out) :
    ∃ l, out = includeAll l ∧
      coverOf l = coverOf (scope android b own) \
        coverOf (b.excludedAddresses ++ [loopback4, loopback6]) ∧
      (∀ n ∈ l, android.addRoute n = true) ∧ ∀ e ∈ b.excludedAddresses, -8 < e.mask := by
  obtain ⟨nets, rfl, htiles, hmask⟩ := processRoutes_old hbase hsdk (hashOrder_ne_nil hexcluded) h
  have hperm : (android.hashOrder b.excludedAddresses ++ [loopback4, loopback6]).Perm
      (b.excludedAddresses ++ [loopback4, loopback6]) := (android.hashOrder_perm _).append_right _
  rw [coverOf_perm hperm] at htiles
  have hD : ∀ d ∈ coverOf (scope android b own) \
      coverOf (b.excludedAddresses ++ [loopback4, loopback6]), d.isMapped = false ∧
        ¬loopback4.covers d = true ∧ ¬loopback6.covers d = true := by
    rintro d ⟨⟨n, hn, hcovers⟩, hnot⟩
    refine ⟨?_, fun h => hnot ⟨loopback4, by simp, h⟩, fun h => hnot ⟨loopback6, by simp, h⟩⟩
    rcases mem_scope_of_excluded hb hexcluded hn with rfl | rfl
    · exact isMapped_of_size (default4_covers.mp hcovers)
    · exact not_isMapped_of_global6 hcovers
  refine ⟨_, rfl, htiles.coverOf_kept hD, fun i hi => ?_, fun e he =>
    hmask e ((android.hashOrder_perm _).mem_iff.mpr he)⟩
  obtain ⟨n, hn, rfl⟩ := mem_map.mp
    ((mem_addAll.mp (mem_kept.mp hi).1).resolve_left not_mem_nil)
  obtain ⟨hmapped, h4, h6⟩ := hD _ (htiles.mem_iff.mpr ⟨n, hn, n.address_mem⟩)
  have hfirst : n.address.value / 2 ^ (n.address.maxMask - n.mask) *
      2 ^ (n.address.maxMask - n.mask) = n.address.value := htiles.isFirst n hn
  rw [toInet_eq hmapped]
  refine android.addRoute_of_first _ (Int.natCast_nonneg _) (Int.ofNat_le.mpr n.mask_le) ?_ ?_
  · exact ⟨_, (hfirst.symm.trans (Nat.mul_comm _ _))⟩
  · rw [Bool.eq_false_iff]
    exact fun h => (isLoopbackAddress_iff.mp h).elim h4 h6

end Dopamine.Android
