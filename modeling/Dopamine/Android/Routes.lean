import Dopamine.Android.Protocol
import Dopamine.Fallible.Results

/-!
# What the routes cover

The set of ranges that `subtract` and `processRoutes` build from routes in turn, the networks they
make of it, and the lookup in the routes of the system: an address goes into the tunnel exactly if a
network that is included covers it and is longer than all excluded ones that do (`tunneled_iff`).
-/

namespace Dopamine.Android

open Intervals InetNetwork List Fallible Except

/-! ## Sets -/

section AddAll

variable {α : Type} [DecidableEq α] {set xs : List α}

theorem mem_addAll {x : α} : x ∈ addAll set xs ↔ x ∈ set ∨ x ∈ xs := by
  induction xs generalizing set with
  | nil => simp [addAll]
  | cons y xs ih =>
    have ih : x ∈ addAll (if y ∈ set then set else set ++ [y]) xs ↔
        x ∈ (if y ∈ set then set else set ++ [y]) ∨ x ∈ xs := ih
    rw [addAll, foldl_cons]
    refine ih.trans ?_
    by_cases hy : y ∈ set
    · rw [if_pos hy, mem_cons]
      exact ⟨fun h => h.imp_right .inr, fun h => h.elim .inl fun h => h.elim
        (fun h => .inl (h ▸ hy)) .inr⟩
    · rw [if_neg hy, mem_append, mem_singleton, mem_cons, or_assoc]

theorem mem_addAll_left {x : α} (h : x ∈ set) : x ∈ addAll set xs := mem_addAll.mpr (.inl h)

/-- Elements without duplicates are added as far as they are not in the set. -/
theorem addAll_eq (hxs : xs.Nodup) : addAll set xs = set ++ xs.filter fun x => x ∉ set := by
  induction xs generalizing set with
  | nil => simp [addAll]
  | cons y xs ih =>
    obtain ⟨hy, hxs⟩ := nodup_cons.mp hxs
    rw [addAll, foldl_cons]
    by_cases hmem : y ∈ set
    · rw [if_pos hmem, filter_cons_of_neg (by simpa using hmem)]
      exact ih hxs
    · rw [if_neg hmem, filter_cons_of_pos (by simpa using hmem)]
      refine (ih hxs).trans ?_
      rw [append_assoc, singleton_append]
      congr 2
      refine filter_congr fun x hx => ?_
      have hne : x ≠ y := fun heq => hy (heq ▸ hx)
      simp [hne]

theorem nodup_addAll (hset : set.Nodup) : (addAll set xs).Nodup := by
  induction xs generalizing set with
  | nil => exact hset
  | cons y xs ih =>
    rw [addAll, foldl_cons]
    refine ih ?_
    split
    · exact hset
    · rename_i hy
      exact nodup_append.mpr ⟨hset, nodup_singleton y, fun a ha b hb hab => hy
        (mem_singleton.mp hb ▸ hab ▸ ha)⟩

theorem addAll_nil_of_nodup (hxs : xs.Nodup) : addAll [] xs = xs := by
  rw [addAll_eq hxs]
  simp

end AddAll

/-! ## The addresses of networks -/

variable {r : Route} {n : InetNetwork} {d : IpAddress} {set set' : IpRangeSet} {routes : List Route}

theorem covers_iff :
    n.covers d = true ↔ d.size = n.address.ip.size ∧
      d.value / 2 ^ (n.address.ip.maxMask - n.mask.toNat) =
        n.address.ip.value / 2 ^ (n.address.ip.maxMask - n.mask.toNat) := by
  simp only [InetNetwork.covers, IpPrefix.covers, toPrefix, Bool.and_eq_true, beq_iff_eq]
  refine and_congr_right fun hsize => ?_
  have hmask : d.maxMask = n.address.ip.maxMask := congrArg (· * 8) hsize
  rw [hmask]

/-- The addresses of some networks. -/
def coverOf (l : List InetNetwork) : Set IpAddress := {d | ∃ n ∈ l, n.covers d = true}

theorem mem_coverOf {l : List InetNetwork} : d ∈ coverOf l ↔ ∃ n ∈ l, n.covers d = true := Iff.rfl

@[simp] theorem coverOf_nil : coverOf [] = ∅ := by
  ext d
  simp [mem_coverOf]

theorem coverOf_cons (n : InetNetwork) (l : List InetNetwork) :
    coverOf (n :: l) = {d | n.covers d = true} ∪ coverOf l := by
  ext d
  simp [mem_coverOf]

/-- The range of a network holds the addresses that it covers. -/
theorem points_of_ofNetwork {r : IpRange} (h : IpRange.ofNetwork n = .ok r) :
    r.points = {d | n.covers d = true} := by
  obtain ⟨r', hr', -, -, hpoints⟩ := IpRange.ofAddress_eq (IpRange.mask_of_ofAddress h)
  obtain rfl : r = r' := ok.inj (h.symm.trans hr')
  ext d
  exact (hpoints d).trans covers_iff.symm

theorem exists_ofNetwork (h : -8 < n.mask) : ∃ r, IpRange.ofNetwork n = .ok r :=
  (IpRange.ofAddress_eq h).imp fun _ h => h.1

/-! ## Routes in turn -/

/-- What a route does to a set of addresses. -/
def Route.apply (r : Route) (addresses : Set IpAddress) : Set IpAddress :=
  if r.included then addresses ∪ {d | r.inetNetwork.covers d = true}
  else addresses \ {d | r.inetNetwork.covers d = true}

/-- One route, if it can be applied. -/
theorem applyRoute_spec (hset : Normal set.ranges) (h : applyRoute set r = .ok set') :
    Normal set'.ranges ∧ cover set'.ranges = r.apply (cover set.ranges) := by
  obtain ⟨range, hrange, h⟩ := bind_eq_ok.mp h
  rw [Route.apply, ← points_of_ofNetwork hrange]
  by_cases hincluded : r.included = true
  · rw [if_pos hincluded, IpRangeSet.add_eq] at h
    rw [if_pos hincluded, ← ok.inj h]
    exact ⟨hset.add range, cover_add hset range⟩
  · rw [if_neg hincluded, IpRangeSet.remove_eq] at h
    rw [if_neg hincluded, ← ok.inj h]
    exact ⟨hset.remove range, cover_remove hset range⟩

theorem exists_applyRoute (set : IpRangeSet) (h : -8 < r.inetNetwork.mask) :
    ∃ set', applyRoute set r = .ok set' := by
  obtain ⟨range, hrange⟩ := exists_ofNetwork h
  rw [applyRoute, hrange]
  by_cases hincluded : r.included = true
  · exact ⟨_, (if_pos hincluded).trans (IpRangeSet.add_eq ..)⟩
  · exact ⟨_, (if_neg hincluded).trans (IpRangeSet.remove_eq ..)⟩

/-- The set after routes in turn. -/
theorem foldlM_applyRoute (hset : Normal set.ranges)
    (h : routes.foldlM applyRoute set = .ok set') :
    Normal set'.ranges ∧
      cover set'.ranges = routes.foldl (fun addresses r => r.apply addresses) (cover set.ranges) := by
  induction routes generalizing set with
  | nil =>
    obtain rfl : set = set' := ok.inj h
    exact ⟨hset, rfl⟩
  | cons r routes ih =>
    rw [foldlM_cons] at h
    obtain ⟨next, hnext, h⟩ := bind_eq_ok.mp h
    obtain ⟨hnormal, hcover⟩ := applyRoute_spec hset hnext
    rw [foldl_cons, ← hcover]
    exact ih hnormal h

theorem exists_foldlM_applyRoute (set : IpRangeSet) (h : ∀ r ∈ routes, -8 < r.inetNetwork.mask) :
    ∃ set', routes.foldlM applyRoute set = .ok set' := by
  induction routes generalizing set with
  | nil => exact ⟨set, rfl⟩
  | cons r routes ih =>
    obtain ⟨next, hnext⟩ := exists_applyRoute set (h r mem_cons_self)
    obtain ⟨set', hset'⟩ := ih next fun r hr => h r (mem_cons_of_mem _ hr)
    refine ⟨set', ?_⟩
    rw [foldlM_cons, hnext]
    exact hset'

theorem mask_of_foldlM (h : routes.foldlM applyRoute set = .ok set') :
    ∀ r ∈ routes, -8 < r.inetNetwork.mask := by
  induction routes generalizing set with
  | nil => exact fun _ h => nomatch h
  | cons r routes ih =>
    rw [foldlM_cons] at h
    obtain ⟨next, hnext, h⟩ := bind_eq_ok.mp h
    obtain ⟨range, hrange, -⟩ := bind_eq_ok.mp hnext
    exact forall_mem_cons.mpr ⟨IpRange.mask_of_ofAddress hrange, ih h⟩

variable (l : List InetNetwork)

theorem foldl_apply_includeAll (addresses : Set IpAddress) :
    (includeAll l).foldl (fun addresses r => r.apply addresses) addresses =
      addresses ∪ coverOf l := by
  induction l generalizing addresses with
  | nil => simp [includeAll]
  | cons n l ih =>
    rw [coverOf_cons, ← Set.union_assoc]
    exact ih _

theorem foldl_apply_excludeAll (addresses : Set IpAddress) :
    (excludeAll l).foldl (fun addresses r => r.apply addresses) addresses =
      addresses \ coverOf l := by
  induction l generalizing addresses with
  | nil => simp [excludeAll]
  | cons n l ih =>
    rw [coverOf_cons, ← Set.sdiff_sdiff]
    exact ih _

/-- Included networks and then excluded ones leave the difference. -/
theorem cover_of_foldlM {included excluded : List InetNetwork} {set : IpRangeSet}
    (h : (includeAll included ++ excludeAll excluded).foldlM applyRoute IpRangeSet.empty =
      .ok set) :
    Normal set.ranges ∧ cover set.ranges = coverOf included \ coverOf excluded := by
  have hempty : Normal IpRangeSet.empty.ranges := List.Pairwise.nil
  obtain ⟨hnormal, hcover⟩ := foldlM_applyRoute hempty h
  have hnone : cover IpRangeSet.empty.ranges = ∅ := cover_nil
  rw [hnone, foldl_append, foldl_apply_includeAll, foldl_apply_excludeAll,
    Set.empty_union] at hcover
  exact ⟨hnormal, hcover⟩

/-- `subtract` gives the networks of the difference. -/
theorem subtract_spec {exclusions source rest : List InetNetwork}
    (h : subtract exclusions source = .ok rest) :
    ∃ nets : List Network, rest = nets.map Network.toInet ∧
      Tiles (coverOf source \ coverOf exclusions) nets := by
  obtain ⟨set, hset, h⟩ := bind_eq_ok.mp h
  obtain ⟨hnormal, hcover⟩ := cover_of_foldlM hset
  obtain ⟨nets, hnets, htiles⟩ := IpRangeSet.exists_tiles hnormal
  rw [hcover] at htiles
  exact ⟨nets, ok.inj (h.symm.trans hnets), htiles⟩

/-! ## The lookup -/

theorem canonical_covers : Routing.Canonical IpPrefix.length IpPrefix.covers := by
  intro p p' d h h' hlength
  obtain ⟨size, head, length⟩ := p
  obtain ⟨size', head', length'⟩ := p'
  obtain rfl : length = length' := hlength
  simp only [IpPrefix.covers, Bool.and_eq_true, beq_iff_eq] at h h'
  rw [IpPrefix.mk.injEq]
  exact ⟨h.1.symm.trans h'.1, h.2.symm.trans h'.2, rfl⟩

section Lookup

variable (android : Device) {sdk : ℕ}

/-- The route of the system for a network. -/
def vpnRoute (hop : Bool) (n : InetNetwork) : Routing.Route IpPrefix Bool := ⟨n.toPrefix, 0, hop⟩

variable {l included excluded : List InetNetwork} {table table' : VpnTable}

/-- Routes of one kind are taken if the system takes all of them. -/
theorem foldlM_addVpnRoute {hop : Bool} {accepts : InetNetwork → Bool}
    (hstep : ∀ t n, android.addVpnRoute sdk t ⟨n, hop⟩ =
      if accepts n = true then .ok (t.insert (vpnRoute hop n)) else .error .illegalRoute) :
    (l.map fun n => ⟨n, hop⟩).foldlM (android.addVpnRoute sdk) table = .ok table' ↔
      (∀ n ∈ l, accepts n = true) ∧
        table' = (l.map (vpnRoute hop)).foldl (fun t r => t.insert r) table := by
  induction l generalizing table with
  | nil =>
    exact ⟨fun h => ⟨fun _ h => (nomatch h), (ok.inj h).symm⟩,
      fun h => congrArg ok h.2.symm⟩
  | cons n l ih =>
    rw [map_cons, foldlM_cons, bind_eq_ok, forall_mem_cons, map_cons, foldl_cons, hstep]
    by_cases hn : accepts n = true
    · rw [if_pos hn, and_iff_right hn, ← ih]
      exact ⟨fun ⟨t, ht, h⟩ => ok.inj ht ▸ h, fun h => ⟨_, rfl, h⟩⟩
    · rw [if_neg hn]
      exact ⟨fun ⟨t, ht, _⟩ => (nomatch ht), fun h => absurd h.1.1 hn⟩

theorem foldlM_includeAll :
    (includeAll l).foldlM (android.addVpnRoute sdk) table = .ok table' ↔
      (∀ n ∈ l, android.addRoute n = true) ∧
        table' = (l.map (vpnRoute true)).foldl (fun t r => t.insert r) table :=
  foldlM_addVpnRoute android fun t n => by rw [Device.addVpnRoute, if_pos rfl]; rfl

theorem foldlM_excludeAll (hsdk : tiramisu ≤ sdk) :
    (excludeAll l).foldlM (android.addVpnRoute sdk) table = .ok table' ↔
      (∀ n ∈ l, android.excludeRoute n = true) ∧
        table' = (l.map (vpnRoute false)).foldl (fun t r => t.insert r) table :=
  foldlM_addVpnRoute android fun t n => by
    rw [Device.addVpnRoute, if_neg Bool.false_ne_true, if_pos hsdk]; rfl

/-- Included networks and then excluded ones are taken if the system takes all of them. -/
theorem buildVpnInterface_iff (hsdk : excluded = [] ∨ tiramisu ≤ sdk) :
    android.buildVpnInterface sdk (includeAll included ++ excludeAll excluded) = .ok table ↔
      (∀ n ∈ included, android.addRoute n = true) ∧
      (∀ n ∈ excluded, android.excludeRoute n = true) ∧
      table = (excluded.map (vpnRoute false)).foldl (fun t r => t.insert r)
        ((included.map (vpnRoute true)).foldl (fun t r => t.insert r) ⟨[], nodup_nil⟩) := by
  rw [Device.buildVpnInterface, foldlM_append, bind_eq_ok]
  simp only [foldlM_includeAll]
  have hexclude : ∀ {t t' : VpnTable},
      (excludeAll excluded).foldlM (android.addVpnRoute sdk) t = .ok t' ↔
        (∀ n ∈ excluded, android.excludeRoute n = true) ∧
          t' = (excluded.map (vpnRoute false)).foldl (fun t r => t.insert r) t := by
    intro t t'
    rcases hsdk with rfl | hsdk
    · exact ⟨fun h => ⟨fun _ h => (nomatch h), (ok.inj h).symm⟩,
        fun h => congrArg ok h.2.symm⟩
    · exact foldlM_excludeAll android hsdk
  simp only [hexclude]
  constructor
  · rintro ⟨_, ⟨hincluded, rfl⟩, hexcluded, htable⟩
    exact ⟨hincluded, hexcluded, htable⟩
  · rintro ⟨hincluded, hexcluded, htable⟩
    exact ⟨_, ⟨hincluded, rfl⟩, hexcluded, htable⟩

/-- An address goes into the tunnel exactly if an included network covers it that is longer than
all excluded ones that do. -/
theorem tunneled_iff (hsdk : excluded = [] ∨ tiramisu ≤ sdk)
    (h : android.buildVpnInterface sdk (includeAll included ++ excludeAll excluded) = .ok table)
    {d : IpAddress} :
    Tunneled table d ↔ ∃ i ∈ included, i.covers d = true ∧
      ∀ e ∈ excluded, e.covers d = true → e.mask.toNat < i.mask.toNat := by
  obtain ⟨-, -, htable⟩ := (buildVpnInterface_iff android hsdk).mp h
  have hsame : ∀ (hop : Bool) (l : List InetNetwork), ∀ r ∈ l.map (vpnRoute hop),
      ∀ r' ∈ l.map (vpnRoute hop), r.key = r'.key → r = r' := by
    intro hop l r hr r' hr' hkey
    obtain ⟨n, -, rfl⟩ := mem_map.mp hr
    obtain ⟨n', -, rfl⟩ := mem_map.mp hr'
    have hdest : n.toPrefix = n'.toPrefix := congrArg Prod.fst hkey
    rw [vpnRoute, vpnRoute, hdest]
  have hincluded := Routing.Table.overlaid_foldl_insert
    (⟨[], nodup_nil⟩ : VpnTable) (hsame true included)
  have hexcluded := Routing.Table.overlaid_foldl_insert
    ((included.map (vpnRoute true)).foldl (fun t r => t.insert r) ⟨[], nodup_nil⟩)
    (hsame false excluded)
  rw [← htable] at hexcluded
  -- the routes of the system: all excluded ones, and the included ones with another prefix
  have hmem : ∀ r, r ∈ table ↔ (∃ e ∈ excluded, vpnRoute false e = r) ∨
      (∃ i ∈ included, vpnRoute true i = r) ∧ ∀ e ∈ excluded, (vpnRoute false e).key ≠ r.key := by
    intro r
    have hnone : r ∉ (⟨[], nodup_nil⟩ : VpnTable) := not_mem_nil
    have hinclude := hincluded r
    rw [mem_map, or_iff_left fun h => hnone h.1] at hinclude
    rw [hexcluded r, hinclude, mem_map, forall_mem_map]
  have hexcl : ∀ {e}, e ∈ excluded → vpnRoute false e ∈ table := fun he =>
    (hmem _).mpr (.inl ⟨_, he, rfl⟩)
  constructor
  · rintro ⟨r, hlookup, hhop⟩
    obtain ⟨hr, hcovers, hbest⟩ := (Routing.Table.lookup_eq_some_iff canonical_covers).mp hlookup
    rcases (hmem r).mp hr with ⟨e, -, rfl⟩ | ⟨⟨i, hi, rfl⟩, hkeys⟩
    · cases hhop
    · refine ⟨i, hi, hcovers, fun e he hecovers => ?_⟩
      have hbeats := hbest _ (hexcl he) hecovers
      rw [Bool.eq_false_iff, ne_eq, Routing.beats_iff] at hbeats
      refine lt_of_le_of_ne (not_lt.mp fun h => hbeats (.inl h)) fun hlength => ?_
      have hdest : e.toPrefix = i.toPrefix := canonical_covers hecovers hcovers hlength
      exact hkeys e he (Prod.ext hdest rfl)
  · rintro ⟨i, hi, hcovers, hlonger⟩
    have hroute : vpnRoute true i ∈ table := by
      refine (hmem _).mpr (.inr ⟨⟨i, hi, rfl⟩, fun e he hkey => ?_⟩)
      have hdest : e.toPrefix = i.toPrefix := congrArg Prod.fst hkey
      have hecovers : e.covers d = true := by
        rw [InetNetwork.covers, hdest]
        exact hcovers
      exact absurd (congrArg IpPrefix.length hdest) (hlonger e he hecovers).ne
    have hsome : (table.lookup IpPrefix.length IpPrefix.covers d).isSome = true :=
      Routing.Table.isSome_lookup hroute hcovers
    obtain ⟨r, hlookup⟩ := Option.isSome_iff_exists.mp hsome
    obtain ⟨hr, hrcovers, hbest⟩ := (Routing.Table.lookup_eq_some_iff canonical_covers).mp hlookup
    refine ⟨r, hlookup, ?_⟩
    rcases (hmem r).mp hr with ⟨e, he, rfl⟩ | ⟨⟨j, -, rfl⟩, -⟩
    · -- the included network would be longer
      have hbeats := hbest _ hroute hcovers
      rw [Bool.eq_false_iff, ne_eq, Routing.beats_iff] at hbeats
      exact absurd (.inl (hlonger e he hrcovers)) hbeats
    · rfl

end Lookup

end Dopamine.Android
