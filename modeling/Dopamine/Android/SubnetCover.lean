import Dopamine.Android.LeftOver
import Mathlib.Order.CompletePartialOrder

/-!
# A range as networks

The networks of `IpRange.subnets` are aligned, ascending, hold exactly the addresses of the range,
and no other networks do with fewer of them (`Tiles.length_le`): each holds one of the others. This
is so for the networks that `subnets` computes. The ones that it returns are read back from text,
and one that begins at an IPv4-mapped address becomes an IPv4 network. A range has such a network
exactly if it has mapped addresses but not all of `::fffe:0:0/95`
(`exists_first_mapped_iff`).
-/

namespace Dopamine.Android

open Intervals InetNetwork Bool Network IpAddress

/-! ## The fewest networks -/

variable {D : Set IpAddress} {nets : List Network} {n : Network}

/-- A network of the tiles is not part of a larger one, so a network of any cover that holds its
address lies in it. -/
theorem Tiles.subset_of_mem (h : Tiles D nets) {m : Network} (hn : n ∈ nets)
    (hm : m.addresses ⊆ D) (hmem : n.address ∈ m.addresses) : m.addresses ⊆ n.addresses := by
  intro d hd
  have hmask := h.mask_le n hn hm n.address_mem hmem
  exact mem_of_mask_le n.address_mem hmem hmask hd

/-- No networks with the same addresses are fewer. -/
theorem Tiles.length_le (h : Tiles D nets)
    (hdisjoint : nets.Pairwise fun n m => Disjoint n.addresses m.addresses)
    {other : List Network} (hother : ∀ {d}, d ∈ D ↔ ∃ n ∈ other, d ∈ n.addresses) :
    nets.length ≤ other.length := by
  -- the network of the cover that holds the first address
  have hpick : ∀ n, ∃ m, n ∈ nets → m ∈ other ∧ m.addresses ⊆ n.addresses := by
    intro n
    by_cases hn : n ∈ nets
    · obtain ⟨m, hm, hmem⟩ := hother.mp (h.mem_iff.mpr ⟨n, hn, n.address_mem⟩)
      have hsub : m.addresses ⊆ D := fun d hd => hother.mpr ⟨m, hm, hd⟩
      exact ⟨m, fun _ => ⟨hm, h.subset_of_mem hn hsub hmem⟩⟩
    · exact ⟨n, fun hn' => absurd hn' hn⟩
  choose pick hpick using hpick
  have hnodup : (nets.map pick).Nodup := by
    refine List.pairwise_map.mpr (hdisjoint.imp_of_mem fun {n m} hn hm hnm heq => ?_)
    have hmem : (pick n).address ∈ (pick n).addresses := (pick n).address_mem
    exact Set.disjoint_left.mp hnm ((hpick n hn).2 hmem) ((hpick m hm).2 (heq ▸ hmem))
  have hsub : nets.map pick ⊆ other := by
    intro m hm
    obtain ⟨n, hn, rfl⟩ := List.mem_map.mp hm
    exact (hpick n hn).1
  simpa using (List.subperm_of_subset hnodup hsub).length_le

/-! ## Networks that begin at a mapped address -/

/-- Some network begins at a mapped address exactly if there are mapped addresses but not all of
`::fffe:0:0/95`. -/
theorem Tiles.exists_first_mapped_iff (h : Tiles D nets) : (∃ n ∈ nets, n.address.isMapped = true) ↔
      (∃ d ∈ D, d.isMapped = true) ∧ ¬aroundMapped.addresses ⊆ D := by
  constructor
  · rintro ⟨n, hn, hmapped⟩
    refine ⟨⟨n.address, h.mem_iff.mpr ⟨n, hn, n.address_mem⟩, hmapped⟩, fun haround => ?_⟩
    have hmask : n.mask ≤ 95 :=
      h.mask_le n hn haround n.address_mem (mem_aroundMapped hmapped)
    have := mask_of_mapped (h.isFirst n hn) hmapped
    omega
  · rintro ⟨⟨d, hd, hmapped⟩, haround⟩
    obtain ⟨n, hn, hdn⟩ := h.mem_iff.mp hd
    refine ⟨n, hn, ?_⟩
    rcases le_or_gt 96 n.mask with hmask | hmask
    · exact mem_mapped.mp
        (mem_of_mask_le (mem_mapped.mpr hmapped) hdn hmask n.address_mem)
    · -- a network with a shorter prefix would hold all of `::fffe:0:0/95`
      have hle : n.mask ≤ aroundMapped.mask := Nat.le_of_lt_succ hmask
      exact absurd (fun a ha => h.mem_iff.mpr ⟨n, hn,
        mem_of_mask_le hdn (mem_aroundMapped hmapped) hle ha⟩) haround

/-! ## The networks of a range -/

/-- The networks are a decomposition of a set of addresses: their addresses are the first ones, they
are ascending, hence disjoint, they hold exactly the addresses of the set, and no networks with
these addresses are fewer. -/
structure Decomposes (l : List InetNetwork) (D : Set IpAddress) : Prop where
  aligned : ∀ n ∈ l, 0 ≤ n.mask ∧ n.mask ≤ n.address.ip.maxMask ∧
    2 ^ (n.address.ip.maxMask - n.mask.toNat) ∣ n.address.ip.value
  ascending : l.Pairwise fun n m => ∀ d e, n.covers d = true → m.covers e = true → d < e
  covers : coverOf l = D
  fewest : ∀ other : List Network, (∀ d, d ∈ D ↔ ∃ n ∈ other, d ∈ n.addresses) →
    l.length ≤ other.length

/-- The networks before they are read back have all of this. -/
theorem Tiles.decomposes (h : Tiles D nets)
    (hascending : nets.Pairwise fun n m => ∀ d ∈ n.addresses, ∀ e ∈ m.addresses, d < e)
    (hmapped : ∀ n ∈ nets, n.address.isMapped = false) :
    Decomposes (nets.map Network.toInet) D where
  aligned := by
    intro m hm
    obtain ⟨n, hn, rfl⟩ := List.mem_map.mp hm
    rw [toInet_eq (hmapped n hn)]
    have hmask : (n.mask : ℤ) ≤ n.address.maxMask := Int.ofNat_le.mpr n.mask_le
    have hbase : n.block.base = n.address.value := h.isFirst n hn
    exact ⟨Int.natCast_nonneg _, hmask, hbase ▸ n.block.aligned⟩
  ascending := by
    refine List.pairwise_map.mpr (hascending.imp_of_mem fun {n m} hn hm hnm d e hd he => ?_)
    exact hnm d ((toInet_covers (hmapped n hn)).mp hd) e
      ((toInet_covers (hmapped m hm)).mp he)
  covers := by
    ext d
    rw [h.mem_iff, mem_coverOf]
    constructor
    · rintro ⟨m, hm, hd⟩
      obtain ⟨n, hn, rfl⟩ := List.mem_map.mp hm
      exact ⟨n, hn, (toInet_covers (hmapped n hn)).mp hd⟩
    · rintro ⟨n, hn, hd⟩
      exact ⟨_, List.mem_map_of_mem hn, (toInet_covers (hmapped n hn)).mpr hd⟩
  fewest := by
    intro other hother
    rw [List.length_map]
    refine h.length_le (hascending.imp fun hnm => Set.disjoint_left.mpr fun d hn hm => ?_) (hother _)
    exact absurd (hnm d hn d hm) (lt_irrefl d)

/-- A network that begins at a mapped address is read back as one of the other family. -/
theorem IpRange.not_mapped_of_covers {r : IpRange} (htiles : Tiles r.points nets)
    (hcovers : coverOf (nets.map Network.toInet) = r.points) (hn : n ∈ nets) :
    n.address.isMapped = false := by
  refine eq_false_iff.mpr fun hmapped => ?_
  have hsize : ∀ {d}, d ∈ r.points → d.size = r.stop.size := by
    intro d hd
    have hfamily : r.start.size = r.stop.size := r.family_eq
    obtain ⟨hstart, hstop⟩ := hd
    rw [le_iff] at hstart hstop
    omega
  have hmem : n.toInet.address.ip ∈ r.points :=
    hcovers ▸ mem_coverOf.mpr ⟨_, List.mem_map_of_mem hn, covers_self _⟩
  have h₁ := hsize hmem
  have h₂ := hsize (htiles.mem_iff.mpr ⟨n, hn, n.address_mem⟩)
  rw [toInet_size_of_mapped hmapped] at h₁
  rw [size_of_isMapped hmapped] at h₂
  omega

/-- `subnets` returns, and it returns a decomposition of the range unless some network begins at a
mapped address. -/
theorem IpRange.subnets_decomposes_iff (r : IpRange) :
    (∃ l, r.subnets = .ok l ∧ Decomposes l r.points) ↔
      (∀ d ∈ r.points, d.isMapped = false) ∨ aroundMapped.addresses ⊆ r.points := by
  obtain ⟨nets, hnets, htiles, hascending⟩ := r.exists_tiles
  have hiff := htiles.exists_first_mapped_iff
  constructor
  · rintro ⟨l, hl, hdecomposes⟩
    obtain rfl : nets.map Network.toInet = l := Except.ok.inj (hnets.symm.trans hl)
    by_contra hnot
    obtain ⟨hsome, haround⟩ := not_or.mp hnot
    have hsome : ∃ d ∈ r.points, d.isMapped = true := by
      simpa only [not_forall, exists_prop, not_eq_false] using hsome
    obtain ⟨n, hn, hmapped⟩ := hiff.mpr ⟨hsome, haround⟩
    cases hmapped.symm.trans (not_mapped_of_covers htiles hdecomposes.covers hn)
  · intro hcond
    refine ⟨_, hnets, htiles.decomposes hascending fun n hn => eq_false_iff.mpr fun hmapped => ?_⟩
    obtain ⟨⟨d, hd, hdmapped⟩, haround⟩ := hiff.mp ⟨n, hn, hmapped⟩
    exact hcond.elim (fun h => absurd ((h d hd).symm.trans hdmapped) (by decide)) haround

/-! ## The range of a network -/

/-- A network within another has at least its prefix length. -/
theorem Network.mask_le_of_subset {m : Network} (h : n.addresses ⊆ m.addresses) :
    m.mask ≤ n.mask := by
  obtain ⟨first, hfirst, last, hlast, hbase, hend⟩ := n.exists_ends
  obtain ⟨hsize, hlo⟩ := mem_addresses.mp (h hfirst)
  have hhi := (mem_addresses.mp (h hlast)).2
  have hpow : 2 ^ n.block.bits ≤ 2 ^ m.block.bits := by
    have h₁ := hlo.1
    have h₂ := hhi.2
    omega
  have hbits : n.address.maxMask - n.mask ≤ m.address.maxMask - m.mask :=
    (Nat.pow_le_pow_iff_right (by decide)).mp hpow
  have hmaxMask : n.address.maxMask = m.address.maxMask :=
    congrArg (· * 8) ((mem_addresses.mp hfirst).1.symm.trans hsize)
  have hn := n.mask_le
  have hm := m.mask_le
  omega

/-- The tiles of the addresses of one network are this network from its first address on. -/
theorem Tiles.eq_singleton (h : Tiles n.addresses nets)
    (hdisjoint : nets.Pairwise fun n m => Disjoint n.addresses m.addresses) :
    ∃ m : Network, nets = [m] ∧ m.mask = n.mask ∧ m.address ∈ n.addresses ∧
      m.address.value = n.block.base := by
  have hlength : nets.length ≤ [n].length := h.length_le hdisjoint (by simp)
  obtain ⟨m, hm, -⟩ := h.mem_iff.mp n.address_mem
  obtain rfl : nets = [m] := by
    match nets, hlength with
    | [m'], _ => rw [List.mem_singleton.mp hm]
    | [], _ => cases hm
  have hsub : m.addresses ⊆ n.addresses := fun d hd => h.mem_iff.mpr ⟨m, hm, hd⟩
  have hsub' : n.addresses ⊆ m.addresses := h.subset_of_mem hm subset_rfl (hsub m.address_mem)
  have hmask : m.mask = n.mask :=
    le_antisymm (mask_le_of_subset hsub') (mask_le_of_subset hsub)
  obtain ⟨hsize, hvalue⟩ := hsub m.address_mem
  have hmaxMask : m.address.maxMask = n.address.maxMask := congrArg (· * 8) hsize
  have hbase : m.block.base = m.address.value := h.isFirst m hm
  refine ⟨m, rfl, hmask, hsub m.address_mem, ?_⟩
  rw [← hbase]
  show m.address.value / 2 ^ (m.address.maxMask - m.mask) * 2 ^ (m.address.maxMask - m.mask) = _
  rw [hmask, hmaxMask, hvalue]
  rfl

/-- The network of the range of a network: the host bits are zero. -/
theorem InetNetwork.subnets_ofNetwork (n : InetNetwork) (hnonneg : 0 ≤ n.mask)
    (hmask : n.mask ≤ n.address.ip.maxMask) :
    ∃ r m, IpRange.ofNetwork n = .ok r ∧ r.subnets = .ok [m] ∧ m.mask = n.mask ∧
      m.address.ip.size = n.address.ip.size ∧
      m.address.ip.value = n.address.ip.value / 2 ^ (n.address.ip.maxMask - n.mask.toNat) *
        2 ^ (n.address.ip.maxMask - n.mask.toNat) := by
  have hnat : n.mask.toNat ≤ n.address.ip.maxMask := by omega
  have hcast : ((n.network hnat).mask : ℤ) = n.mask := Int.toNat_of_nonneg hnonneg
  obtain ⟨r, hr, hpoints⟩ := (n.network hnat).exists_range
  obtain ⟨nets, hnets, htiles, hascending⟩ := r.exists_tiles
  rw [hpoints] at htiles
  have hdisjoint : nets.Pairwise fun n m => Disjoint n.addresses m.addresses :=
    hascending.imp fun hnm => Set.disjoint_left.mpr fun d hn hm =>
      absurd (hnm d hn d hm) (lt_irrefl d)
  obtain ⟨m, rfl, hm, hmem, hvalue⟩ := htiles.eq_singleton hdisjoint
  have hmapped : m.address.isMapped = false := by
    refine eq_false_iff.mpr fun hmapped => ?_
    have h96 := mask_of_mapped (htiles.isFirst m (List.mem_singleton_self m)) hmapped
    -- then the address of the network itself would be mapped
    have hself := mem_of_mask_le (mem_mapped.mpr hmapped) hmem (hm ▸ h96)
      (n.network hnat).address_mem
    cases (mem_mapped.mp hself).symm.trans n.address.not_mapped
  refine ⟨r, m.toInet, ?_, hnets, ?_, ?_, ?_⟩
  · rw [IpRange.ofNetwork, ← hcast]
    exact hr
  · exact (congrArg Nat.cast hm).trans hcast
  · rw [toInet_eq hmapped]
    exact hmem.1
  · rw [toInet_eq hmapped]
    exact hvalue

/-! ## `subnets` -/

/-- `subnets` of a range returns a decomposition of it exactly if no address of the range is mapped
or all of `::fffe:0:0/95` is in it, and `subnets` of the range of a network is this network with
its host bits cleared. -/
theorem subnets_of_range_and_of_network (r : IpRange) (n : InetNetwork) (hnonneg : 0 ≤ n.mask)
    (hmask : n.mask ≤ n.address.ip.maxMask) :
    ((∃ l, r.subnets = .ok l ∧ Decomposes l r.points) ↔
      (∀ d ∈ r.points, d.isMapped = false) ∨ aroundMapped.addresses ⊆ r.points) ∧
    ∃ s m, IpRange.ofNetwork n = .ok s ∧ s.subnets = .ok [m] ∧ m.mask = n.mask ∧
      m.address.ip.size = n.address.ip.size ∧
      m.address.ip.value = n.address.ip.value / 2 ^ (n.address.ip.maxMask - n.mask.toNat) *
        2 ^ (n.address.ip.maxMask - n.mask.toNat) :=
  ⟨r.subnets_decomposes_iff, n.subnets_ofNetwork hnonneg hmask⟩

/-- The range `::fffe:ffff:ffff - ::1:0:0:0`. -/
def mappedBetween : IpRange where
  start := ⟨[0, 0, 0, 0, 0, 0, 0, 0, 0, 0, 0xff, 0xfe, 0xff, 0xff, 0xff, 0xff], .inr rfl⟩
  stop := ⟨[0, 0, 0, 0, 0, 0, 0, 0, 0, 1, 0, 0, 0, 0, 0, 0], .inr rfl⟩
  start_le_stop := by decide
  family_eq := rfl

theorem subnets_of_range_and_of_network_ten :
    ((∃ l, mappedBetween.subnets = .ok l ∧ Decomposes l mappedBetween.points) ↔
      (∀ d ∈ mappedBetween.points, d.isMapped = false) ∨
        aroundMapped.addresses ⊆ mappedBetween.points) ∧
    ∃ s m, IpRange.ofNetwork ⟨ipv4 10 1 2 3, 8⟩ = .ok s ∧ s.subnets = .ok [m] ∧ m.mask = 8 ∧
      m.address.ip.size = 4 ∧ m.address.ip.value = 10 * 2 ^ 24 := by
  have hmask : (8 : ℤ) ≤ (ipv4 10 1 2 3).ip.maxMask := by decide
  obtain ⟨hiff, s, m, hs, hm, hmmask, hsize, hvalue⟩ :=
    subnets_of_range_and_of_network mappedBetween ⟨ipv4 10 1 2 3, 8⟩ (by decide) hmask
  exact ⟨hiff, s, m, hs, hm, hmmask, hsize, hvalue.trans (by decide)⟩

/-- Between two IPv6 addresses around `::ffff:0:0/96`, the network of these is read back as
`0.0.0.0` with the mask 96, so that they are not covered. -/
theorem subnets_mappedBetween :
    mappedBetween.subnets.toOption =
      some [⟨⟨mappedBetween.start, rfl⟩, 128⟩, ⟨ipv4 0 0 0 0, 96⟩, ⟨⟨mappedBetween.stop, rfl⟩, 128⟩] ∧
    ¬∃ l, mappedBetween.subnets = .ok l ∧ Decomposes l mappedBetween.points := by
  refine ⟨by decide +kernel, fun h => ?_⟩
  rcases mappedBetween.subnets_decomposes_iff.mp h with hnone | haround
  · cases hnone mapped.address ⟨by decide, by decide⟩
  · have hstart : mappedBetween.start ≤ aroundMapped.address := (haround aroundMapped.address_mem).1
    cases hstart

end Dopamine.Android
