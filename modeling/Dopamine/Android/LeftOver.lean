import Dopamine.Android.SplitTunneling

/-!
# What is left of networks after a subtraction

`subtract` writes what is left of some networks as networks again, and `processRoutes` does not
treat these as the networks they come from: `127.0.0.0/8` and `::1` are filtered only if they stand
alone, and `::/0` is replaced only if it is whole. `Tiles.coverOf_kept_replaced` says which of the
addresses that are left the routes cover.
-/

namespace Dopamine.Android

open Intervals InetNetwork List BigEndian Network IpAddress

/-! ## Networks within each other -/

variable {n : Network} {d a : IpAddress} {nets : List Network} {l : List InetNetwork}
  {D : Set IpAddress}

/-- Two networks that share an address: the shorter prefix holds all addresses of the other. -/
theorem Network.mem_of_mask_le {m : Network} (hn : d ∈ n.addresses) (hm : d ∈ m.addresses)
    (hmask : n.mask ≤ m.mask) (ha : a ∈ m.addresses) : a ∈ n.addresses := by
  obtain ⟨hnsize, hnvalue⟩ := hn
  obtain ⟨hmsize, hmvalue⟩ := hm
  obtain ⟨hasize, havalue⟩ := ha
  have hmaxMask : m.address.maxMask = n.address.maxMask :=
    congrArg (· * 8) (hmsize.symm.trans hnsize)
  refine ⟨hasize.trans (hmsize.symm.trans hnsize), ?_⟩
  rw [← hnvalue]
  exact div_pow_eq_of_le (by omega) (havalue.trans hmvalue.symm)

/-- No address of a network is before its first one. -/
theorem Network.IsFirst.value_le (h : n.IsFirst) (ha : a ∈ n.addresses) :
    n.address.value ≤ a.value :=
  h ▸ (Network.mem_addresses.mp ha).2.1

/-- A network of the config whose prefix length is one of its family. -/
def InetNetwork.network (n : InetNetwork) (h : n.mask.toNat ≤ n.address.ip.maxMask) : Network :=
  ⟨n.address.ip, n.mask.toNat, h⟩

theorem InetNetwork.mem_network {n : InetNetwork} {h : n.mask.toNat ≤ n.address.ip.maxMask} :
    d ∈ (n.network h).addresses ↔ n.covers d = true :=
  covers_iff.symm

/-- `126.0.0.0/7`, the least network with more than `127.0.0.0/8`. -/
def around4 : InetNetwork := ⟨ipv4 126 0 0 0, 7⟩

/-- `::/127`, the least network with more than `::1`. -/
def around6 : InetNetwork := ⟨ipv6 0 0, 127⟩

theorem around4_covers : around4.covers d = true ↔ d.size = 4 ∧ d.value / 2 ^ 25 = 63 := by
  rw [covers_iff]
  show d.size = 4 ∧ d.value / 2 ^ 25 = (ipv4 126 0 0 0).ip.value / 2 ^ 25 ↔ _
  rw [show (ipv4 126 0 0 0).ip.value / 2 ^ 25 = 63 by decide]

theorem around6_covers : around6.covers d = true ↔ d.size = 16 ∧ d.value / 2 = 0 := by
  have hbits : around6.address.ip.maxMask - around6.mask.toNat = 1 := by decide
  have hvalue : around6.address.ip.value = 0 := by decide
  rw [covers_iff, hbits, hvalue, pow_one, Nat.zero_div]
  rfl

theorem around4_of_loopback4 (h : loopback4.covers d = true) : around4.covers d = true := by
  obtain ⟨hsize, hvalue⟩ := loopback4_covers.mp h
  exact around4_covers.mpr ⟨hsize, by omega⟩

theorem around6_of_loopback6 (h : loopback6.covers d = true) : around6.covers d = true := by
  obtain ⟨hsize, hvalue⟩ := loopback6_covers.mp h
  exact around6_covers.mpr ⟨hsize, by omega⟩

/-- A network that begins in `127.0.0.0/8` lies in it. -/
theorem mask_of_loopback4 (hfirst : n.IsFirst) (h : loopback4.covers n.address = true) :
    8 ≤ n.mask := by
  by_contra hlt
  have hmask : n.mask ≤ (around4.network (by decide)).mask := by
    show n.mask ≤ 7
    omega
  have hmem : (ipv4 126 0 0 0).ip ∈ n.addresses :=
    mem_of_mask_le n.address_mem (mem_network.mpr (around4_of_loopback4 h)) hmask
      (mem_network.mpr (by decide))
  have hle := hfirst.value_le hmem
  have hvalue : (ipv4 126 0 0 0).ip.value = 126 * 2 ^ 24 := by decide
  have := (loopback4_covers.mp h).2
  omega

/-! ## Mapped addresses -/

/-- `::ffff:0:0/96`. -/
def mapped : Network :=
  ⟨⟨[0, 0, 0, 0, 0, 0, 0, 0, 0, 0, 0xff, 0xff, 0, 0, 0, 0], .inr rfl⟩, 96, by decide⟩

/-- `::fffe:0:0/95`. -/
def aroundMapped : Network :=
  ⟨⟨[0, 0, 0, 0, 0, 0, 0, 0, 0, 0, 0xff, 0xfe, 0, 0, 0, 0], .inr rfl⟩, 95, by decide⟩

theorem mem_mapped : d ∈ mapped.addresses ↔ d.isMapped = true := by
  rw [isMapped_iff]
  show d.size = 16 ∧ d.value / 2 ^ 32 = mapped.address.value / 2 ^ 32 ↔ _
  rw [show mapped.address.value / 2 ^ 32 = 0xffff by decide]

/-- A network of the config holds all mapped addresses or none. -/
theorem covers_mapped {i : InetNetwork} (hd : d.isMapped = true) (ha : a.isMapped = true)
    (h : i.covers d = true) : i.covers a = true := by
  obtain ⟨hdsize, hdvalue⟩ := isMapped_iff.mp hd
  obtain ⟨hasize, havalue⟩ := isMapped_iff.mp ha
  rw [covers_iff] at h ⊢
  refine ⟨hasize.trans (hdsize.symm.trans h.1), ?_⟩
  rw [← h.2]
  rcases le_or_gt (i.address.ip.maxMask - i.mask.toNat) 32 with hbits | hbits
  · -- its own address would be a mapped one
    have hi : i.address.ip.isMapped = true := by
      refine isMapped_iff.mpr ⟨h.1.symm.trans hdsize, ?_⟩
      rw [← hdvalue]
      exact div_pow_eq_of_le hbits h.2.symm
    cases hi.symm.trans i.address.not_mapped
  · exact div_pow_eq_of_le hbits.le (havalue.trans hdvalue.symm)

theorem mem_aroundMapped (h : d.isMapped = true) : d ∈ aroundMapped.addresses := by
  obtain ⟨hsize, hvalue⟩ := isMapped_iff.mp h
  refine ⟨hsize, ?_⟩
  show d.value / 2 ^ 33 = aroundMapped.address.value / 2 ^ 33
  rw [show aroundMapped.address.value / 2 ^ 33 = 0x7fff by decide]
  omega

/-- A network that begins in `::ffff:0:0/96` lies in it. -/
theorem mask_of_mapped (hfirst : n.IsFirst) (h : n.address.isMapped = true) : 96 ≤ n.mask := by
  by_contra hlt
  have hmask : n.mask ≤ aroundMapped.mask := by
    show n.mask ≤ 95
    omega
  have hvalue := (isMapped_iff.mp h).2
  have hle := hfirst.value_le (mem_of_mask_le n.address_mem (mem_aroundMapped h) hmask
    aroundMapped.address_mem)
  have hbase : aroundMapped.address.value = 0xfffe * 2 ^ 32 := by decide
  omega

/-- The text of a network within the mapped ones is read as IPv4. -/
theorem toInet_size_of_mapped (h : n.address.isMapped = true) : n.toInet.address.ip.size = 4 := by
  have hlen : n.address.address.length = 16 := size_of_isMapped h
  rw [Network.toInet, InetAddress.ofIp, dif_pos h]
  show (n.address.address.drop 12).length = 4
  rw [length_drop, hlen]

theorem toInet_value_of_mapped (h : n.address.isMapped = true) :
    n.toInet.address.ip.value = n.address.value % 2 ^ 32 := by
  have hlen : n.address.address.length = 16 := size_of_isMapped h
  rw [Network.toInet, InetAddress.ofIp, dif_pos h]
  show BigEndian.value (n.address.address.drop 12) = BigEndian.value n.address.address % 2 ^ 32
  have hlt := value_lt (n.address.address.drop 12)
  have hsplit := value_append (n.address.address.take 12) (n.address.address.drop 12)
  rw [take_append_drop] at hsplit
  rw [length_drop, hlen] at hsplit hlt
  omega

/-- If the system takes the networks, none of them begins with a mapped address: it would be
`::ffff:0:0/96`, and read as `0.0.0.0/96`. -/
theorem Tiles.not_mapped {source exclusions : List InetNetwork} {nets : List Network}
    (h : Tiles (coverOf source \ coverOf exclusions) nets)
    (hmask : ∀ i ∈ nets.map Network.toInet, i ≠ default6 → ¬isLoopback i = true →
      i.mask ≤ i.address.ip.maxMask) :
    ∀ n ∈ nets, n.address.isMapped = false := by
  intro n hn
  refine Bool.eq_false_iff.mpr fun hmapped => ?_
  obtain ⟨hin, hout⟩ := h.mem_iff.mpr ⟨n, hn, n.address_mem⟩
  have hsub : mapped.addresses ⊆ coverOf source \ coverOf exclusions := by
    intro a ha
    have ha := mem_mapped.mp ha
    refine ⟨?_, fun ⟨x, hx, hcovers⟩ => hout ⟨x, hx, covers_mapped ha hmapped hcovers⟩⟩
    obtain ⟨i, hi, hcovers⟩ := hin
    exact ⟨i, hi, covers_mapped hmapped ha hcovers⟩
  have hle : n.mask ≤ 96 := h.mask_le n hn hsub n.address_mem (mem_mapped.mpr hmapped)
  have hge := mask_of_mapped (h.isFirst n hn) hmapped
  have hsize := toInet_size_of_mapped hmapped
  have hne6 : n.toInet ≠ default6 := fun heq => absurd (heq ▸ hsize) (by decide)
  have hloopback : ¬isLoopback n.toInet = true := by
    -- the low bits of a first address are zero
    have hfirst : n.address.value / 2 ^ (n.address.maxMask - n.mask) *
        2 ^ (n.address.maxMask - n.mask) = n.address.value := h.isFirst n hn
    have hbits : n.address.maxMask - n.mask = 32 := by
      have : n.address.maxMask = 128 := congrArg (· * 8) (size_of_isMapped hmapped)
      omega
    rw [hbits] at hfirst
    have hvalue := toInet_value_of_mapped hmapped
    intro hl
    rcases isLoopback_iff.mp hl with h4 | h6
    · have := (loopback4_covers.mp h4).2
      omega
    · cases h6 ▸ hsize
  have hbad := hmask _ (mem_map_of_mem hn) hne6 hloopback
  have hmax : n.toInet.address.ip.maxMask = 32 := congrArg (· * 8) hsize
  have hcast : n.toInet.mask = (n.mask : ℤ) := rfl
  omega

/-! ## What is left of networks -/

/-- The addresses of the routes for the networks of a set: `127.0.0.0/8` and `::1` are left out if
they stand alone, and only `2000::/3` stays if all IPv6 addresses are in the set. -/
def leftOver (D : Set IpAddress) : Set IpAddress :=
  {d | d ∈ D ∧ (loopback4.covers d = true → ∀ a, around4.covers a = true → a ∈ D) ∧
    (loopback6.covers d = true → ∀ a, around6.covers a = true → a ∈ D) ∧
    (default6.covers d = true → (∀ a, default6.covers a = true → a ∈ D) →
      global6.covers d = true)}

theorem mem_replaced {n : InetNetwork} :
    n ∈ replaced l ↔ n ∈ l ∧ n ≠ default6 ∨ n = global6 ∧ default6 ∈ l := by
  rw [replaced]
  by_cases h : default6 ∈ l
  · rw [if_pos h, mem_addAll, mem_singleton, mem_filter, decide_eq_true_iff,
      and_iff_left h, or_comm]
  · rw [if_neg h]
    constructor
    · exact fun hn => .inl ⟨hn, fun heq => h (heq ▸ hn)⟩
    · rintro (⟨hn, -⟩ | ⟨-, h6⟩)
      · exact hn
      · exact absurd h6 h

theorem default6_of_global6 (h : global6.covers d = true) :
    default6.covers d = true := default6_covers.mpr (global6_covers.mp h).1

/-- The routes for some networks do not cover more than these. -/
theorem coverOf_kept_replaced_subset (l : List InetNetwork) :
    coverOf (kept (replaced l)) ⊆ coverOf l := by
  rintro d ⟨n, hn, hd⟩
  rcases mem_replaced.mp (mem_kept.mp hn).1 with ⟨hn, -⟩ | ⟨rfl, h6⟩
  · exact ⟨n, hn, hd⟩
  · exact ⟨default6, h6, default6_of_global6 hd⟩

/-- A network within a set is not longer than one of the networks of the set it shares an address
with. -/
theorem Tiles.mask_le_of_covers (h : Tiles D nets) (hn : n ∈ nets) {m : InetNetwork}
    (hm : m.mask.toNat ≤ m.address.ip.maxMask) (hD : ∀ a, m.covers a = true → a ∈ D)
    (hd : d ∈ n.addresses) (hd' : m.covers d = true) : n.mask ≤ m.mask.toNat :=
  h.mask_le n hn (m := m.network hm) (fun a ha => hD a (mem_network.mp ha)) hd
    (mem_network.mpr hd')

/-- The network of all IPv6 addresses. -/
theorem toInet_eq_default6 (hmapped : n.address.isMapped = false) (hfirst : n.IsFirst)
    (hsize : n.address.size = 16) (hmask : n.mask = 0) : n.toInet = default6 := by
  have hzero : (ipv6 0 0).ip ∈ n.addresses := by
    have hd : n.address ∈ (default6.network (by decide)).addresses :=
      mem_network.mpr (default6_covers.mpr hsize)
    exact mem_of_mask_le n.address_mem hd (hmask ▸ Nat.zero_le _)
      (mem_network.mpr (by decide))
  have hle := hfirst.value_le hzero
  have hvalue : (ipv6 0 0).ip.value = 0 := by decide
  have haddress : n.address = (ipv6 0 0).ip := ext_value hsize (by omega)
  obtain ⟨address, mask, _⟩ := n
  obtain rfl : address = _ := haddress
  obtain rfl : mask = 0 := hmask
  rw [toInet_eq hmapped]
  rfl

/-- What the routes for the networks of a set cover. -/
theorem Tiles.coverOf_kept_replaced (h : Tiles D nets)
    (hnets : ∀ n ∈ nets, n.address.isMapped = false)
    (hl : ∀ i, i ∈ l ↔ i ∈ nets.map Network.toInet) : coverOf (kept (replaced l)) = leftOver D := by
  have hmem : ∀ {n d}, n ∈ nets → d ∈ n.addresses → d ∈ D := fun hn hd =>
    h.mem_iff.mpr ⟨_, hn, hd⟩
  have hall6 : default6 ∈ l → ∀ a, default6.covers a = true → a ∈ D := by
    intro h6 a ha
    obtain ⟨n, hn, heq⟩ := mem_map.mp ((hl _).mp h6)
    exact hmem hn ((toInet_covers (hnets n hn)).mp (heq ▸ ha))
  ext d
  constructor
  · rintro ⟨i, hi, hd⟩
    obtain ⟨hi, hloopback⟩ := mem_kept.mp hi
    rcases mem_replaced.mp hi with ⟨hi, hne6⟩ | ⟨rfl, h6⟩
    swap
    · have hglobal := global6_covers.mp hd
      refine ⟨hall6 h6 d (default6_of_global6 hd), fun h4 => ?_, fun h1 => ?_, fun _ _ => hd⟩
      · cases (loopback4_covers.mp h4).1.symm.trans hglobal.1
      · have := (loopback6_covers.mp h1).2
        omega
    obtain ⟨n, hn, rfl⟩ := mem_map.mp ((hl i).mp hi)
    have hmapped := hnets n hn
    have hd := (toInet_covers hmapped).mp hd
    rw [isLoopback_iff, toInet_eq hmapped] at hloopback
    refine ⟨hmem hn hd, fun h4 a ha => ?_, fun h1 a ha => ?_, fun h6 hall => ?_⟩
    · -- a network within `127.0.0.0/8` is left out
      have hmask : n.mask ≤ (around4.network (by decide)).mask := by
        by_contra hlt
        have hlong : (loopback4.network (by decide)).mask ≤ n.mask := not_le.mp hlt
        have haddress : loopback4.covers n.address = true := mem_network.mp
          (mem_of_mask_le (mem_network.mpr h4) hd hlong n.address_mem)
        exact hloopback (.inl haddress)
      exact hmem hn (mem_of_mask_le hd (mem_network.mpr (around4_of_loopback4 h4)) hmask
        (mem_network.mpr ha))
    · have hmask : n.mask ≤ (around6.network (by decide)).mask := by
        by_contra hlt
        have hlong : (loopback6.network (by decide)).mask ≤ n.mask := not_le.mp hlt
        have haddress : loopback6.covers n.address = true := mem_network.mp
          (mem_of_mask_le (mem_network.mpr h1) hd hlong n.address_mem)
        have hmax : n.address.maxMask = 128 := congrArg (· * 8) (loopback6_covers.mp haddress).1
        have hle := n.mask_le
        have hlong : 128 ≤ n.mask := hlong
        have heq : (⟨n.address, hmapped⟩ : InetAddress) = loopback6.address :=
          eq_loopback6_iff.mpr haddress
        have hmask : (n.mask : ℤ) = loopback6.mask := by
          show (n.mask : ℤ) = 128
          omega
        exact hloopback (.inr (InetNetwork.mk.injEq .. ▸ ⟨heq, hmask⟩))
      exact hmem hn (mem_of_mask_le hd (mem_network.mpr (around6_of_loopback6 h1)) hmask
        (mem_network.mpr ha))
    · have hmask := h.mask_le_of_covers hn (m := default6) (by decide) hall hd h6
      refine absurd (toInet_eq_default6 hmapped (h.isFirst n hn) ?_ (Nat.le_zero.mp hmask)) hne6
      exact hd.1.symm.trans (default6_covers.mp h6)
  · rintro ⟨hD, h4, h1, h6⟩
    obtain ⟨n, hn, hd⟩ := h.mem_iff.mp hD
    have hmapped := hnets n hn
    have hi : n.toInet ∈ l := (hl _).mpr (mem_map_of_mem hn)
    have hcovers : n.toInet.covers d = true := (toInet_covers hmapped).mpr hd
    by_cases heq : n.toInet = default6
    · have hglobal := h6 (heq ▸ hcovers) (hall6 (heq ▸ hi))
      exact ⟨global6, mem_kept.mpr ⟨mem_replaced.mpr (.inr ⟨rfl, heq ▸ hi⟩), by decide⟩, hglobal⟩
    refine ⟨n.toInet, mem_kept.mpr ⟨mem_replaced.mpr (.inl ⟨hi, heq⟩), fun hloopback => ?_⟩, hcovers⟩
    rcases isLoopback_iff.mp hloopback with hfirst | hone
    · rw [toInet_eq hmapped] at hfirst
      have hmask := mask_of_loopback4 (h.isFirst n hn) hfirst
      have hd4 : loopback4.covers d = true := mem_network.mp
        (mem_of_mask_le (n := loopback4.network (by decide)) (mem_network.mpr hfirst)
          n.address_mem hmask hd)
      have := h.mask_le_of_covers hn (m := around4) (by decide) (h4 hd4) hd (around4_of_loopback4 hd4)
      have : n.mask ≤ 7 := this
      omega
    · have hd1 : loopback6.covers d = true := hone ▸ hcovers
      have hmask : (n.mask : ℤ) = 128 := congrArg InetNetwork.mask hone
      have := h.mask_le_of_covers hn (m := around6) (by decide) (h1 hd1) hd (around6_of_loopback6 hd1)
      have : n.mask ≤ 127 := this
      omega

end Dopamine.Android
