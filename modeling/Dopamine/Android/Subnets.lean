import Dopamine.Android.IpRangeSet
import Dopamine.Intervals.Blocks

/-!
# The networks of a range

`IpRange.subnets` of `client/android/utils/src/main/kotlin/net/IpRange.kt` cuts a range into
networks: from its start on, each time the largest one that fits. On the numbers of the addresses
these are aligned blocks, so the networks hold exactly the addresses of the range and none of them
is part of a larger network within it (`blocksFrom_spec`).

The networks are made from text that `InetAddress.getByName` reads back. It reads the text of an
IPv4-mapped IPv6 address as the IPv4 address.
-/

namespace Dopamine.Android

open Intervals BigEndian List Network IpAddress

/-! ## `InetAddress` and `InetNetwork` -/

/-- An IPv6 address of `::ffff:0:0/96`. -/
def IpAddress.isMapped (a : IpAddress) : Bool :=
  a.address.take 12 == [0, 0, 0, 0, 0, 0, 0, 0, 0, 0, 0xff, 0xff]

/-- `java.net.InetAddress`: an IPv4 or IPv6 address. It never represents an IPv4-mapped address. -/
structure InetAddress where
  ip : IpAddress
  not_mapped : ip.isMapped = false
deriving DecidableEq

variable {a : IpAddress} {n : Network}

theorem IpAddress.size_of_isMapped (h : a.isMapped = true) : a.size = 16 := by
  refine a.size_eq.resolve_left fun hsize => ?_
  have hlen := congrArg length (beq_iff_eq.mp h)
  rw [length_take] at hlen
  have hsize : a.address.length = 4 := hsize
  rw [hsize] at hlen
  cases hlen

/-- An IPv4 address is not mapped. -/
theorem IpAddress.isMapped_of_size (h : a.size = 4) : a.isMapped = false :=
  Bool.eq_false_iff.mpr fun hmapped => absurd (h.symm.trans (size_of_isMapped hmapped)) (by decide)

/-- `parseInetAddress(ip.toString())`: the text of an address is read as this address, and the text
of an IPv4-mapped address as the IPv4 address. -/
def InetAddress.ofIp (ip : IpAddress) : InetAddress :=
  if h : ip.isMapped = true then
    have hlen : (ip.address.drop 12).length = 4 := by
      have hsize : ip.address.length = 16 := IpAddress.size_of_isMapped h
      rw [length_drop, hsize]
    ⟨⟨ip.address.drop 12, .inl hlen⟩, IpAddress.isMapped_of_size hlen⟩
  else ⟨ip, Bool.eq_false_iff.mpr h⟩

/-- The data class `InetNetwork`. -/
structure InetNetwork where
  address : InetAddress
  mask : ℤ
deriving DecidableEq

/-- `isIpv4`. -/
def InetNetwork.isIpv4 (n : InetNetwork) : Bool := n.address.ip.size == 4

/-- The constructor of `IpRange` from a network. -/
def IpRange.ofNetwork (n : InetNetwork) : Except Failure IpRange :=
  IpRange.ofAddress n.address.ip n.mask

namespace IpRange

/-! ## The largest network that begins at an address -/

def countTrailingZeroBits (b : UInt8) : ℕ := ((range 8).find? fun i => b.toNat.testBit i).getD 8

/-- The loop of `getPossibleMaxMask`, over the bytes from the last one on. -/
def maskLoop (mask : ℕ) : List UInt8 → ℕ
  | [] => mask
  | b :: rest =>
      let lastZeroBits := countTrailingZeroBits b
      if lastZeroBits ≠ 8 then mask - lastZeroBits else maskLoop (mask - lastZeroBits) rest

def getPossibleMaxMask (ip : IpAddress) : ℕ := maskLoop ip.maxMask ip.address.reverse

variable (b : UInt8)

theorem countTrailingZeroBits_spec :
    countTrailingZeroBits b ≤ 8 ∧ 2 ^ countTrailingZeroBits b ∣ b.toNat ∧
      (countTrailingZeroBits b = 8 → b.toNat = 0) ∧
      (countTrailingZeroBits b ≠ 8 → ¬2 ^ (countTrailingZeroBits b + 1) ∣ b.toNat) := by
  revert b
  refine forall_byte ?_
  decide +kernel

theorem value_reverse_cons (l : List UInt8) :
    BigEndian.value (b :: l).reverse = b.toNat + 256 * BigEndian.value l.reverse := by
  rw [reverse_cons, value_concat]

variable {mask bits : ℕ} {l : List UInt8} {ip : IpAddress}

/-- The loop subtracts the number of low bits that are zero, as far as there are bytes. -/
theorem maskLoop_spec (hmask : 8 * l.length ≤ mask) :
    ∃ bits, bits ≤ 8 * l.length ∧ maskLoop mask l = mask - bits ∧
      2 ^ bits ∣ BigEndian.value l.reverse ∧
      ∀ j, j ≤ 8 * l.length → 2 ^ j ∣ BigEndian.value l.reverse → j ≤ bits := by
  induction l generalizing mask with
  | nil => exact ⟨0, Nat.zero_le _, rfl, one_dvd _, fun j hj _ => hj⟩
  | cons b rest ih =>
    obtain ⟨hle, hdvd, hzero, hmax⟩ := countTrailingZeroBits_spec b
    rw [length_cons] at hmask
    rw [maskLoop, value_reverse_cons, length_cons]
    by_cases h8 : countTrailingZeroBits b = 8
    · have hmask' : 8 * rest.length ≤ mask - countTrailingZeroBits b := by omega
      obtain ⟨bits, hbits, hloop, hdvd', hmax'⟩ := ih hmask'
      rw [if_neg (not_not.mpr h8), hloop, h8, hzero h8, Nat.zero_add]
      refine ⟨8 + bits, by omega, by omega, ?_, fun j hj hjdvd => ?_⟩
      · rw [pow_add]
        exact Nat.mul_dvd_mul_left 256 hdvd'
      · by_contra hlt
        -- more than eight zero bits are zero bits of the bytes before
        obtain ⟨i, rfl⟩ : ∃ i, j = 8 + i := ⟨j - 8, by omega⟩
        rw [pow_add] at hjdvd
        have := hmax' i (by omega) (Nat.dvd_of_mul_dvd_mul_left (by decide) hjdvd)
        omega
    · have hcount : countTrailingZeroBits b < 8 := lt_of_le_of_ne hle h8
      have h256 : ∀ {i}, i ≤ 8 → 2 ^ i ∣ 256 * BigEndian.value rest.reverse := fun hi =>
        (pow_dvd_pow 2 hi).trans (Nat.dvd_mul_right 256 _)
      rw [if_pos h8]
      refine ⟨countTrailingZeroBits b, by omega, rfl, Nat.dvd_add hdvd (h256 hle), fun j _ hj => ?_⟩
      by_contra hlt
      have hone : 2 ^ (countTrailingZeroBits b + 1) ∣
          b.toNat + 256 * BigEndian.value rest.reverse := (pow_dvd_pow 2 (by omega)).trans hj
      exact hmax h8 ((Nat.dvd_add_left (h256 hcount)).mp hone)

/-- The bits after the mask are the low bits of the address that are zero. -/
theorem getPossibleMaxMask_spec (ip : IpAddress) :
    2 ^ (ip.maxMask - getPossibleMaxMask ip) ∣ ip.value ∧
      ∀ j, j ≤ ip.maxMask → 2 ^ j ∣ ip.value → j ≤ ip.maxMask - getPossibleMaxMask ip := by
  have hlen : 8 * ip.address.reverse.length = ip.maxMask := by
    rw [length_reverse, IpAddress.maxMask, Nat.mul_comm]
    rfl
  obtain ⟨bits, hbits, hloop, hdvd, hmax⟩ := maskLoop_spec hlen.le
  rw [reverse_reverse, hlen] at *
  have hmask : ip.maxMask - getPossibleMaxMask ip = bits := by
    rw [getPossibleMaxMask, hloop]
    omega
  rw [hmask]
  exact ⟨hdvd, hmax⟩

/-! ## The last address of a network -/

/-- The loop of `getLastIpForMask`, over the bytes from the last one on. -/
def setLow : ℕ → List UInt8 → List UInt8
  | _, [] => []
  | remainingBits, b :: rest =>
      if remainingBits > 0 then
        (if remainingBits > 8 then b ||| 0xff else b ||| ~~~shl remainingBits) ::
          setLow (remainingBits - 8) rest
      else b :: rest

@[simp] theorem length_setLow (bits : ℕ) (l : List UInt8) : (setLow bits l).length = l.length := by
  induction l generalizing bits with
  | nil => rfl
  | cons b rest ih =>
    rw [setLow]
    split
    · rw [length_cons, ih, length_cons]
    · rfl

def getLastIpForMask (ip : IpAddress) (mask : ℕ) : IpAddress :=
  ip.withBytes (setLow (ip.maxMask - mask) ip.address.reverse).reverse (by simp)

theorem byte_or_max : (b ||| 0xff).toNat = 255 := by
  revert b
  refine forall_byte ?_
  decide +kernel

theorem setLow_zero (l : List UInt8) : setLow 0 l = l := by
  cases l <;> rfl

/-- The loop sets the low bits. -/
theorem value_setLow (hbits : bits ≤ 8 * l.length) :
    BigEndian.value (setLow bits l).reverse + 1 =
      BigEndian.value l.reverse / 2 ^ bits * 2 ^ bits + 2 ^ bits := by
  induction l generalizing bits with
  | nil =>
    obtain rfl : bits = 0 := Nat.le_zero.mp hbits
    rfl
  | cons b rest ih =>
    rw [length_cons] at hbits
    rw [setLow, value_reverse_cons]
    have hpos : 0 < 2 ^ bits := Nat.two_pow_pos _
    rcases Nat.eq_zero_or_pos bits with rfl | hbpos
    · rw [if_neg (lt_irrefl 0), value_reverse_cons, pow_zero, Nat.div_one, Nat.mul_one]
    rw [if_pos hbpos, value_reverse_cons]
    by_cases h8 : bits > 8
    · obtain ⟨k, rfl⟩ : ∃ k, bits = 8 + k := ⟨bits - 8, by omega⟩
      have hk : k ≤ 8 * rest.length := by omega
      have hrest := ih hk
      have hdiv : (b.toNat + 256 * BigEndian.value rest.reverse) / 2 ^ (8 + k) =
          BigEndian.value rest.reverse / 2 ^ k := by
        have hb : b.toNat < 256 := b.toNat_lt
        rw [pow_add, ← Nat.div_div_eq_div_mul]
        congr 1
        omega
      rw [if_pos h8, byte_or_max, Nat.add_sub_cancel_left, hdiv, pow_add]
      -- all bits of the byte are set, and the rest are bits of the bytes before
      calc 255 + 256 * BigEndian.value (setLow k rest).reverse + 1
          = 256 * (BigEndian.value (setLow k rest).reverse + 1) := by ring
        _ = _ := by rw [hrest]; ring
    · have hbyte := (byte_shl ⟨bits, by omega⟩ b).2
      rw [Nat.min_eq_right (show bits ≤ 8 by omega)] at hbyte
      obtain ⟨m, hm⟩ : 2 ^ bits ∣ 2 ^ 8 := pow_dvd_pow 2 (by omega)
      have hdiv : (b.toNat + 256 * BigEndian.value rest.reverse) / 2 ^ bits =
          b.toNat / 2 ^ bits + m * BigEndian.value rest.reverse := by
        rw [show 256 = 2 ^ bits * m from hm, mul_assoc, Nat.add_mul_div_left _ _ hpos]
      rw [if_neg h8, Nat.sub_eq_zero_of_le (by omega), setLow_zero, hdiv]
      calc (b ||| ~~~shl bits).toNat + 256 * BigEndian.value rest.reverse + 1
          = (b ||| ~~~shl bits).toNat + 1 + 256 * BigEndian.value rest.reverse := by ring
        _ = _ := by rw [hbyte, show 256 = 2 ^ bits * m from hm]; ring

/-- The last address of a network: the bits after the mask are set. -/
theorem getLastIpForMask_value (hbits : bits ≤ ip.maxMask) :
    (getLastIpForMask ip (ip.maxMask - bits)).value + 1 =
      ip.value / 2 ^ bits * 2 ^ bits + 2 ^ bits := by
  have hlen : 8 * ip.address.reverse.length = ip.maxMask := by
    rw [length_reverse, IpAddress.maxMask, Nat.mul_comm]
    rfl
  have hlow : bits ≤ 8 * ip.address.reverse.length := by omega
  have h := value_setLow hlow
  rw [reverse_reverse] at h
  rw [show (getLastIpForMask ip (ip.maxMask - bits)).value = BigEndian.value
    (setLow (ip.maxMask - (ip.maxMask - bits)) ip.address.reverse).reverse from rfl,
    Nat.sub_sub_self hbits]
  exact h

theorem getLastIpForMask_size (ip : IpAddress) (mask : ℕ) :
    (getLastIpForMask ip mask).size = ip.size :=
  IpAddress.length_withBytes _

/-! ## `subnets` -/

/-- The inner loop of `subnets`: `mask` grows until the last address is not after `end`. The
recursion is on the number of bits after the mask. -/
def fitBits (ip stop : IpAddress) : ℕ → ℕ
  | 0 => 0
  | bits + 1 =>
      if getLastIpForMask ip (ip.maxMask - (bits + 1)) > stop then fitBits ip stop bits else bits + 1

/-- The mask of the network that `subnets` takes at an address. -/
def fitMask (ip stop : IpAddress) : ℕ :=
  ip.maxMask - fitBits ip stop (ip.maxMask - getPossibleMaxMask ip)

/-- A network begins at its address and the last address is not before it. -/
theorem le_getLastIpForMask (hmask : mask ≤ ip.maxMask) :
    ip.value ≤ (getLastIpForMask ip mask).value := by
  have hbits : ip.maxMask - mask ≤ ip.maxMask := Nat.sub_le ..
  have h := getLastIpForMask_value hbits
  rw [Nat.sub_sub_self hmask] at h
  have hlt := Nat.lt_div_mul_add (a := ip.value) (Nat.two_pow_pos (ip.maxMask - mask))
  omega

theorem fitMask_le (ip stop : IpAddress) : fitMask ip stop ≤ ip.maxMask := Nat.sub_le ..

/-- The outer loop of `subnets`: the first address and the mask of each network. -/
def blocksFrom (stop currentIp : IpAddress) : Except Failure (List (IpAddress × ℕ)) :=
  if currentIp ≤ stop then
    if (getLastIpForMask currentIp (fitMask currentIp stop)).isMaxIp = true then
      .ok [(currentIp, fitMask currentIp stop)]
    else
      match _h : (getLastIpForMask currentIp (fitMask currentIp stop)).inc with
      | .error e => .error e
      | .ok next => do
          let rest ← blocksFrom stop next
          return (currentIp, fitMask currentIp stop) :: rest
  else .ok []
termination_by 256 ^ currentIp.size - currentIp.value
decreasing_by
  obtain ⟨hsize, hvalue⟩ := IpAddress.inc_eq_ok_iff.mp _h
  have hle := le_getLastIpForMask (fitMask_le currentIp stop)
  have hlt := currentIp.value_lt
  rw [hsize, getLastIpForMask_size]
  omega

def subnets (r : IpRange) : Except Failure (List InetNetwork) := do
  let blocks ← blocksFrom r.stop r.start
  return blocks.map fun b => ⟨InetAddress.ofIp b.1, b.2⟩

/-- The inner loop finds the largest number of bits up to the given one that fits. -/
theorem fitBits_spec {stop : IpAddress} (hsize : ip.size = stop.size) (hle : ip ≤ stop)
    (hbits : bits ≤ ip.maxMask) (hdvd : 2 ^ bits ∣ ip.value) :
    fitBits ip stop bits ≤ bits ∧ ip.value + 2 ^ fitBits ip stop bits ≤ stop.value + 1 ∧
      ∀ j, j ≤ bits → ip.value + 2 ^ j ≤ stop.value + 1 → j ≤ fitBits ip stop bits := by
  have hvalue := (le_iff.mp hle).resolve_left hsize.not_lt
  induction bits with
  | zero => exact ⟨le_rfl, by simpa [fitBits] using hvalue.2, fun j hj _ => hj⟩
  | succ bits ih =>
    have hlast := getLastIpForMask_value hbits
    rw [Nat.div_mul_cancel hdvd] at hlast
    have hiff : getLastIpForMask ip (ip.maxMask - (bits + 1)) > stop ↔
        stop.value + 1 < ip.value + 2 ^ (bits + 1) := by
      rw [gt_iff_lt, lt_iff, getLastIpForMask_size, hsize]
      omega
    rw [fitBits]
    by_cases hfits : ip.value + 2 ^ (bits + 1) ≤ stop.value + 1
    · rw [if_neg fun h => absurd (hiff.mp h) (not_lt.mpr hfits)]
      exact ⟨le_rfl, hfits, fun j hj _ => hj⟩
    · rw [if_pos (hiff.mpr (not_le.mp hfits))]
      obtain ⟨hbound, hwithin, hmax⟩ := ih (by omega) ((pow_dvd_pow 2 (Nat.le_succ bits)).trans hdvd)
      refine ⟨hbound.trans (Nat.le_succ bits), hwithin, fun j hj hj' => ?_⟩
      rcases Nat.lt_or_eq_of_le hj with hlt | rfl
      · exact hmax j (Nat.lt_succ_iff.mp hlt) hj'
      · exact absurd hj' hfits

end IpRange

/-- The numbers of the addresses of a network. -/
def Network.block (n : Network) : Block where
  base := n.address.value / 2 ^ (n.address.maxMask - n.mask) * 2 ^ (n.address.maxMask - n.mask)
  bits := n.address.maxMask - n.mask
  aligned := Nat.dvd_mul_left ..

theorem Network.mem_addresses {d : IpAddress} :
    d ∈ n.addresses ↔ d.size = n.address.size ∧ n.block.Holds d.value := by
  rw [Block.holds_iff]
  have hbase : n.block.base / 2 ^ n.block.bits =
      n.address.value / 2 ^ (n.address.maxMask - n.mask) :=
    Nat.mul_div_cancel _ (Nat.two_pow_pos _)
  rw [hbase]
  rfl

/-- The first and the last address of a network. -/
theorem Network.exists_ends (n : Network) :
    ∃ first ∈ n.addresses, ∃ last ∈ n.addresses,
      first.value = n.block.base ∧ last.value + 1 = n.block.base + 2 ^ n.block.bits := by
  have hmask : -8 < (n.mask : ℤ) := by omega
  obtain ⟨r, -, hstart, hstop, hpoints⟩ := IpRange.ofAddress_eq (a := n.address) hmask
  refine ⟨r.start, (hpoints _).mp ⟨le_rfl, r.start_le_stop⟩, r.stop,
    (hpoints _).mp ⟨r.start_le_stop, le_rfl⟩, hstart, ?_⟩
  rw [hstop, hstart]
  rfl

/-- The address of the network is its first one. -/
def Network.IsFirst (n : Network) : Prop := n.block.base = n.address.value

namespace IpRange

/-- The outer loop does not throw, and fills the range with networks. -/
theorem blocksFrom_spec {stop currentIp : IpAddress} (hsize : currentIp.size = stop.size) :
    ∃ nets : List Network,
      blocksFrom stop currentIp = .ok (nets.map fun n => (n.address, n.mask)) ∧
      Fill (8 * stop.size) stop.value currentIp.value (nets.map Network.block) ∧
      ∀ n ∈ nets, n.address.size = stop.size ∧ n.IsFirst := by
  by_cases hle : currentIp ≤ stop
  swap
  · have hlt := (lt_iff.mp (not_le.mp hle)).resolve_left hsize.symm.not_lt
    rw [blocksFrom, if_neg hle]
    exact ⟨[], rfl, .done hlt.2, fun _ h => nomatch h⟩
  obtain ⟨hdvd, hmost⟩ := getPossibleMaxMask_spec currentIp
  have hmaxMask : currentIp.maxMask = 8 * stop.size := by
    rw [IpAddress.maxMask, hsize, Nat.mul_comm]
  obtain ⟨hbound, hwithin, hmax⟩ := fitBits_spec hsize hle (Nat.sub_le ..) hdvd
  -- the network at the current address
  let first : Network := ⟨currentIp, fitMask currentIp stop, fitMask_le currentIp stop⟩
  have hbits : first.block.bits =
      fitBits currentIp stop (currentIp.maxMask - getPossibleMaxMask currentIp) :=
    Nat.sub_sub_self (hbound.trans (Nat.sub_le ..))
  rw [← hbits] at hbound hwithin hmax
  have hdvd : 2 ^ first.block.bits ∣ currentIp.value := (pow_dvd_pow 2 hbound).trans hdvd
  have hfirst : first.block.base = currentIp.value := Nat.div_mul_cancel hdvd
  have hstep : ∀ {l}, Fill (8 * stop.size) stop.value (currentIp.value + 2 ^ first.block.bits) l →
      Fill (8 * stop.size) stop.value currentIp.value (first.block :: l) := by
    intro l hrest
    rw [← hfirst] at hrest hwithin ⊢
    refine Fill.step ?_ ⟨le_rfl, hwithin⟩ ?_ hrest
    · exact hmaxMask ▸ Nat.sub_le ..
    · intro c hbase hcbits hcwithin
      rw [← hmaxMask] at hcbits
      have hcdvd : 2 ^ c.bits ∣ currentIp.value := hfirst ▸ hbase ▸ c.aligned
      have hcvalue : currentIp.value + 2 ^ c.bits ≤ stop.value + 1 :=
        hfirst ▸ hbase ▸ hcwithin.2
      exact hmax _ (hmost _ hcbits hcdvd) hcvalue
  have hlast : (getLastIpForMask currentIp (fitMask currentIp stop)).value + 1 =
      currentIp.value + 2 ^ first.block.bits := by
    have hwidth : first.block.bits ≤ currentIp.maxMask := Nat.sub_le ..
    have h := getLastIpForMask_value hwidth
    have hmask : currentIp.maxMask - first.block.bits = fitMask currentIp stop :=
      Nat.sub_sub_self (fitMask_le currentIp stop)
    rwa [hmask, Nat.div_mul_cancel hdvd] at h
  have hlsize := getLastIpForMask_size currentIp (fitMask currentIp stop)
  rw [blocksFrom, if_pos hle]
  rcases (getLastIpForMask currentIp (fitMask currentIp stop)).inc_cases with
    ⟨hend, -⟩ | ⟨hend, next, hinc, -⟩
  · -- the last address of the family is reached
    have hdone : stop.value < currentIp.value + 2 ^ first.block.bits := by
      rw [← hlast, (isMaxIp_iff _).mp hend, hlsize, hsize]
      exact stop.value_lt
    rw [if_pos hend]
    refine ⟨[first], rfl, hstep (.done hdone), fun n hn => ?_⟩
    rw [mem_singleton.mp hn]
    exact ⟨hsize, hfirst⟩
  · obtain ⟨hnsize, hnvalue⟩ := inc_eq_ok_iff.mp hinc
    have hdecr : 256 ^ next.size - next.value < 256 ^ currentIp.size - currentIp.value := by
      have hle := le_getLastIpForMask (fitMask_le currentIp stop)
      have hlt := currentIp.value_lt
      rw [hnsize, hlsize]
      omega
    have hsize' : next.size = stop.size := (hnsize.trans hlsize).trans hsize
    obtain ⟨nets, hnets, hfill, hall⟩ := blocksFrom_spec hsize'
    rw [hnvalue, hlast] at hfill
    rw [if_neg (Bool.eq_false_iff.mp hend)]
    refine ⟨first :: nets, ?_, hstep hfill, fun n hn => ?_⟩
    · split
      · rename_i e he
        exact Except.noConfusion rfl rfl (heq_of_eq (hinc.symm.trans he))
      · rename_i next' hnext'
        obtain rfl : next = next' := Except.ok.inj (hinc.symm.trans hnext')
        rw [hnets]
        rfl
    · rcases mem_cons.mp hn with rfl | hn
      · exact ⟨hsize, hfirst⟩
      · exact hall n hn
termination_by 256 ^ currentIp.size - currentIp.value

end IpRange

/-! ## The networks of a set of addresses -/

/-- Networks that hold exactly the addresses of a set, each given by its first address, and none of
them part of a larger network within the set. -/
structure Tiles (D : Set IpAddress) (nets : List Network) : Prop where
  mem_iff : ∀ {d}, d ∈ D ↔ ∃ n ∈ nets, d ∈ n.addresses
  isFirst : ∀ n ∈ nets, n.IsFirst
  mask_le : ∀ n ∈ nets, ∀ {m : Network} {d : IpAddress}, m.addresses ⊆ D → d ∈ n.addresses →
    d ∈ m.addresses → n.mask ≤ m.mask

/-- The network as it is read back from text. -/
def Network.toInet (n : Network) : InetNetwork := ⟨InetAddress.ofIp n.address, n.mask⟩

/-- The networks of a range, in ascending order. -/
theorem IpRange.exists_tiles (r : IpRange) :
    ∃ nets : List Network, IpRange.subnets r = .ok (nets.map Network.toInet) ∧
      Tiles r.points nets ∧
      nets.Pairwise fun n m => ∀ d ∈ n.addresses, ∀ e ∈ m.addresses, d < e := by
  obtain ⟨nets, hnets, hfill, hall⟩ := blocksFrom_spec r.family_eq
  have hmem : ∀ {d : IpAddress}, d ∈ r.points ↔
      d.size = r.stop.size ∧ r.start.value ≤ d.value ∧ d.value ≤ r.stop.value := by
    intro d
    have hsize : r.start.size = r.stop.size := r.family_eq
    rw [Segment.mem_points, le_iff, le_iff]
    omega
  refine ⟨nets, ?_, ⟨?_, fun n hn => (hall n hn).2, ?_⟩, ?_⟩
  · rw [subnets, hnets]
    show Except.ok _ = _
    rw [map_map]
    rfl
  · intro d
    rw [hmem, ← hfill.exists_mem_iff]
    constructor
    · rintro ⟨hsize, b, hb, hd⟩
      obtain ⟨n, hn, rfl⟩ := mem_map.mp hb
      exact ⟨n, hn, mem_addresses.mpr ⟨hsize.trans (hall n hn).1.symm, hd⟩⟩
    · rintro ⟨n, hn, hd⟩
      obtain ⟨hsize, hd⟩ := mem_addresses.mp hd
      exact ⟨hsize.trans (hall n hn).1, n.block, mem_map_of_mem hn, hd⟩
  · intro n hn m d hm hdn hdm
    obtain ⟨hdsize, hdn⟩ := mem_addresses.mp hdn
    obtain ⟨hdsize', hdm⟩ := mem_addresses.mp hdm
    have hmsize : m.address.size = n.address.size := hdsize'.symm.trans hdsize
    have hmask : m.address.maxMask = n.address.maxMask := congrArg (· * 8) hmsize
    have hwidth : m.block.bits ≤ 8 * r.stop.size := by
      rw [← (hall n hn).1, ← hmsize, Nat.mul_comm]
      exact Nat.sub_le ..
    -- the first and the last address of `m` lie in the range
    obtain ⟨first, hfirst, last, hlast, hbase, hend⟩ := m.exists_ends
    have hwithin : m.block.Within r.start.value r.stop.value := by
      have h₁ := (hmem.mp (hm hfirst)).2.1
      have h₂ := (hmem.mp (hm hlast)).2.2
      exact ⟨by omega, by omega⟩
    have hbits := hfill.maximal (mem_map_of_mem hn) hwidth hwithin hdn hdm
    have hbits : m.address.maxMask - m.mask ≤ n.address.maxMask - n.mask := hbits
    have hn' := n.mask_le
    omega
  · refine (pairwise_map.mp hfill.pairwise).imp_of_mem fun {n m} hn hm hnm d hd e he => ?_
    obtain ⟨hdsize, hd⟩ := mem_addresses.mp hd
    obtain ⟨hesize, he⟩ := mem_addresses.mp he
    have hsize : d.size = e.size :=
      (hdsize.trans (hall n hn).1).trans (hesize.trans (hall m hm).1).symm
    exact lt_iff.mpr (.inr ⟨hsize, hd.2.trans_le (hnm.trans he.1)⟩)

/-- `subnets` of the set. -/
def IpRangeSet.subnets (set : IpRangeSet) : Except Failure (List InetNetwork) := do
  let networks ← set.ranges.mapM IpRange.subnets
  return networks.flatten

/-- A network within a normal set lies in one of its ranges. -/
theorem Network.exists_of_subset {l : List IpRange} (hl : Normal l) (h : n.addresses ⊆ cover l) :
    ∃ r ∈ l, n.addresses ⊆ r.points := by
  obtain ⟨s, -, hs⟩ := n.exists_range
  rw [← hs] at h ⊢
  exact hl.exists_of_subset h

/-- The networks of several ranges, one after the other. -/
theorem mapM_subnets (l : List IpRange) :
    ∃ nets : List (List Network),
      l.mapM IpRange.subnets = .ok (nets.map fun ns => ns.map Network.toInet) ∧
      (∀ ns ∈ nets, ∃ r ∈ l, Tiles r.points ns) ∧ ∀ r ∈ l, ∃ ns ∈ nets, Tiles r.points ns := by
  induction l with
  | nil =>
    exact ⟨[], rfl, fun _ h => (nomatch h), fun _ h => nomatch h⟩
  | cons r l ih =>
    obtain ⟨ns, hns, htiles, -⟩ := r.exists_tiles
    obtain ⟨nets, hnets, hof, hall⟩ := ih
    refine ⟨ns :: nets, ?_, fun ns' h => ?_, fun r' h => ?_⟩
    · rw [mapM_cons, hns, hnets]
      rfl
    · rcases mem_cons.mp h with rfl | h
      · exact ⟨r, mem_cons_self, htiles⟩
      · exact (hof ns' h).imp fun _ ⟨hmem, h⟩ => ⟨mem_cons_of_mem _ hmem, h⟩
    · rcases mem_cons.mp h with rfl | h
      · exact ⟨ns, mem_cons_self, htiles⟩
      · exact (hall r' h).imp fun _ ⟨hmem, h⟩ => ⟨mem_cons_of_mem _ hmem, h⟩

/-- The networks of a normal set. -/
theorem IpRangeSet.exists_tiles {set : IpRangeSet} (hset : Normal set.ranges) :
    ∃ nets : List Network, set.subnets = .ok (nets.map Network.toInet) ∧
      Tiles (cover set.ranges) nets := by
  obtain ⟨nets, hnets, hranges, hall⟩ := mapM_subnets set.ranges
  have hof : ∀ n ∈ nets.flatten, ∃ r ∈ set.ranges, ∃ ns, n ∈ ns ∧ Tiles r.points ns := by
    intro n hn
    obtain ⟨ns, hns, hn⟩ := mem_flatten.mp hn
    obtain ⟨r, hr, htiles⟩ := hranges ns hns
    exact ⟨r, hr, ns, hn, htiles⟩
  refine ⟨nets.flatten, ?_, ?_, ?_, ?_⟩
  · rw [subnets, hnets]
    show Except.ok _ = _
    rw [map_flatten]
  · intro d
    constructor
    · rintro ⟨r, hr, hd⟩
      obtain ⟨ns, hns, htiles⟩ := hall r hr
      obtain ⟨n, hn, hd⟩ := htiles.mem_iff.mp hd
      exact ⟨n, mem_flatten_of_mem hns hn, hd⟩
    · rintro ⟨n, hn, hd⟩
      obtain ⟨r, hr, ns, hns, htiles⟩ := hof n hn
      exact ⟨r, hr, htiles.mem_iff.mpr ⟨n, hns, hd⟩⟩
  · intro n hn
    obtain ⟨r, -, ns, hns, htiles⟩ := hof n hn
    exact htiles.isFirst n hns
  · intro n hn m d hm hdn hdm
    obtain ⟨r, hr, ns, hns, htiles⟩ := hof n hn
    obtain ⟨r', hr', hm⟩ := exists_of_subset hset hm
    obtain rfl : r = r' := hset.eq_of_mem hr hr' (htiles.mem_iff.mpr ⟨n, hns, hdn⟩) (hm hdm)
    exact htiles.mask_le n hns hm hdn hdm

end Dopamine.Android
