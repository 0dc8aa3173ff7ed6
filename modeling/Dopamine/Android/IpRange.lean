import Dopamine.Android.IpAddress
import Mathlib.Tactic.FinCases

/-!
# Ranges of addresses

The class `IpRange` of `client/android/utils/src/main/kotlin/net/IpRange.kt`, but for `subnets`. Its
constructor makes sure that a range is a segment of the line of addresses. `plus` and `minus` may
throw where a range is built or a neighbour is taken, but they never do: they are `Segment.join` and
`Segment.diff` (`plus_eq`, `minus_eq`). A network is the range of the addresses that agree with it
on the prefix (`mem_points_of_ofAddress`).
-/

namespace Dopamine.Android

open Intervals BigEndian List IpAddress Except Segment

/-- The class `IpRange`: two addresses of one size, the first not greater than the second. -/
abbrev IpRange := Segment IpAddress.line

namespace IpRange

/-- The constructor from two addresses, with the checks of `init`. -/
def make (start stop : IpAddress) : Except Failure IpRange :=
  if hsize : start.size ≠ stop.size then .error (.mixedSizes start stop)
  else if hlt : start > stop then .error (.reversed start stop)
  else .ok ⟨start, stop, not_lt.mp hlt, not_not.mp hsize⟩

variable {start stop a : IpAddress} {r other : IpRange} {i : ℕ} {mask : ℤ}

theorem make_eq (hle : start ≤ stop) (hsize : start.size = stop.size) :
    make start stop = .ok ⟨start, stop, hle, hsize⟩ := by
  rw [make, dif_neg (not_not.mpr hsize), dif_neg (not_lt.mpr hle)]

/-- From the two ends of a segment the constructor makes that segment. -/
theorem make_segment {s : IpRange} (hstart : start = s.start) (hstop : stop = s.stop) :
    make start stop = .ok s := by
  rw [hstart, hstop]
  exact make_eq s.start_le_stop s.family_eq

/-- `contains`: `other in this`. -/
def contains (r other : IpRange) : Bool := r.start ≤ other.start && r.stop ≥ other.stop

def isIntersect (r other : IpRange) : Bool := r.start ≤ other.stop && r.stop ≥ other.start

theorem isIntersect_iff : r.isIntersect other = true ↔ r.Overlap other := by
  simp [isIntersect, Overlap]

/-! ## `plus` -/

variable (r other)

/-- `start > other.end && !start.isMinIp() && start.dec() == other.end`. -/
def startsAfter : Except Failure Bool :=
  if r.start > other.stop ∧ r.start.isMinIp = false then do
    let p ← r.start.dec
    return p = other.stop
  else return false

/-- `end < other.start && !end.isMaxIp() && end.inc() == other.start`. -/
def endsBefore : Except Failure Bool :=
  if r.stop < other.start ∧ r.stop.isMaxIp = false then do
    let n ← r.stop.inc
    return n = other.start
  else return false

/-- `plus`: two ranges together, or `null`. -/
def plus : Except Failure (Option IpRange) := do
  if ← r.startsAfter other then return some (← make other.start r.stop)
  else if ← r.endsBefore other then return some (← make r.start other.stop)
  else if r.isIntersect other = false then return none
  else return some (← make (min r.start other.start) (max r.stop other.stop))

/-- The address before or after is compared, if there is one and the order `p` allows it. -/
theorem neighbour_eq {p : Prop} [Decidable p] {last : Bool} {x : Except Failure IpAddress}
    {o : Option IpAddress} {a : IpAddress}
    (h : last = true ∧ o = none ∨ last = false ∧ ∃ n, x = .ok n ∧ o = some n)
    (hp : o = some a → p) :
    (if p ∧ last = false then do
      let n ← x
      return n = a
    else return false) = Except.ok (decide (o = some a)) := by
  rcases h with ⟨rfl, rfl⟩ | ⟨rfl, n, rfl, rfl⟩
  · rw [if_neg fun h => Bool.noConfusion h.2]
    rfl
  · by_cases hlt : p
    · rw [if_pos ⟨hlt, rfl⟩]
      exact congrArg ok (decide_eq_decide.mpr Option.some_inj.symm)
    · rw [if_neg fun h => hlt h.1]
      exact congrArg ok (decide_eq_false fun h => hlt (hp h)).symm

theorem startsAfter_eq :
    r.startsAfter other = .ok (decide (IpAddress.line.prev r.start = some other.stop)) :=
  neighbour_eq r.start.dec_cases fun h => (IpAddress.line.prev_eq_some_iff.mp h).1.lt

theorem endsBefore_eq :
    r.endsBefore other = .ok (decide (IpAddress.line.next r.stop = some other.start)) :=
  neighbour_eq r.stop.inc_cases fun h => (IpAddress.line.next_eq_some_iff.mp h).1.lt

/-- `plus` does not throw. -/
theorem plus_eq : r.plus other = .ok (r.join other) := by
  have hjoin : ∀ h : r.Meet other, r.join other = some (r.hull other h.family_eq) :=
    fun h => dif_pos h
  simp only [plus, startsAfter_eq, endsBefore_eq, bind, Except.bind, pure, Except.pure,
    decide_eq_true_eq]
  by_cases hprev : IpAddress.line.prev r.start = some other.stop
  · have hmeet : r.Meet other := .inl hprev
    have hlt := (IpAddress.line.prev_eq_some_iff.mp hprev).1.lt
    have hmake : make other.start r.stop = .ok (r.hull other hmeet.family_eq) :=
      make_segment (min_eq_right (other.start_le_stop.trans hlt.le)).symm
        (max_eq_left (hlt.le.trans r.start_le_stop)).symm
    rw [if_pos hprev, hmake, hjoin hmeet]
  rw [if_neg hprev]
  by_cases hnext : IpAddress.line.next r.stop = some other.start
  · have hmeet : r.Meet other := .inr (.inl hnext)
    have hlt := (IpAddress.line.next_eq_some_iff.mp hnext).1.lt
    have hmake : make r.start other.stop = .ok (r.hull other hmeet.family_eq) :=
      make_segment (min_eq_left (r.start_le_stop.trans hlt.le)).symm
        (max_eq_right (hlt.le.trans other.start_le_stop)).symm
    rw [if_pos hnext, hmake, hjoin hmeet]
  rw [if_neg hnext]
  by_cases hoverlap : r.Overlap other
  · have hmeet : r.Meet other := .inr (.inr hoverlap)
    have hmake : make (min r.start other.start) (max r.stop other.stop) =
        .ok (r.hull other hmeet.family_eq) := make_segment rfl rfl
    rw [if_neg (by simpa using isIntersect_iff.mpr hoverlap), hmake, hjoin hmeet]
  · have hmeet : ¬r.Meet other := fun h => hoverlap ((h.resolve_left hprev).resolve_left hnext)
    rw [if_pos (Bool.eq_false_iff.mpr fun h => hoverlap (isIntersect_iff.mp h))]
    have hnone : r.join other = none := dif_neg hmeet
    rw [hnone]

/-! ## `minus` -/

/-- `if (start < other.start) resultRanges += IpRange(start, other.start.dec())`. -/
def minusLeft : Except Failure (List IpRange) :=
  if r.start < other.start then do
    let p ← other.start.dec
    return [← make r.start p]
  else return []

/-- `if (end > other.end) resultRanges += IpRange(other.end.inc(), end)`. -/
def minusRight : Except Failure (List IpRange) :=
  if r.stop > other.stop then do
    let n ← other.stop.inc
    return [← make n r.stop]
  else return []

/-- `minus`: what is left of a range, or `null` if nothing of it is taken away. -/
def minus : Except Failure (Option (List IpRange)) := do
  if other.contains r then return some []
  else if r.isIntersect other = false then return none
  else
    let left ← r.minusLeft other
    let right ← r.minusRight other
    return some (left ++ right)

variable {r other} (h : r.Overlap other)

theorem minusLeft_eq : r.minusLeft other = .ok (r.leftPieces other h) := by
  unfold minusLeft
  by_cases hlt : r.start < other.start
  · obtain ⟨p, hp⟩ := exists_prev h hlt
    have hdec : other.start.dec = .ok p := dec_eq_ok_iff.mpr
      (covBy_iff.mp (IpAddress.line.prev_eq_some_iff.mp hp))
    have hmake : make r.start p = .ok (r.left other ⟨hlt, h⟩ p hp) := make_segment rfl rfl
    rw [if_pos hlt, hdec, leftPieces_eq h hlt hp]
    simp only [bind, Except.bind, pure, Except.pure, hmake]
  · rw [if_neg hlt, leftPieces, dif_neg hlt]
    rfl

theorem minusRight_eq : r.minusRight other = .ok (r.rightPieces other h) := by
  unfold minusRight
  by_cases hlt : other.stop < r.stop
  · obtain ⟨n, hn⟩ := exists_next h hlt
    have hinc : other.stop.inc = .ok n := inc_eq_ok_iff.mpr
      (covBy_iff.mp (IpAddress.line.next_eq_some_iff.mp hn))
    have hmake : make n r.stop = .ok (r.right other ⟨hlt, h⟩ n hn) := make_segment rfl rfl
    rw [if_pos hlt, hinc, rightPieces_eq h hlt hn]
    simp only [bind, Except.bind, pure, Except.pure, hmake]
  · rw [if_neg hlt, rightPieces, dif_neg hlt]
    rfl

/-- `minus` does not throw. -/
theorem minus_eq (r other : IpRange) : r.minus other = .ok (r.diff other) := by
  unfold minus diff
  by_cases hcontains : other.contains r = true
  · -- a range within the other one overlaps it, and nothing is left
    have hwithin : other.start ≤ r.start ∧ r.stop ≤ other.stop := by
      simpa [contains] using hcontains
    have hoverlap : r.Overlap other :=
      ⟨r.start_le_stop.trans hwithin.2, hwithin.1.trans r.start_le_stop⟩
    rw [if_pos hcontains, dif_pos hoverlap, pieces, leftPieces,
      dif_neg (not_lt.mpr hwithin.1), rightPieces, dif_neg (not_lt.mpr hwithin.2)]
    rfl
  rw [if_neg hcontains]
  by_cases hoverlap : r.Overlap other
  · rw [if_neg (by simpa using isIntersect_iff.mpr hoverlap), dif_pos hoverlap,
      minusLeft_eq hoverlap, minusRight_eq hoverlap]
    rfl
  · rw [if_pos (Bool.eq_false_iff.mpr fun h => hoverlap (isIntersect_iff.mp h)), dif_neg hoverlap]
    rfl

/-! ## The range of a network -/

/-- `fill`: the bytes from `fromByte` on are replaced. -/
def fill (value : UInt8) (fromByte : ℕ) (l : List UInt8) : List UInt8 :=
  l.take fromByte ++ replicate (l.length - fromByte) value

/-- `(0xffu shl bits).toUByte()`. -/
def shl (bits : ℕ) : UInt8 := ((0xff : UInt32) <<< UInt32.ofNat bits).toUInt8

def byteMask (mask : ℤ) : UInt8 := shl (8 - mask.tmod 8).toNat

/-- The bytes of an address with byte `i` changed and all later bytes replaced. -/
def masked (a : IpAddress) (i : ℕ) (change : UInt8 → UInt8) (rest : UInt8) : IpAddress :=
  a.withBytes (fill rest (i + 1) (a.address.set i (change (a.address.getD i 0)))) (by
    rw [fill, length_append, length_take, length_replicate, length_set]
    omega)

/-- `from`: the first and the last address of a network. -/
def fromAddress (address : IpAddress) (mask : ℤ) : Except Failure (IpAddress × IpAddress) :=
  let lastByte := mask.tdiv 8
  if lastByte < address.size then
    if lastByte < 0 then .error (.outOfBounds lastByte)
    else
      .ok (masked address lastByte.toNat (· &&& byteMask mask) 0,
        masked address lastByte.toNat (· ||| ~~~byteMask mask) 0xff)
  else .ok (address, address)

/-- The constructor from an address and a mask. -/
def ofAddress (address : IpAddress) (mask : ℤ) : Except Failure IpRange := do
  let (start, stop) ← fromAddress address mask
  make start stop

/-- What the mask keeps and clears, for every byte. -/
theorem byte_shl : ∀ bits : Fin 16, ∀ b : UInt8,
    (b &&& shl bits).toNat = b.toNat / 2 ^ min 8 bits.val * 2 ^ min 8 bits.val ∧
      (b ||| ~~~shl bits).toNat + 1 =
        b.toNat / 2 ^ min 8 bits.val * 2 ^ min 8 bits.val + 2 ^ min 8 bits.val := by
  intro bits
  refine forall_byte ?_
  revert bits
  decide +kernel

/-- The number of bits of the last byte that a mask clears. -/
def clearedBits (mask : ℤ) : ℕ := min 8 (8 - mask.tmod 8).toNat

theorem byteMask_spec (mask : ℤ) (b : UInt8) :
    (b &&& byteMask mask).toNat = b.toNat / 2 ^ clearedBits mask * 2 ^ clearedBits mask ∧
      (b ||| ~~~byteMask mask).toNat + 1 =
        b.toNat / 2 ^ clearedBits mask * 2 ^ clearedBits mask + 2 ^ clearedBits mask := by
  have hlt : (8 - mask.tmod 8).toNat < 16 := by
    have := Int.lt_tmod_of_pos mask (b := 8) (by decide)
    omega
  exact byte_shl ⟨_, hlt⟩ b

/-- An address, taken apart at one of its bytes. -/
theorem value_eq_at (hi : i < a.size) :
    a.value = 256 ^ (a.size - (i + 1)) *
        ((a.address.getD i 0).toNat + 256 * BigEndian.value (a.address.take i)) +
      BigEndian.value (a.address.drop (i + 1)) := by
  have hi : i < a.address.length := hi
  have hget : a.address.getD i 0 = a.address[i] := getD_eq_getElem _ _ hi
  have hsplit : a.address = a.address.take i ++ [a.address.getD i 0] ++ a.address.drop (i + 1) := by
    rw [hget, append_assoc, singleton_append, getElem_cons_drop,
      take_append_drop]
  have hlen : (a.address.drop (i + 1)).length = a.size - (i + 1) := length_drop
  unfold IpAddress.value
  conv_lhs => rw [hsplit, value_append, value_concat, hlen]

theorem value_masked (hi : i < a.size) (change : UInt8 → UInt8) (rest : UInt8) :
    (masked a i change rest).value = 256 ^ (a.size - (i + 1)) *
        ((change (a.address.getD i 0)).toNat + 256 * BigEndian.value (a.address.take i)) +
      BigEndian.value (replicate (a.size - (i + 1)) rest) := by
  have htake : (a.address.set i (change (a.address.getD i 0))).take (i + 1) =
      a.address.take i ++ [change (a.address.getD i 0)] := by
    have hi : i < a.address.length := hi
    rw [take_succ_eq_append_getElem (by simpa using hi), getElem_set_self,
      take_set_of_le le_rfl]
  show BigEndian.value (fill rest (i + 1) _) = _
  rw [fill, htake, length_set, value_append, value_concat, length_replicate]
  rfl

/-- Where a mask ends: in byte `mask / 8`, with as many bits left as the later bytes and the cleared
bits of this byte have. Negative masks above `-8` act like the mask `0`. -/
theorem maskEnd (hmask : -8 < mask) :
    0 ≤ mask.tdiv 8 ∧
      (mask.tdiv 8 < a.size → a.maxMask - mask.toNat =
        8 * (a.size - ((mask.tdiv 8).toNat + 1)) + clearedBits mask) ∧
      (¬mask.tdiv 8 < a.size → a.maxMask - mask.toNat = 0) := by
  have hcases : (0 ≤ mask ∧ mask.tdiv 8 = mask / 8 ∧ mask.tmod 8 = mask % 8) ∨
      (mask < 0 ∧ mask.tdiv 8 = 0 ∧ mask.tmod 8 = mask) := by
    rcases lt_or_ge mask 0 with hneg | hpos
    · refine .inr ⟨hneg, ?_⟩
      interval_cases mask <;> decide
    · exact .inl ⟨hpos, Int.tdiv_eq_ediv_of_nonneg hpos, Int.tmod_eq_emod_of_nonneg hpos⟩
  have hsize := a.size_eq
  unfold clearedBits IpAddress.maxMask
  rcases hcases with ⟨hpos, hdiv, hmod⟩ | ⟨hneg, hdiv, hmod⟩
  · rw [hdiv, hmod]
    omega
  · rw [hdiv, hmod]
    omega

/-- `from` clears the bits after the prefix in the first address and sets them in the last one. It
throws only for a mask of `-8` or less. -/
theorem fromAddress_eq (hmask : -8 < mask) :
    ∃ start stop, fromAddress a mask = .ok (start, stop) ∧
      start.size = a.size ∧ stop.size = a.size ∧
      start.value = a.value / 2 ^ (a.maxMask - mask.toNat) * 2 ^ (a.maxMask - mask.toNat) ∧
      stop.value + 1 = start.value + 2 ^ (a.maxMask - mask.toNat) := by
  obtain ⟨hdiv, hwithin, hbeyond⟩ := maskEnd (a := a) hmask
  unfold fromAddress
  by_cases hlast : mask.tdiv 8 < a.size
  · have hi : (mask.tdiv 8).toNat < a.size := by omega
    have hbits : 2 ^ (a.maxMask - mask.toNat) =
        256 ^ (a.size - ((mask.tdiv 8).toNat + 1)) * 2 ^ clearedBits mask := by
      rw [hwithin hlast, pow_add, pow_mul]
      norm_num
    have hdvd : 2 ^ clearedBits mask ∣ 256 := pow_dvd_pow 2 (min_le_left 8 _)
    obtain ⟨hand, hor⟩ := byteMask_spec mask (a.address.getD (mask.tdiv 8).toNat 0)
    have hdrop := BigEndian.value_lt (a.address.drop ((mask.tdiv 8).toNat + 1))
    rw [length_drop] at hdrop
    have hstart : (masked a (mask.tdiv 8).toNat (· &&& byteMask mask) 0).value =
        a.value / 2 ^ (a.maxMask - mask.toNat) * 2 ^ (a.maxMask - mask.toNat) := by
      rw [value_masked hi, hand, value_replicate_zero, Nat.add_zero, hbits, value_eq_at hi]
      exact (prefix_floor hdrop hdvd).symm
    rw [if_pos hlast, if_neg (by omega)]
    refine ⟨_, _, rfl, length_withBytes _, length_withBytes _, hstart, ?_⟩
    rw [value_masked hi, value_masked hi, Nat.add_assoc, value_replicate_max,
      value_replicate_zero, hand, hbits]
    -- the last byte of the prefix is one short of the next one
    rw [← Nat.mul_add_one, Nat.add_right_comm, hor]
    ring
  · rw [if_neg hlast, hbeyond hlast]
    exact ⟨a, a, rfl, rfl, rfl, by simp, by simp⟩

/-- A network with a mask above `-8` is a range: its addresses are those that agree with it on the
prefix. -/
theorem ofAddress_eq (hmask : -8 < mask) :
    ∃ r, ofAddress a mask = .ok r ∧
      r.start.value = a.value / 2 ^ (a.maxMask - mask.toNat) * 2 ^ (a.maxMask - mask.toNat) ∧
      r.stop.value + 1 = r.start.value + 2 ^ (a.maxMask - mask.toNat) ∧
      ∀ d : IpAddress, d ∈ r.points ↔
        d.size = a.size ∧
          d.value / 2 ^ (a.maxMask - mask.toNat) = a.value / 2 ^ (a.maxMask - mask.toNat) := by
  obtain ⟨start, stop, hfrom, hstart, hstop, hvalue, hlast⟩ := fromAddress_eq (a := a) hmask
  have hpos : 0 < 2 ^ (a.maxMask - mask.toNat) := Nat.two_pow_pos _
  have hle : start ≤ stop := le_iff.mpr (.inr ⟨hstart.trans hstop.symm, by omega⟩)
  refine ⟨⟨start, stop, hle, hstart.trans hstop.symm⟩, ?_, hvalue, hlast, fun d => ?_⟩
  · rw [ofAddress, hfrom]
    exact make_eq hle (hstart.trans hstop.symm)
  · rw [mem_points, le_iff, le_iff]
    show (start.size < d.size ∨ start.size = d.size ∧ start.value ≤ d.value) ∧
      (d.size < stop.size ∨ d.size = stop.size ∧ d.value ≤ stop.value) ↔ _
    rw [Nat.div_eq_iff hpos, hstart, hstop]
    omega

/-- A range comes from a mask above `-8` only. -/
theorem mask_of_ofAddress (h : ofAddress a mask = .ok r) : -8 < mask := by
  by_contra hle
  have hdiv : mask.tdiv 8 = -(-mask / 8) := by
    rw [← Int.tdiv_eq_ediv_of_nonneg (by omega), Int.neg_tdiv, neg_neg]
  have hfrom : fromAddress a mask = .error (.outOfBounds (mask.tdiv 8)) := by
    unfold fromAddress
    rw [if_pos (by omega), if_pos (by omega)]
  rw [ofAddress, hfrom] at h
  cases h

end IpRange

/-- A network: an address with a prefix length of its family. -/
structure Network where
  address : IpAddress
  mask : ℕ
  mask_le : mask ≤ address.maxMask

namespace Network

/-- The addresses that agree with the network on the prefix. -/
def addresses (n : Network) : Set IpAddress :=
  {d | d.size = n.address.size ∧
    d.value / 2 ^ (n.address.maxMask - n.mask) =
      n.address.value / 2 ^ (n.address.maxMask - n.mask)}

/-- The range of a network holds its addresses. -/
theorem exists_range (n : Network) :
    ∃ r, IpRange.ofAddress n.address n.mask = .ok r ∧ r.points = n.addresses := by
  have hmask : -8 < (n.mask : ℤ) := by omega
  obtain ⟨r, hr, -, -, hpoints⟩ := IpRange.ofAddress_eq (a := n.address) hmask
  exact ⟨r, hr, Set.ext hpoints⟩

end Network

end Dopamine.Android
