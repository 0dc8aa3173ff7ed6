import Dopamine.Bytes.BigEndian
import Dopamine.Intervals.Line
import Mathlib.Data.List.GetD

/-!
# Addresses of the Android client

The class `IpAddress` of `client/android/utils/src/main/kotlin/net/IpAddress.kt`: 4 or 16 bytes,
compared by size and then byte by byte, with the loops that carry from the last byte on. All IPv4
addresses come before all IPv6 addresses, and the last IPv4 address has no next one
(`IpAddress.line`).
-/

namespace Dopamine.Android

open BigEndian List BigEndian

/-- The class `IpAddress`: the bytes of an IPv4 or IPv6 address. -/
structure IpAddress where
  address : List UInt8
  length_address : address.length = 4 ∨ address.length = 16
deriving DecidableEq

/-- The exceptions that the modelled code throws. -/
inductive Failure where
  /-- `RuntimeException("IP address overflow")`. -/
  | overflow
  /-- "Unable to create a range between IPv4 and IPv6 addresses (start IP: .., end IP: ..)". -/
  | mixedSizes (start stop : IpAddress)
  /-- "Start IP: .. is greater then end IP: ..". -/
  | reversed (start stop : IpAddress)
  /-- An access to a byte that an array does not have. -/
  | outOfBounds (index : ℤ)
  /-- `BadConfigException`. -/
  | badConfig (message : String)
  /-- A value that a JSON object does not have. -/
  | json (key : String)
  /-- Text that is no address. -/
  | unknownHost (text : String)
  /-- Text that is no number. -/
  | numberFormat (text : String)
  /-- `IllegalArgumentException` of `VpnService.Builder` or `IpPrefix`. -/
  | illegalRoute
deriving DecidableEq

namespace IpAddress

variable (a : IpAddress)

def size : ℕ := a.address.length

def maxMask : ℕ := a.size * 8

/-- The address as a number. -/
def value : ℕ := BigEndian.value a.address

theorem size_eq : a.size = 4 ∨ a.size = 16 := a.length_address

theorem value_lt : a.value < 256 ^ a.size := BigEndian.value_lt a.address

variable {a b : IpAddress} {l : List UInt8}

/-- Addresses of one size and one number are the same. -/
theorem ext_value (hsize : a.size = b.size) (hvalue : a.value = b.value) : a = b := by
  obtain ⟨l, hl⟩ := a
  obtain ⟨r, hr⟩ := b
  obtain rfl : l = r := value_inj hsize hvalue
  rfl

/-- Other bytes in the place of those of an address. -/
def withBytes (a : IpAddress) (l : List UInt8) (h : l.length = a.address.length) : IpAddress :=
  ⟨l, h ▸ a.length_address⟩

theorem length_withBytes (h : l.length = a.address.length) : (a.withBytes l h).size = a.size := h

/-! ## `inc` and `dec` -/

/-- The loops of `inc` and `dec`: from byte `i - 1` down, a byte is changed, and the loop goes on
while the changed byte is `wrapped`. -/
def carryFrom (change : UInt8 → UInt8) (wrapped : UInt8) : ℕ → List UInt8 → List UInt8
  | 0, copy => copy
  | i + 1, copy =>
      let b := change (copy.getD i 0)
      if b ≠ wrapped then copy.set i b else carryFrom change wrapped i (copy.set i b)

section Carry

variable {change : UInt8 → UInt8} {wrapped : UInt8}

@[simp] theorem length_carryFrom (i : ℕ) (l : List UInt8) :
    (carryFrom change wrapped i l).length = l.length := by
  induction i generalizing l with
  | zero => rfl
  | succ i ih =>
    rw [carryFrom]
    split
    · exact length_set ..
    · rw [ih, length_set]

/-- The loop does not look at the bytes after its start. -/
theorem carryFrom_append {i : ℕ} {l : List UInt8} (hi : i ≤ l.length) (r : List UInt8) :
    carryFrom change wrapped i (l ++ r) = carryFrom change wrapped i l ++ r := by
  induction i generalizing l with
  | zero => rfl
  | succ i ih =>
    rw [carryFrom, carryFrom, getD_append _ _ _ _ hi, set_append_left _ _ hi]
    split
    · rfl
    · exact ih (by simpa using Nat.le_of_succ_le hi)

/-- The last byte is changed, and those before it if it wraps around. -/
theorem carryFrom_concat (l : List UInt8) (b : UInt8) :
    carryFrom change wrapped (l.length + 1) (l ++ [b]) =
      (if change b ≠ wrapped then l else carryFrom change wrapped l.length l) ++ [change b] := by
  have hget : (l ++ [b]).getD l.length 0 = b := by simp
  rw [carryFrom, hget, set_append_right _ _ le_rfl, Nat.sub_self, set_cons_zero]
  split
  · rfl
  · exact carryFrom_append le_rfl _

end Carry

variable (a)

/-- `inc`: the next address. -/
def inc : Except Failure IpAddress :=
  if (a.address.all fun b => b == 0xff) = true then .error .overflow
  else .ok (a.withBytes (carryFrom (· + 1) 0 a.size a.address) (length_carryFrom ..))

/-- `dec`: the address before. -/
def dec : Except Failure IpAddress :=
  if (a.address.all fun b => b == 0) = true then .error .overflow
  else .ok (a.withBytes (carryFrom (· - 1) 0xff a.size a.address) (length_carryFrom ..))

def isMinIp : Bool := a.address.all fun b => b == 0

def isMaxIp : Bool := a.address.all fun b => b == 0xff

theorem isMinIp_iff : a.isMinIp = true ↔ a.value = 0 := all_zero_iff a.address

theorem isMaxIp_iff : a.isMaxIp = true ↔ a.value + 1 = 256 ^ a.size := all_max_iff a.address

variable {a}

/-- The carry of `inc` adds one, unless all bits are set. -/
theorem value_carryFrom_inc (h : BigEndian.value l + 1 < 256 ^ l.length) :
    BigEndian.value (carryFrom (· + 1) 0 l.length l) = BigEndian.value l + 1 := by
  induction l using reverseRecOn with
  | nil => exact absurd h (by decide)
  | append_singleton l b ih =>
    rw [value_concat, length_append, length_singleton, pow_succ] at h
    rw [length_append, length_singleton, carryFrom_concat, value_concat, value_concat]
    have hb : b.toNat < 256 := b.toNat_lt
    have hstep : (b + 1).toNat = (b.toNat + 1) % 256 := UInt8.toNat_add b 1
    split
    · rename_i hne
      -- the byte does not wrap around
      have hnext : (b + 1).toNat ≠ 0 := fun h => hne (UInt8.toNat_inj.mp h)
      omega
    · rename_i heq
      have hzero : (b + 1).toNat = 0 := congrArg UInt8.toNat (not_not.mp heq)
      rw [ih (by omega)]
      omega

/-- The carry of `dec` subtracts one, unless all bytes are zero. -/
theorem value_carryFrom_dec (h : 0 < BigEndian.value l) :
    BigEndian.value (carryFrom (· - 1) 0xff l.length l) + 1 = BigEndian.value l := by
  induction l using reverseRecOn with
  | nil => cases h
  | append_singleton l b ih =>
    rw [value_concat] at h
    rw [length_append, length_singleton, carryFrom_concat, value_concat, value_concat]
    have hb : b.toNat < 256 := b.toNat_lt
    have hstep : (b - 1).toNat = (256 - 1 + b.toNat) % 256 := UInt8.toNat_sub b 1
    split
    · rename_i hne
      have hnext : (b - 1).toNat ≠ 255 := fun h => hne (UInt8.toNat_inj.mp h)
      omega
    · rename_i heq
      have hmax : (b - 1).toNat = 255 := congrArg UInt8.toNat (not_not.mp heq)
      have hl := ih (by omega)
      omega

/-- `inc` is the number after, and throws at the last address of a family only. -/
theorem inc_eq_ok_iff : a.inc = .ok b ↔ b.size = a.size ∧ b.value = a.value + 1 := by
  have hlt := a.value_lt
  unfold inc
  by_cases hmax : (a.address.all fun b => b == 0xff) = true
  · rw [if_pos hmax]
    have hvalue := a.isMaxIp_iff.mp hmax
    refine ⟨fun h => (nomatch h), fun ⟨hsize, hb⟩ => ?_⟩
    have hbound := b.value_lt
    rw [hsize] at hbound
    omega
  · rw [if_neg hmax, Except.ok.injEq]
    have hnot : a.value + 1 ≠ 256 ^ a.size := fun h => hmax (a.isMaxIp_iff.mpr h)
    have hinc := value_carryFrom_inc (l := a.address) (show a.value + 1 < 256 ^ a.size by omega)
    constructor
    · rintro rfl
      exact ⟨length_carryFrom .., hinc⟩
    · rintro ⟨hsize, hvalue⟩
      exact ext_value ((length_carryFrom ..).trans hsize.symm) (hinc.trans hvalue.symm)

theorem dec_eq_ok_iff : b.dec = .ok a ↔ b.size = a.size ∧ b.value = a.value + 1 := by
  unfold dec
  by_cases hmin : (b.address.all fun b => b == 0) = true
  · rw [if_pos hmin]
    have hvalue := b.isMinIp_iff.mp hmin
    refine ⟨fun h => (nomatch h), fun ⟨_, hb⟩ => ?_⟩
    omega
  · rw [if_neg hmin, Except.ok.injEq]
    have hnot : b.value ≠ 0 := fun h => hmin (b.isMinIp_iff.mpr h)
    have hdec := value_carryFrom_dec (l := b.address) (show 0 < b.value by omega)
    constructor
    · rintro rfl
      exact ⟨(length_carryFrom ..).symm, hdec.symm⟩
    · rintro ⟨hsize, hvalue⟩
      refine ext_value ((length_carryFrom ..).trans hsize) ?_
      exact Nat.succ.inj (hdec.trans hvalue)

/-- Every address but the last one of its size has a next one. -/
theorem exists_inc (h : a.value + 1 < 256 ^ a.size) : ∃ b, a.inc = .ok b := by
  have hmax : ¬(a.address.all fun b => b == 0xff) = true := fun hmax =>
    absurd ((all_max_iff a.address).mp hmax) h.ne
  exact ⟨_, if_neg hmax⟩

theorem exists_dec (h : 0 < a.value) : ∃ b, a.dec = .ok b := by
  have hmin : ¬(a.address.all fun b => b == 0) = true := fun hmin =>
    absurd ((all_zero_iff a.address).mp hmin) h.ne'
  exact ⟨_, if_neg hmin⟩

/-! ## The order -/

/-- The loop of `compareTo`: the first difference of two bytes. -/
def compareBytes : List UInt8 → List UInt8 → ℤ
  | b :: l, c :: r =>
      let d : ℤ := b.toNat - c.toNat
      if d ≠ 0 then d else compareBytes l r
  | _, _ => 0

def compareTo (a other : IpAddress) : ℤ :=
  if a.size ≠ other.size then a.size - other.size else compareBytes a.address other.address

theorem compareBytes_le_iff {r : List UInt8} (h : l.length = r.length) :
    compareBytes l r ≤ 0 ↔ BigEndian.value l ≤ BigEndian.value r := by
  induction l generalizing r with
  | nil =>
    obtain rfl : r = [] := length_eq_zero_iff.mp h.symm
    exact Iff.rfl.trans (iff_of_true le_rfl le_rfl)
  | cons b l ih =>
    cases r with
    | nil => cases h
    | cons c r =>
      have hlen : l.length = r.length := by simpa using h
      have hl := BigEndian.value_lt l
      have hr := BigEndian.value_lt r
      rw [compareBytes, value_cons, value_cons, hlen]
      rw [hlen] at hl
      by_cases hbc : b.toNat = c.toNat
      · rw [hbc, sub_self, if_neg (not_not.mpr rfl), ih hlen]
        omega
      · rw [if_pos (sub_ne_zero.mpr (Nat.cast_injective.ne hbc))]
        -- the byte that differs weighs more than all after it
        rcases Nat.lt_or_gt_of_ne hbc with hlt | hlt
        · have hweight : 256 ^ r.length * (b.toNat + 1) ≤ 256 ^ r.length * c.toNat :=
            Nat.mul_le_mul_left _ hlt
          rw [Nat.mul_add] at hweight
          omega
        · have hweight : 256 ^ r.length * (c.toNat + 1) ≤ 256 ^ r.length * b.toNat :=
            Nat.mul_le_mul_left _ hlt
          rw [Nat.mul_add] at hweight
          omega

theorem compareBytes_neg (l r : List UInt8) : compareBytes l r = -compareBytes r l := by
  induction l generalizing r with
  | nil => cases r <;> rfl
  | cons b l ih =>
    cases r with
    | nil => rfl
    | cons c r =>
      simp only [compareBytes]
      by_cases hbc : (b.toNat : ℤ) - c.toNat = 0
      · rw [if_neg (not_not.mpr hbc), if_neg (not_not.mpr (by omega)), ih]
      · rw [if_pos hbc, if_pos (by omega)]
        omega

theorem compareTo_neg (a b : IpAddress) : a.compareTo b = -b.compareTo a := by
  unfold compareTo
  by_cases h : a.size = b.size
  · rw [if_neg (not_not.mpr h), if_neg (not_not.mpr h.symm), compareBytes_neg]
  · rw [if_pos h, if_pos fun h' => h h'.symm]
    omega

/-- Addresses are ordered by size, and then as numbers. -/
theorem compareTo_le_iff :
    a.compareTo b ≤ 0 ↔ a.size < b.size ∨ a.size = b.size ∧ a.value ≤ b.value := by
  unfold compareTo
  by_cases h : a.size = b.size
  · rw [if_neg (not_not.mpr h), compareBytes_le_iff h]
    exact ⟨fun hle => .inr ⟨h, hle⟩, fun hor => (hor.resolve_left h.not_lt).2⟩
  · rw [if_pos h]
    omega

/-- Kotlin's comparison operators call `compareTo`. -/
instance : LinearOrder IpAddress where
  le a b := a.compareTo b ≤ 0
  lt a b := a.compareTo b < 0
  le_refl a := compareTo_le_iff.mpr (.inr ⟨rfl, le_rfl⟩)
  le_trans a b c hab hbc := by
    rw [compareTo_le_iff] at *
    omega
  lt_iff_le_not_ge a b := by
    rw [compareTo_neg b a]
    omega
  le_antisymm a b hab hba := by
    rw [compareTo_le_iff] at hab hba
    exact ext_value (by omega) (by omega)
  le_total a b := by
    rw [compareTo_neg b a]
    omega
  toDecidableLE a b := inferInstanceAs (Decidable (a.compareTo b ≤ 0))
  toDecidableLT a b := inferInstanceAs (Decidable (a.compareTo b < 0))
  toDecidableEq := instDecidableEqIpAddress

theorem le_iff : a ≤ b ↔ a.size < b.size ∨ a.size = b.size ∧ a.value ≤ b.value := compareTo_le_iff

theorem lt_iff : a < b ↔ a.size < b.size ∨ a.size = b.size ∧ a.value < b.value := by
  rw [← not_le, le_iff]
  omega

/-- `equals` and `compareTo` agree. -/
theorem compareTo_eq_zero_iff : a.compareTo b = 0 ↔ a = b := by
  constructor
  · intro h
    have hab : a ≤ b := h.le
    have hba : b.compareTo a ≤ 0 := by
      rw [compareTo_neg, h, neg_zero]
    exact le_antisymm hab hba
  · rintro rfl
    have := compareTo_neg a a
    omega

/-! ## The line of addresses -/

/-- One address covers the other within a family exactly if its number is the next one. -/
theorem covBy_iff : a ⋖ b ∧ a.size = b.size ↔ b.size = a.size ∧ b.value = a.value + 1 := by
  constructor
  · rintro ⟨hcovBy, hsize⟩
    refine ⟨hsize.symm, ?_⟩
    have hlt := (lt_iff.mp hcovBy.lt).resolve_left hsize.not_lt
    have hbound := b.value_lt
    rw [← hsize] at hbound
    by_contra hne
    -- the next address would lie between
    obtain ⟨c, hc⟩ := exists_inc (a := a) (by omega)
    obtain ⟨hcsize, hcvalue⟩ := inc_eq_ok_iff.mp hc
    refine hcovBy.2 (lt_iff.mpr (.inr ⟨hcsize.symm, by omega⟩)) (lt_iff.mpr (.inr ⟨?_, by omega⟩))
    exact hcsize.trans hsize
  · rintro ⟨hsize, hvalue⟩
    refine ⟨⟨lt_iff.mpr (.inr ⟨hsize.symm, by omega⟩), fun c hac hcb => ?_⟩, hsize.symm⟩
    rw [lt_iff] at hac hcb
    omega

/-- The addresses in their order: first the IPv4 addresses, then the IPv6 addresses. -/
def line : Intervals.Line IpAddress ℕ where
  family := size
  monotone_family a b h := by
    rw [le_iff] at h
    omega
  next a := a.inc.toOption
  prev a := a.dec.toOption
  next_eq_some_iff {a b} := by
    rw [covBy_iff, ← inc_eq_ok_iff]
    cases a.inc <;> simp [Except.toOption]
  prev_eq_some_iff {a b} := by
    rw [covBy_iff, ← dec_eq_ok_iff]
    cases b.dec <;> simp [Except.toOption]
  isSome_next {a b} hlt hsize := by
    have hvalue := (lt_iff.mp hlt).resolve_left (Nat.lt_irrefl _ <| hsize ▸ ·)
    have hbound := b.value_lt
    rw [← hvalue.1] at hbound
    obtain ⟨c, hc⟩ := exists_inc (a := a) (by omega)
    rw [hc]
    rfl
  isSome_prev {a b} hlt hsize := by
    have hvalue := (lt_iff.mp hlt).resolve_left (Nat.lt_irrefl _ <| hsize ▸ ·)
    obtain ⟨c, hc⟩ := exists_dec (a := b) (by omega)
    rw [hc]
    rfl

/-- The last address of a family has no next one, all others have. -/
theorem inc_cases (a : IpAddress) :
    (a.isMaxIp = true ∧ line.next a = none) ∨
      (a.isMaxIp = false ∧ ∃ n, a.inc = .ok n ∧ line.next a = some n) := by
  have hnext : line.next a = a.inc.toOption := rfl
  by_cases hmax : a.isMaxIp = true
  · have hinc : a.inc = .error .overflow := if_pos hmax
    exact .inl ⟨hmax, hnext.trans (by rw [hinc]; rfl)⟩
  · have hbound := a.value_lt
    have hne : a.value + 1 ≠ 256 ^ a.size := fun h => hmax (a.isMaxIp_iff.mpr h)
    obtain ⟨n, hn⟩ := exists_inc (a := a) (by omega)
    exact .inr ⟨Bool.eq_false_iff.mpr hmax, n, hn, hnext.trans (by rw [hn]; rfl)⟩

theorem dec_cases (a : IpAddress) :
    (a.isMinIp = true ∧ line.prev a = none) ∨
      (a.isMinIp = false ∧ ∃ p, a.dec = .ok p ∧ line.prev a = some p) := by
  have hprev : line.prev a = a.dec.toOption := rfl
  by_cases hmin : a.isMinIp = true
  · have hdec : a.dec = .error .overflow := if_pos hmin
    exact .inl ⟨hmin, hprev.trans (by rw [hdec]; rfl)⟩
  · have hpos : 0 < a.value := Nat.pos_of_ne_zero fun h => hmin (a.isMinIp_iff.mpr h)
    obtain ⟨p, hp⟩ := exists_dec hpos
    exact .inr ⟨Bool.eq_false_iff.mpr hmin, p, hp, hprev.trans (by rw [hp]; rfl)⟩

end IpAddress

end Dopamine.Android
