import Mathlib.Data.Nat.Digits.Lemmas
import Mathlib.Data.UInt

/-!
# Numbers written with bytes, the highest first

The number of a list of bytes, as in a network address, and what the bytes at its ends contribute.
-/

namespace BigEndian

open List

/-- The number that the bytes are the digits of. -/
def value (l : List UInt8) : ℕ := Nat.ofDigits 256 (l.reverse.map UInt8.toNat)

@[simp] theorem value_nil : value [] = 0 := rfl

variable (l : List UInt8) (b : UInt8) (n : ℕ)

@[simp] theorem value_concat (b : UInt8) : value (l ++ [b]) = b.toNat + 256 * value l := by
  rw [value, reverse_concat, map_cons, Nat.ofDigits_cons]
  rfl

theorem value_append (r : List UInt8) : value (l ++ r) = 256 ^ r.length * value l + value r := by
  rw [value, reverse_append, map_append, Nat.ofDigits_append, length_map,
    length_reverse, add_comm]
  rfl

theorem value_singleton : value [b] = b.toNat := by
  simpa using value_concat [] b

theorem value_cons (l : List UInt8) : value (b :: l) = 256 ^ l.length * b.toNat + value l := by
  rw [← singleton_append, value_append, value_singleton]

/-- The digits are below the base. -/
theorem lt_of_mem_digits {l : List UInt8} : ∀ d ∈ l.reverse.map UInt8.toNat, d < 256 := by
  intro d hd
  obtain ⟨b, -, rfl⟩ := mem_map.mp hd
  exact b.toNat_lt

theorem value_lt : value l < 256 ^ l.length := by
  simpa [value] using Nat.ofDigits_lt_base_pow_length (by decide) (lt_of_mem_digits (l := l))

/-- Bytes of the same number are the same. -/
theorem value_inj {l r : List UInt8} (hlen : l.length = r.length) (h : value l = value r) :
    l = r := by
  have hdigits : l.reverse.map UInt8.toNat = r.reverse.map UInt8.toNat :=
    Nat.ofDigits_inj_of_len_eq (by decide) (by simpa using hlen) lt_of_mem_digits lt_of_mem_digits h
  have hinj : Function.Injective UInt8.toNat := fun _ _ => UInt8.toNat_inj.mp
  exact reverse_injective (map_injective_iff.mpr hinj hdigits)

/-- The number of `n` zero bytes. -/
theorem value_replicate_zero : value (replicate n 0) = 0 := by
  induction n with
  | zero => rfl
  | succ n ih => simp [replicate_succ', ih]

/-- The number of `n` bytes with all bits set is the largest one. -/
theorem value_replicate_max : value (replicate n 0xff) + 1 = 256 ^ n := by
  induction n with
  | zero => rfl
  | succ n ih =>
    have hbyte : (0xff : UInt8).toNat = 255 := rfl
    rw [replicate_succ', value_concat, hbyte, pow_succ]
    omega

theorem all_eq_iff {c : UInt8} : (l.all fun b => b == c) = true ↔ l = replicate l.length c := by
  rw [all_eq_true, eq_replicate_iff, and_iff_right rfl]
  simp only [beq_iff_eq]

/-- All bytes are zero exactly if the number is. -/
theorem all_zero_iff : (l.all fun b => b == 0) = true ↔ value l = 0 := by
  rw [all_eq_iff]
  constructor
  · intro h
    rw [h, value_replicate_zero]
  · exact fun h => value_inj (by simp) (h.trans (value_replicate_zero _).symm)

/-- All bits are set exactly if the number is the largest one. -/
theorem all_max_iff : (l.all fun b => b == 0xff) = true ↔ value l + 1 = 256 ^ l.length := by
  rw [all_eq_iff]
  have hmax := value_replicate_max l.length
  constructor
  · intro h
    rwa [← h] at hmax
  · exact fun h => value_inj (by simp) (by omega)

/-- What holds of the bytes of all numbers below 256 holds of every byte. -/
theorem forall_byte {P : UInt8 → Prop} (h : ∀ n : Fin 256, P (UInt8.ofNat n)) (b : UInt8) : P b := by
  have hb := h ⟨b.toNat, b.toNat_lt⟩
  rwa [UInt8.ofNat_toNat] at hb

/-! ## The bytes of a number -/

/-- The lowest `w` bytes of a number. -/
def bytes : ℕ → ℕ → List UInt8
  | 0, _ => []
  | w + 1, n => bytes w (n / 256) ++ [UInt8.ofNat n]

@[simp] theorem length_bytes (w n : ℕ) : (bytes w n).length = w := by
  induction w generalizing n with
  | zero => rfl
  | succ w ih => rw [bytes, length_append, ih, length_singleton]

theorem value_bytes {w n : ℕ} (h : n < 256 ^ w) : value (bytes w n) = n := by
  induction w generalizing n with
  | zero => exact (Nat.lt_one_iff.mp h).symm
  | succ w ih =>
    have hhigh : n / 256 < 256 ^ w := Nat.div_lt_of_lt_mul (pow_succ' 256 w ▸ h)
    have hlow : (UInt8.ofNat n).toNat = n % 256 := by simp
    rw [bytes, value_concat, ih hhigh, hlow]
    exact Nat.mod_add_div n 256

/-! ## The prefix of a number -/

/-- Clearing the low bits of a byte that stands before `n` others clears the same bits of the
number. -/
theorem prefix_floor {high byte low n k : ℕ} (hlow : low < 256 ^ n) (hk : 2 ^ k ∣ 256) :
    (256 ^ n * (byte + 256 * high) + low) / (256 ^ n * 2 ^ k) * (256 ^ n * 2 ^ k) =
      256 ^ n * (byte / 2 ^ k * 2 ^ k + 256 * high) := by
  obtain ⟨m, hm⟩ := hk
  have hpos : 0 < 256 ^ n := by positivity
  have hpos' : 0 < 2 ^ k := by positivity
  rw [← Nat.div_div_eq_div_mul, Nat.mul_add_div hpos, Nat.div_eq_of_lt hlow, Nat.add_zero, hm,
    mul_assoc (2 ^ k) m high, Nat.add_mul_div_left _ _ hpos']
  ring

end BigEndian
