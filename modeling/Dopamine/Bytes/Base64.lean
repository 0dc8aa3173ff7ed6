import Mathlib.Data.UInt

/-!
# Base64 for URLs

`encode` writes three bytes with four characters and leaves out the padding. `decode` reads one
character after the other: it collects the bits and skips what is not in the alphabet.
`decode_encode` says that nothing is lost.
-/

namespace Base64

open List

/-- The characters of the alphabet. -/
def alphabet : List Char :=
  "ABCDEFGHIJKLMNOPQRSTUVWXYZabcdefghijklmnopqrstuvwxyz0123456789-_".toList

/-- The character for six bits. -/
def digit (n : ℕ) : Char := alphabet.getD n 'A'

/-- The six bits of a character. -/
def digitOf (c : Char) : Option ℕ := alphabet.findIdx? fun c' => c' = c

/-- The characters of some bytes. -/
def encode : List UInt8 → List Char
  | [] => []
  | [a] => [digit (a.toNat / 4), digit (a.toNat % 4 * 16)]
  | [a, b] =>
      [digit (a.toNat / 4), digit (a.toNat % 4 * 16 + b.toNat / 16), digit (b.toNat % 16 * 4)]
  | a :: b :: c :: l =>
      digit (a.toNat / 4) :: digit (a.toNat % 4 * 16 + b.toNat / 16) ::
        digit (b.toNat % 16 * 4 + c.toNat / 64) :: digit (c.toNat % 64) :: encode l

/-- What was decoded, and the bits that are left. -/
structure Reader where
  buf : ℕ
  nbits : ℕ
  bytes : List UInt8

/-- Six bits are read. -/
def Reader.push (r : Reader) (d : ℕ) : Reader :=
  let buf := r.buf * 64 + d
  let nbits := r.nbits + 6
  if 8 ≤ nbits then
    ⟨buf % 2 ^ (nbits - 8), nbits - 8, r.bytes ++ [UInt8.ofNat (buf / 2 ^ (nbits - 8))]⟩
  else ⟨buf, nbits, r.bytes⟩

/-- A character is read. -/
def Reader.feed (r : Reader) (c : Char) : Reader :=
  match digitOf c with
  | some d => r.push d
  | none => r

/-- The bytes of some characters. -/
def decode (l : List Char) : List UInt8 := (l.foldl Reader.feed ⟨0, 0, []⟩).bytes

theorem digitOf_digit {n : ℕ} (h : n < 64) : digitOf (digit n) = some n := by
  have hall : ∀ n : Fin 64, digitOf (digit n) = some n.val := by decide +kernel
  exact hall ⟨n, h⟩

theorem feed_digit (r : Reader) {n : ℕ} (h : n < 64) : r.feed (digit n) = r.push n := by
  rw [Reader.feed, digitOf_digit h]

/-- The first six bits of a byte. -/
theorem push_first (d : ℕ) (bytes : List UInt8) : Reader.push ⟨0, 0, bytes⟩ d = ⟨d, 6, bytes⟩ := by
  simp [Reader.push]

/-- The byte is complete with the six bits, and `k` bits are left. -/
theorem push_last {buf nbits d : ℕ} {bytes : List UInt8} (b : UInt8) (k rest : ℕ)
    (h : nbits + 6 = k + 8) (hbits : buf * 64 + d = b.toNat * 2 ^ k + rest) (hrest : rest < 2 ^ k) :
    Reader.push ⟨buf, nbits, bytes⟩ d = ⟨rest, k, bytes ++ [b]⟩ := by
  have hmod : (b.toNat * 2 ^ k + rest) % 2 ^ k = rest := by
    rw [Nat.mul_add_mod_self_right, Nat.mod_eq_of_lt hrest]
  have hdiv : (b.toNat * 2 ^ k + rest) / 2 ^ k = b.toNat := by
    rw [Nat.add_comm, Nat.add_mul_div_right _ _ (Nat.two_pow_pos k), Nat.div_eq_of_lt hrest,
      Nat.zero_add]
  simp only [Reader.push]
  rw [h, if_pos (Nat.le_add_left 8 k), Nat.add_sub_cancel, hbits, hmod, hdiv, UInt8.ofNat_toNat]

/-- The bytes that were written are read after those that were there. -/
theorem feed_encode (l bytes : List UInt8) :
    ((encode l).foldl Reader.feed ⟨0, 0, bytes⟩).bytes = bytes ++ l := by
  induction l using encode.induct generalizing bytes with
  | case1 => simp [encode]
  | case2 a =>
    have ha := a.toNat_lt
    rw [encode, foldl_cons, foldl_cons, foldl_nil, feed_digit _ (by omega),
      feed_digit _ (by omega), push_first, push_last a 4 0 rfl (by omega)
        (by decide)]
  | case3 a b =>
    have ha := a.toNat_lt
    have hb := b.toNat_lt
    rw [encode, foldl_cons, foldl_cons, foldl_cons, foldl_nil,
      feed_digit _ (by omega), feed_digit _ (by omega), feed_digit _ (by omega), push_first,
      push_last a 4 (b.toNat / 16) rfl (by omega) (by omega),
      push_last b 2 0 rfl (by omega) (by decide)]
    simp
  | case4 a b c l ih =>
    have ha := a.toNat_lt
    have hb := b.toNat_lt
    have hc := c.toNat_lt
    rw [encode, foldl_cons, foldl_cons, foldl_cons, foldl_cons,
      feed_digit _ (by omega), feed_digit _ (by omega), feed_digit _ (by omega),
      feed_digit _ (by omega), push_first,
      push_last a 4 (b.toNat / 16) rfl (by omega) (by omega),
      push_last b 2 (c.toNat / 64) rfl (by omega) (by omega),
      push_last c 0 0 rfl (by omega) (by decide), ih]
    simp

/-- Nothing is lost. -/
theorem decode_encode (l : List UInt8) : decode (encode l) = l := feed_encode l []

end Base64
