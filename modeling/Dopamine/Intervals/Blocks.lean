import Mathlib.Data.List.Basic
import Mathlib.Tactic.Ring

/-!
# Aligned blocks

An aligned block is a run of `2 ^ bits` numbers that begins at a multiple of its length. Two blocks
that meet are nested. A range of numbers is filled from its start with the longest blocks that fit
(`Fill`); the blocks are then all of the range (`Fill.exists_mem_iff`), and none of them lies in a
longer block within the range (`Fill.maximal`).
-/

namespace Intervals

/-- A run of `2 ^ bits` numbers that begins at a multiple of `2 ^ bits`. -/
structure Block where
  base : ℕ
  bits : ℕ
  aligned : 2 ^ bits ∣ base

namespace Block

/-- The number lies in the block. -/
def Holds (b : Block) (n : ℕ) : Prop := b.base ≤ n ∧ n < b.base + 2 ^ b.bits

/-- The block lies in a range of numbers. -/
def Within (b : Block) (lo hi : ℕ) : Prop := lo ≤ b.base ∧ b.base + 2 ^ b.bits ≤ hi + 1

theorem holds_base (b : Block) : b.Holds b.base := ⟨le_rfl, Nat.lt_add_of_pos_right (Nat.two_pow_pos _)⟩

variable {n : ℕ}

/-- A number lies in a block exactly if it agrees with it but for the low bits. -/
theorem holds_iff {b : Block} : b.Holds n ↔ n / 2 ^ b.bits = b.base / 2 ^ b.bits := by
  have hpos : 0 < 2 ^ b.bits := Nat.two_pow_pos _
  obtain ⟨m, hm⟩ := b.aligned
  rw [Holds, hm, Nat.mul_div_cancel_left m hpos, Nat.div_eq_iff hpos, mul_comm m]
  omega

/-- Between two multiples there is room for one block. -/
theorem add_le_of_lt {c x y : ℕ} (hx : c ∣ x) (hy : c ∣ y) (h : x < y) : x + c ≤ y := by
  obtain ⟨m, rfl⟩ := hx
  obtain ⟨n, rfl⟩ := hy
  have hmn : m < n := lt_of_mul_lt_mul_left h (Nat.zero_le c)
  calc c * m + c = c * (m + 1) := by ring
    _ ≤ c * n := Nat.mul_le_mul_left c hmn

/-- Of two blocks that meet, the shorter one lies in the longer one. -/
theorem nested {b c : Block} (hbits : b.bits ≤ c.bits) (hb : b.Holds n) (hc : c.Holds n) :
    c.base ≤ b.base ∧ b.base + 2 ^ b.bits ≤ c.base + 2 ^ c.bits := by
  have hdvd : 2 ^ b.bits ∣ 2 ^ c.bits := pow_dvd_pow 2 hbits
  have hcbase : 2 ^ b.bits ∣ c.base := hdvd.trans c.aligned
  constructor
  · by_contra hlt
    have := add_le_of_lt b.aligned hcbase (not_le.mp hlt)
    exact absurd (hb.2.trans_le this) (not_lt.mpr hc.1)
  · exact add_le_of_lt b.aligned (Nat.dvd_add hcbase hdvd) (hb.1.trans_lt hc.2)

end Block

/-- A range of numbers up to `hi` is filled from `lo` on, each time with the longest block of at
most `width` bits that fits. -/
inductive Fill (width hi : ℕ) : ℕ → List Block → Prop where
  | done {lo : ℕ} (h : hi < lo) : Fill width hi lo []
  | step {b : Block} {l : List Block} (hbits : b.bits ≤ width) (hwithin : b.Within b.base hi)
      (hlongest : ∀ c : Block, c.base = b.base → c.bits ≤ width → c.Within c.base hi →
        c.bits ≤ b.bits)
      (hrest : Fill width hi (b.base + 2 ^ b.bits) l) : Fill width hi b.base (b :: l)

namespace Fill

variable {width hi lo : ℕ} {l : List Block}

/-- The blocks lie in the range. -/
theorem within (h : Fill width hi lo l) : ∀ b ∈ l, b.bits ≤ width ∧ b.Within lo hi := by
  induction h with
  | done => exact fun _ h => nomatch h
  | step hbits hwithin _ _ ih =>
    rintro b hb
    rcases List.mem_cons.mp hb with rfl | hb
    · exact ⟨hbits, hwithin⟩
    · exact ⟨(ih b hb).1, (Nat.le_add_right ..).trans (ih b hb).2.1, (ih b hb).2.2⟩

/-- Each block ends before the next one. -/
theorem pairwise (h : Fill width hi lo l) : l.Pairwise fun b c => b.base + 2 ^ b.bits ≤ c.base := by
  induction h with
  | done => exact .nil
  | step _ _ _ hrest ih => exact .cons (fun c hc => (hrest.within c hc).2.1) ih

variable {n start : ℕ} {b c : Block}

/-- The blocks are all of the range. -/
theorem exists_mem_iff (h : Fill width hi lo l) : (∃ b ∈ l, b.Holds n) ↔ lo ≤ n ∧ n ≤ hi := by
  constructor
  · rintro ⟨b, hb, hn⟩
    obtain ⟨-, hlo, hhi⟩ := h.within b hb
    exact ⟨hlo.trans hn.1, Nat.lt_succ_iff.mp (hn.2.trans_le hhi)⟩
  · rintro ⟨hlo, hhi⟩
    induction h with
    | done h => exact absurd (hlo.trans hhi) (not_le.mpr h)
    | @step b l _ _ _ _ ih =>
      by_cases hlt : n < b.base + 2 ^ b.bits
      · exact ⟨b, List.mem_cons_self, hlo, hlt⟩
      · obtain ⟨c, hc, hn⟩ := ih (not_lt.mp hlt)
        exact ⟨c, List.mem_cons_of_mem _ hc, hn⟩

/-- No block of the range that reaches beyond `lo` begins before it. -/
def Reached (width start hi lo : ℕ) : Prop :=
  ∀ c : Block, c.bits ≤ width → c.Within start hi → lo < c.base + 2 ^ c.bits → lo ≤ c.base

/-- A block that meets the longest one that fits is not longer. -/
theorem bits_le_of_reached {start : ℕ} {b : Block} (hreached : Reached width start hi b.base)
    (hlongest : ∀ c : Block, c.base = b.base → c.bits ≤ width → c.Within c.base hi →
      c.bits ≤ b.bits)
    {c : Block} (hbits : c.bits ≤ width) (hwithin : c.Within start hi) {n : ℕ} (hb : b.Holds n)
    (hc : c.Holds n) : c.bits ≤ b.bits := by
  by_contra hlt
  have hle : c.base ≤ b.base := (Block.nested (not_le.mp hlt).le hb hc).1
  have hge : b.base ≤ c.base := hreached c hbits hwithin (hb.1.trans_lt hc.2)
  exact hlt (hlongest c (le_antisymm hle hge) hbits ⟨le_rfl, hwithin.2⟩)

theorem maximal_of_reached (h : Fill width hi lo l) (hreached : Reached width start hi lo)
    (hb : b ∈ l) (hbits : c.bits ≤ width) (hwithin : c.Within start hi) (hbn : b.Holds n)
    (hcn : c.Holds n) : c.bits ≤ b.bits := by
  induction h with
  | done => cases hb
  | @step b' l _ _ hlongest _ ih =>
    rcases List.mem_cons.mp hb with rfl | hb
    · exact bits_le_of_reached hreached hlongest hbits hwithin hbn hcn
    · refine ih (fun d hd hdwithin hlt => ?_) hb
      -- a block that reaches beyond `b'` begins after it, or it would hold `b'` and be longer
      have hge : b'.base ≤ d.base := hreached d hd hdwithin ((Nat.le_add_right ..).trans_lt hlt)
      by_contra hbefore
      have hdn : d.Holds d.base := d.holds_base
      have hbn' : b'.Holds d.base := ⟨hge, not_le.mp hbefore⟩
      have hshort := bits_le_of_reached hreached hlongest hd hdwithin hbn' hdn
      exact absurd (Block.nested hshort hdn hbn').2 (not_le.mpr hlt)

/-- A block of the range that meets one of the blocks is not longer. -/
theorem maximal (h : Fill width hi lo l) (hb : b ∈ l) (hbits : c.bits ≤ width)
    (hwithin : c.Within lo hi) (hbn : b.Holds n) (hcn : c.Holds n) : c.bits ≤ b.bits :=
  h.maximal_of_reached (fun _ _ hwithin _ => hwithin.1) hb hbits hwithin hbn hcn

end Fill

end Intervals
