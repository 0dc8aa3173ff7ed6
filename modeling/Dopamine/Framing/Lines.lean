import Mathlib.Data.List.Basic

/-!
# Messages in a stream

A sender puts a separator after every message. A receiver has the stream up to some point in its
buffer, and cuts it at the first separator. Blocks of one length need no separator.
-/

namespace Framing

open List

variable {α : Type*} {sep : α} {buffer rest : List α} {ms : List (List α)}

/-- The stream of the messages. -/
def frame (sep : α) (ms : List (List α)) : List α := ms.flatMap (· ++ [sep])

/-- Without a separator in the buffer, all that was sent and has arrived has been cut off. -/
theorem eq_nil_of_notMem (h : buffer = frame sep ms) (hsep : sep ∉ buffer) : ms = [] := by
  cases ms with
  | nil => rfl
  | cons m ms => simp [h, frame] at hsep

/-- The blocks of one length, put together. -/
theorem flatMap_take_drop (l : List α) (k n : ℕ) :
    ((range n).flatMap fun i => (l.drop (k * i)).take k) = l.take (k * n) := by
  induction n with
  | zero => rfl
  | succ n ih => rw [range_succ, flatMap_append, ih, flatMap_singleton, Nat.mul_succ, take_add]

variable [DecidableEq α]

/-- The first cut gives the first message, and leaves the stream of the others. -/
theorem exists_cons_of_mem (hms : ∀ m ∈ ms, sep ∉ m) (h : buffer ++ rest = frame sep ms)
    (hsep : sep ∈ buffer) :
    ∃ ms', ms = buffer.take (buffer.idxOf sep) :: ms' ∧
      buffer.drop (buffer.idxOf sep + 1) ++ rest = frame sep ms' := by
  cases ms with
  | nil => simp_all [frame]
  | cons m ms' =>
    have hcons : buffer ++ rest = m ++ sep :: frame sep ms' := by simpa [frame] using h
    have hpos : buffer.idxOf sep = m.length := by
      rw [← idxOf_append_of_mem hsep, hcons, idxOf_append_of_notMem (hms m mem_cons_self)]
      simp
    have hle : m.length + 1 ≤ buffer.length := hpos ▸ idxOf_lt_length_of_mem hsep
    refine ⟨ms', ?_, ?_⟩
    · rw [hpos, ← take_append_of_le_length (Nat.le_of_succ_le hle), hcons, take_left]
    · rw [hpos, ← drop_append_of_le_length hle, hcons, ← drop_drop, drop_left, drop_one, tail_cons]

end Framing
