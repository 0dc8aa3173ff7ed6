import Dopamine.Android.IpRange

/-!
# Sets of address ranges

The class `IpRangeSet` of `client/android/utils/src/main/kotlin/net/IpRangeSet.kt`: a sorted set of
ranges that `add` and `remove` change through its iterator. Both may throw where they compare, merge
and split ranges. They never do, and what they compute is `Intervals.add` and `Intervals.remove`
(`add_eq`, `remove_eq`), so after any calls the ranges are sorted, disjoint and do not touch, and
hold exactly the addresses that the calls added and did not remove again (`calls_faithful`).
-/

namespace Dopamine.Android

open Intervals Except

def IpRange.compareTo (r other : IpRange) : ℤ :=
  let d := r.start.compareTo other.start
  if d = 0 then r.stop.compareTo other.stop else d

theorem IpRange.compareTo_lt_iff {r other : IpRange} :
    IpRange.compareTo r other < 0 ↔
      r.start < other.start ∨ r.start = other.start ∧ r.stop < other.stop := by
  unfold IpRange.compareTo
  by_cases h : r.start.compareTo other.start = 0
  · have hstart := IpAddress.compareTo_eq_zero_iff.mp h
    rw [if_pos h, hstart]
    exact ⟨fun hlt => .inr ⟨rfl, hlt⟩, fun hor => (hor.resolve_left (lt_irrefl _)).2⟩
  · rw [if_neg h]
    exact ⟨.inl, fun hor => hor.elim id fun hand =>
      absurd (IpAddress.compareTo_eq_zero_iff.mpr hand.1) h⟩

/-- `IpRange.equals`. -/
theorem IpRange.compareTo_eq_zero_iff {r other : IpRange} :
    IpRange.compareTo r other = 0 ↔ r = other := by
  obtain ⟨start, stop, hle, hsize⟩ := r
  obtain ⟨start', stop', hle', hsize'⟩ := other
  rw [Segment.mk.injEq, ← IpAddress.compareTo_eq_zero_iff, ← IpAddress.compareTo_eq_zero_iff]
  unfold IpRange.compareTo
  by_cases h : start.compareTo start' = 0
  · rw [if_pos h]
    exact (and_iff_right h).symm
  · rw [if_neg h]
    exact iff_of_false h fun hand => h hand.1

/-- The class `IpRangeSet`: the ranges, in the order of the sorted set. -/
structure IpRangeSet where
  ranges : List IpRange

namespace IpRangeSet

/-- A new set. -/
def empty : IpRangeSet := ⟨[]⟩

/-- `TreeSet.add`. -/
def insertRange (r : IpRange) : List IpRange → List IpRange
  | [] => [r]
  | curRange :: rest =>
      if IpRange.compareTo r curRange < 0 then r :: curRange :: rest
      else if IpRange.compareTo r curRange = 0 then curRange :: rest
      else curRange :: insertRange r rest

variable (r : IpRange)

variable (l : List IpRange)

theorem insertRange_eq : insertRange r l = Intervals.insert r l := by
  induction l with
  | nil => rfl
  | cons curRange rest ih =>
    rw [insertRange, Intervals.insert, ih]
    exact if_congr IpRange.compareTo_lt_iff rfl (if_congr IpRange.compareTo_eq_zero_iff rfl rfl)

/-! ## `add` -/

/-- The test for the `break` in `add`: the range to add ends before `curRange` and not right before
it. -/
def stops (rangeToAdd curRange : IpRange) : Except Failure Bool :=
  if rangeToAdd.stop < curRange.start ∧ rangeToAdd.stop.isMaxIp = false then do
    let n ← rangeToAdd.stop.inc
    return n ≠ curRange.start
  else return false

/-- The loop of `add`: the ranges that the iterator leaves in the set, and the range to insert after
it. There is none if the loop returned from `run`. -/
def addLoop (rangeToAdd : IpRange) : List IpRange → Except Failure (List IpRange × Option IpRange)
  | [] => return ([], some rangeToAdd)
  | curRange :: rest => do
      if ← stops rangeToAdd curRange then return (curRange :: rest, some rangeToAdd)
      else
        match ← IpRange.plus curRange rangeToAdd with
        | none => do
            let (kept, toAdd) ← addLoop rangeToAdd rest
            return (curRange :: kept, toAdd)
        | some resultRange =>
            if IpRange.compareTo resultRange curRange = 0 then return (curRange :: rest, none)
            else addLoop resultRange rest

variable (set : IpRangeSet)

def add (ipRange : IpRange) : Except Failure IpRangeSet := do
  match ← addLoop ipRange set.ranges with
  | (kept, some rangeToAdd) => return ⟨insertRange rangeToAdd kept⟩
  | (kept, none) => return ⟨kept⟩

theorem stops_eq (s : IpRange) :
    stops r s = .ok (decide (r.Before s ∧ (IpAddress.line.next r.stop).isSome = true)) := by
  unfold stops
  rcases r.stop.inc_cases with ⟨hmax, hnext⟩ | ⟨hmax, n, hn, hnext⟩
  · rw [if_neg fun h => Bool.noConfusion (hmax.symm.trans h.2)]
    refine congrArg ok (decide_eq_false fun h => ?_).symm
    rw [hnext] at h
    cases h.2
  · by_cases hlt : r.stop < s.start
    · rw [if_pos ⟨hlt, hmax⟩, hn]
      refine congrArg ok (decide_eq_decide.mpr ?_)
      rw [Segment.Before, hnext, ne_eq, ne_eq, Option.some_inj]
      exact ⟨fun h => ⟨⟨hlt, h⟩, rfl⟩, fun h => h.1.2⟩
    · rw [if_neg fun h => hlt h.1]
      exact congrArg ok (decide_eq_false fun h => hlt h.1.1).symm

theorem addLoop_eq : addLoop r l = .ok (Intervals.addLoop r l) := by
  induction l generalizing r with
  | nil => rfl
  | cons s l ih =>
    simp only [addLoop, stops_eq, IpRange.plus_eq, bind, Except.bind, pure, Except.pure,
      decide_eq_true_eq, IpRange.compareTo_eq_zero_iff, ih, Intervals.addLoop]
    split
    · rfl
    · cases s.join r with
      | none => rfl
      | some t =>
        dsimp only
        split <;> rfl

/-- `add` does not throw. -/
theorem add_eq (r : IpRange) : set.add r = .ok ⟨Intervals.add r set.ranges⟩ := by
  simp only [add, addLoop_eq, insertRange_eq, bind, bind, pure, pure, Intervals.add]
  obtain ⟨kept, toAdd⟩ := Intervals.addLoop r set.ranges
  cases toAdd <;> rfl

/-! ## `remove` -/

/-- The loop of `remove`: the ranges that the iterator leaves in the set, and `splitRanges`. -/
def removeLoop (ipRange : IpRange) : List IpRange → Except Failure (List IpRange × List IpRange)
  | [] => return ([], [])
  | curRange :: rest =>
      if ipRange.stop < curRange.start then return (curRange :: rest, [])
      else do
        match ← IpRange.minus curRange ipRange with
        | none => do
            let (kept, splitRanges) ← removeLoop ipRange rest
            return (curRange :: kept, splitRanges)
        | some resultRanges => do
            let (kept, splitRanges) ← removeLoop ipRange rest
            return (kept, resultRanges ++ splitRanges)

def remove (ipRange : IpRange) : Except Failure IpRangeSet := do
  let (kept, splitRanges) ← removeLoop ipRange set.ranges
  return ⟨splitRanges.foldl (fun ranges r => insertRange r ranges) kept⟩

theorem removeLoop_eq : removeLoop r l = .ok (Intervals.removeLoop r l) := by
  induction l with
  | nil => rfl
  | cons s l ih =>
    simp only [removeLoop, IpRange.minus_eq, bind, bind, pure, pure, ih,
      Intervals.removeLoop]
    split
    · rfl
    · cases s.diff r <;> rfl

/-- `remove` does not throw. -/
theorem remove_eq (r : IpRange) :
    set.remove r = .ok ⟨Intervals.remove r set.ranges⟩ := by
  simp only [remove, removeLoop_eq, insertRange_eq, bind, bind, pure, pure]
  rfl

/-! ## Sequences of calls -/

/-- A call with the range of a network. -/
inductive Call where
  | add (n : Network)
  | remove (n : Network)

/-- The call on a set of ranges. -/
def Call.run (set : IpRangeSet) : Call → Except Failure IpRangeSet
  | .add n => do set.add (← IpRange.ofAddress n.address n.mask)
  | .remove n => do set.remove (← IpRange.ofAddress n.address n.mask)

/-- The call on a set of addresses. -/
def Call.apply (addresses : Set IpAddress) : Call → Set IpAddress
  | .add n => addresses ∪ n.addresses
  | .remove n => addresses \ n.addresses

variable {set : IpRangeSet}

/-- One call on a normal set. -/
theorem Call.run_spec (hset : Normal set.ranges) (call : Call) :
    ∃ set', call.run set = .ok set' ∧ Normal set'.ranges ∧
      cover set'.ranges = call.apply (cover set.ranges) := by
  cases call with
  | add n =>
    obtain ⟨r, hr, hpoints⟩ := n.exists_range
    refine ⟨⟨Intervals.add r set.ranges⟩, ?_, hset.add r, ?_⟩
    · rw [run, hr]
      exact add_eq set r
    · rw [cover_add hset, hpoints]
      rfl
  | remove n =>
    obtain ⟨r, hr, hpoints⟩ := n.exists_range
    refine ⟨⟨Intervals.remove r set.ranges⟩, ?_, hset.remove r, ?_⟩
    · rw [run, hr]
      exact remove_eq set r
    · rw [cover_remove hset, hpoints]
      rfl

/-- After calls on a normal set. -/
theorem foldlM_run (hset : Normal set.ranges) (calls : List Call) :
    ∃ set', calls.foldlM Call.run set = .ok set' ∧ Normal set'.ranges ∧
      cover set'.ranges = calls.foldl Call.apply (cover set.ranges) := by
  induction calls generalizing set with
  | nil => exact ⟨set, rfl, hset, rfl⟩
  | cons call calls ih =>
    obtain ⟨next, hrun, hnext, hcover⟩ := call.run_spec hset
    obtain ⟨set', hset', hnormal, hcover'⟩ := ih hnext
    refine ⟨set', ?_, hnormal, ?_⟩
    · rw [List.foldlM_cons, hrun]
      exact hset'
    · rw [hcover', hcover, List.foldl_cons]

/-- After any sequence of calls of `add` and `remove`, with networks of both families and of any
prefix lengths: none of the calls throws; the addresses of the stored ranges are those that the same
unions and differences give; and every range ends before the later ones begin, and not right before
them. -/
theorem calls_faithful (calls : List Call) :
    ∃ set, calls.foldlM Call.run empty = .ok set ∧
      cover set.ranges = calls.foldl Call.apply ∅ ∧
      set.ranges.Pairwise fun r t => r.stop < t.start ∧ r.stop.inc ≠ .ok t.start := by
  have hempty : Normal empty.ranges := List.Pairwise.nil
  obtain ⟨set, hset, hnormal, hcover⟩ := foldlM_run hempty calls
  have hnone : cover empty.ranges = ∅ := cover_nil
  rw [hnone] at hcover
  refine ⟨set, hset, hcover, hnormal.imp fun {r t} h => ⟨h.1, ?_⟩⟩
  intro hinc
  refine h.2 ?_
  show r.stop.inc.toOption = some t.start
  rw [hinc]
  rfl

end IpRangeSet

end Dopamine.Android
