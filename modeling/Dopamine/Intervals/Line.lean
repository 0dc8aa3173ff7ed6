import Mathlib.Data.List.Basic
import Mathlib.Data.List.Pairwise
import Mathlib.Order.Cover

/-!
# Sets of segments on a line

A `Line` is a linear order that falls into families, one after the other. Within a family every
point but the last one has a next point. A `Segment` is a nonempty interval within one family.

A list of segments is *normal* if every segment lies before all later ones and does not touch them.
`add` and `remove` change a normal list as a sorted set is changed through its iterator: `add` grows
the new segment by those it meets, `remove` replaces every segment it meets by what is left of it.
The result is normal again and covers the union (`cover_add`) or the difference (`cover_remove`).
-/

namespace Intervals

open List

/-- A linear order that falls into families, with the neighbours of a point in its own family. -/
structure Line (α κ : Type) [LinearOrder α] [LinearOrder κ] where
  family : α → κ
  monotone_family : Monotone family
  next : α → Option α
  prev : α → Option α
  next_eq_some_iff : ∀ {a b}, next a = some b ↔ a ⋖ b ∧ family a = family b
  prev_eq_some_iff : ∀ {a b}, prev b = some a ↔ a ⋖ b ∧ family a = family b
  isSome_next : ∀ {a b}, a < b → family a = family b → (next a).isSome = true
  isSome_prev : ∀ {a b}, a < b → family a = family b → (prev b).isSome = true

variable {α κ : Type} [LinearOrder α] [LinearOrder κ]

/-- A point between two points of a family is of that family. -/
theorem Line.family_eq_of_mem (L : Line α κ) {a b c : α} (hac : L.family a = L.family c)
    (hab : a ≤ b) (hbc : b ≤ c) : L.family a = L.family b :=
  le_antisymm (L.monotone_family hab) (hac ▸ L.monotone_family hbc)

/-- A nonempty interval within a family. -/
structure Segment (L : Line α κ) where
  start : α
  stop : α
  start_le_stop : start ≤ stop
  family_eq : L.family start = L.family stop
deriving DecidableEq

variable {L : Line α κ}

namespace Segment

/-- The points of a segment. -/
def points (s : Segment L) : Set α := Set.Icc s.start s.stop

variable {s t r : Segment L} {a : α}

theorem mem_points : a ∈ s.points ↔ s.start ≤ a ∧ a ≤ s.stop := Iff.rfl

/-- The first segment ends before the second one begins, and not right before it. -/
def Before (s t : Segment L) : Prop := s.stop < t.start ∧ L.next s.stop ≠ some t.start

instance (s t : Segment L) : Decidable (s.Before t) := instDecidableAnd

/-- Some point is in both segments. -/
def Overlap (s t : Segment L) : Prop := s.start ≤ t.stop ∧ t.start ≤ s.stop

instance (s t : Segment L) : Decidable (s.Overlap t) := instDecidableAnd

/-- The segments overlap, or one begins right after the other. -/
def Meet (s t : Segment L) : Prop :=
  L.prev s.start = some t.stop ∨ L.next s.stop = some t.start ∨ s.Overlap t

instance (s t : Segment L) : Decidable (s.Meet t) := instDecidableOr

theorem prev_start_iff : L.prev s.start = some t.stop ↔ L.next t.stop = some s.start :=
  L.prev_eq_some_iff.trans L.next_eq_some_iff.symm

theorem not_meet_iff : ¬s.Meet t ↔ s.Before t ∨ t.Before s := by
  unfold Meet Before Overlap
  rw [prev_start_iff]
  constructor
  · intro h
    obtain ⟨hprev, hnext, hoverlap⟩ := not_or.mp h |>.imp_right not_or.mp
    rcases not_and_or.mp hoverlap with h | h
    · exact .inr ⟨not_le.mp h, hprev⟩
    · exact .inl ⟨not_le.mp h, hnext⟩
  · rintro (⟨hlt, hnext⟩ | ⟨hlt, hnext⟩) (h | h | h)
    · -- the second one would end before the first one begins
      have hts : t.stop < s.start := (L.next_eq_some_iff.mp h).1.lt
      exact absurd (hts.trans_le s.start_le_stop |>.trans hlt) (not_lt.mpr t.start_le_stop)
    · exact hnext h
    · exact absurd hlt (not_lt.mpr h.2)
    · exact hnext h
    · have hst : s.stop < t.start := (L.next_eq_some_iff.mp h).1.lt
      exact absurd (hst.trans_le t.start_le_stop |>.trans hlt) (not_lt.mpr s.start_le_stop)
    · exact absurd hlt (not_lt.mpr h.1)

theorem Before.trans {u : Segment L} (hst : s.Before t) (htu : t.Before u) : s.Before u := by
  refine ⟨hst.1.trans_le t.start_le_stop |>.trans htu.1, fun h => ?_⟩
  -- a point of the middle one would lie between
  exact (L.next_eq_some_iff.mp h).1.2 hst.1 (t.start_le_stop.trans_lt htu.1)

/-- What lies within two segments keeps their distance. -/
theorem Before.mono {s' t' : Segment L} (h : s.Before t) (hs : s'.stop ≤ s.stop)
    (ht : t.start ≤ t'.start) : s'.Before t' := by
  refine ⟨hs.trans_lt h.1 |>.trans_le ht, fun hnext => ?_⟩
  have hcovBy := (L.next_eq_some_iff.mp hnext).1
  have hstop : s'.stop = s.stop := hs.eq_of_not_lt fun hlt => hcovBy.2 hlt (h.1.trans_le ht)
  have hstart : t.start = t'.start :=
    ht.eq_of_not_lt fun hlt => hcovBy.2 (hs.trans_lt h.1) hlt
  exact h.2 (hstop ▸ hstart ▸ hnext)

theorem Before.not_mem (h : s.Before t) (ha : a ∈ s.points) : a ∉ t.points :=
  fun hat => absurd (ha.2.trans_lt h.1 |>.trans_le hat.1) (lt_irrefl a)

/-- Segments that meet are of one family. -/
theorem Meet.family_eq (h : s.Meet t) : L.family s.start = L.family t.start := by
  rcases h with h | h | h
  · exact t.family_eq.trans (L.prev_eq_some_iff.mp h).2 |>.symm
  · exact s.family_eq.trans (L.next_eq_some_iff.mp h).2
  · rcases le_total s.start t.start with hle | hle
    · exact L.family_eq_of_mem s.family_eq hle h.2
    · exact (L.family_eq_of_mem t.family_eq hle h.1).symm

/-- The smallest segment that holds two segments of one family. -/
def hull (s t : Segment L) (h : L.family s.start = L.family t.start) : Segment L where
  start := min s.start t.start
  stop := max s.stop t.stop
  start_le_stop := (min_le_left ..).trans (s.start_le_stop.trans (le_max_left ..))
  family_eq := by
    have hstop : L.family s.stop = L.family t.stop := s.family_eq ▸ t.family_eq ▸ h
    rcases min_choice s.start t.start with hmin | hmin <;>
      rcases max_choice s.stop t.stop with hmax | hmax <;> rw [hmin, hmax]
    · exact s.family_eq
    · exact s.family_eq.trans hstop
    · exact t.family_eq.trans hstop.symm
    · exact t.family_eq

/-- Two segments together, if they meet. -/
def join (s t : Segment L) : Option (Segment L) :=
  if h : s.Meet t then some (s.hull t h.family_eq) else none

theorem points_hull (h : s.Meet t) : (s.hull t h.family_eq).points = s.points ∪ t.points := by
  ext a
  show min s.start t.start ≤ a ∧ a ≤ max s.stop t.stop ↔
    (s.start ≤ a ∧ a ≤ s.stop) ∨ (t.start ≤ a ∧ a ≤ t.stop)
  rw [min_le_iff, le_max_iff]
  refine ⟨fun ⟨hlo, hhi⟩ => ?_, ?_⟩
  · -- a point outside of both would lie between them
    by_contra hout
    obtain ⟨hs, ht⟩ := not_or.mp hout
    have hcross : (s.stop < a ∧ a < t.start) ∨ (t.stop < a ∧ a < s.start) := by
      rcases hlo with hlo | hlo
      · have hsa : s.stop < a := not_le.mp fun h => hs ⟨hlo, h⟩
        have hat : a ≤ t.stop := hhi.resolve_left (not_le.mpr hsa)
        exact .inl ⟨hsa, not_le.mp fun h => ht ⟨h, hat⟩⟩
      · have hta : t.stop < a := not_le.mp fun h => ht ⟨hlo, h⟩
        have has : a ≤ s.stop := hhi.resolve_right (not_le.mpr hta)
        exact .inr ⟨hta, not_le.mp fun h => hs ⟨h, has⟩⟩
    refine not_meet_iff.mpr ?_ h
    rcases hcross with ⟨hsa, hat⟩ | ⟨hta, has⟩
    · exact .inl ⟨hsa.trans hat, fun hnext => (L.next_eq_some_iff.mp hnext).1.2 hsa hat⟩
    · exact .inr ⟨hta.trans has, fun hnext => (L.next_eq_some_iff.mp hnext).1.2 hta has⟩
  · rintro (⟨hlo, hhi⟩ | ⟨hlo, hhi⟩)
    · exact ⟨.inl hlo, .inl hhi⟩
    · exact ⟨.inr hlo, .inr hhi⟩

/-! ## What is left of a segment -/

/-- The part of `s` before `r`. -/
def left (s r : Segment L) (h : s.start < r.start ∧ s.Overlap r) (p : α)
    (hp : L.prev r.start = some p) : Segment L where
  start := s.start
  stop := p
  start_le_stop := (L.prev_eq_some_iff.mp hp).1.le_of_lt h.1
  family_eq :=
    have hcovBy := (L.prev_eq_some_iff.mp hp).1
    L.family_eq_of_mem s.family_eq (hcovBy.le_of_lt h.1) (hcovBy.le.trans h.2.2)

/-- The part of `s` after `r`. -/
def right (s r : Segment L) (h : r.stop < s.stop ∧ s.Overlap r) (n : α)
    (hn : L.next r.stop = some n) : Segment L where
  start := n
  stop := s.stop
  start_le_stop := (L.next_eq_some_iff.mp hn).1.ge_of_gt h.1
  family_eq :=
    have hcovBy := (L.next_eq_some_iff.mp hn).1
    have hle : s.start ≤ n := h.2.1.trans hcovBy.le
    (L.family_eq_of_mem s.family_eq hle (hcovBy.ge_of_gt h.1)).symm.trans s.family_eq

/-- The part of `s` before `r`, if there is one. -/
def leftPieces (s r : Segment L) (h : s.Overlap r) : List (Segment L) :=
  if hlt : s.start < r.start then
    match hp : L.prev r.start with
    | some p => [s.left r ⟨hlt, h⟩ p hp]
    | none => []
  else []

/-- The part of `s` after `r`, if there is one. -/
def rightPieces (s r : Segment L) (h : s.Overlap r) : List (Segment L) :=
  if hlt : r.stop < s.stop then
    match hn : L.next r.stop with
    | some n => [s.right r ⟨hlt, h⟩ n hn]
    | none => []
  else []

variable (h : s.Overlap r)

/-- A part before `r` ends right before it. -/
theorem leftPieces_eq {p : α} (hlt : s.start < r.start)
    (hp : L.prev r.start = some p) : s.leftPieces r h = [s.left r ⟨hlt, h⟩ p hp] := by
  rw [leftPieces, dif_pos hlt]
  split
  · rename_i p' hp'
    obtain rfl : p = p' := Option.some.inj (hp.symm.trans hp')
    rfl
  · rename_i hnone
    cases hp.symm.trans hnone

theorem rightPieces_eq {n : α} (hlt : r.stop < s.stop)
    (hn : L.next r.stop = some n) : s.rightPieces r h = [s.right r ⟨hlt, h⟩ n hn] := by
  rw [rightPieces, dif_pos hlt]
  split
  · rename_i n' hn'
    obtain rfl : n = n' := Option.some.inj (hn.symm.trans hn')
    rfl
  · rename_i hnone
    cases hn.symm.trans hnone

/-- Where `s` begins before `r`, `r` has a point before it. -/
theorem exists_prev (h : s.Overlap r) (hlt : s.start < r.start) : ∃ p, L.prev r.start = some p :=
  Option.isSome_iff_exists.mp
    (L.isSome_prev hlt (L.family_eq_of_mem s.family_eq hlt.le h.2))

theorem exists_next (h : s.Overlap r) (hlt : r.stop < s.stop) : ∃ n, L.next r.stop = some n :=
  Option.isSome_iff_exists.mp
    (L.isSome_next hlt ((L.family_eq_of_mem s.family_eq h.1 hlt.le).symm.trans s.family_eq))

/-- The parts of `s` before and after `r`. -/
def pieces (s r : Segment L) (h : s.Overlap r) : List (Segment L) :=
  s.leftPieces r h ++ s.rightPieces r h

/-- What is left of `s` without `r`; nothing is said if `r` does not change it. -/
def diff (s r : Segment L) : Option (List (Segment L)) :=
  if h : s.Overlap r then some (s.pieces r h) else none

theorem mem_leftPieces :
    t ∈ s.leftPieces r h ↔
      s.start < r.start ∧ t.start = s.start ∧ L.prev r.start = some t.stop := by
  obtain ⟨start, stop, hle, hfamily⟩ := t
  by_cases hlt : s.start < r.start
  · obtain ⟨p, hp⟩ := exists_prev h hlt
    rw [leftPieces_eq h hlt hp, mem_singleton, left, Segment.mk.injEq, hp, Option.some_inj]
    exact ⟨fun ⟨hstart, hstop⟩ => ⟨hlt, hstart, hstop.symm⟩,
      fun ⟨_, hstart, hstop⟩ => ⟨hstart, hstop.symm⟩⟩
  · rw [leftPieces, dif_neg hlt]
    exact ⟨fun hmem => (nomatch hmem), fun hmem => absurd hmem.1 hlt⟩

theorem mem_rightPieces :
    t ∈ s.rightPieces r h ↔
      r.stop < s.stop ∧ t.stop = s.stop ∧ L.next r.stop = some t.start := by
  obtain ⟨start, stop, hle, hfamily⟩ := t
  by_cases hlt : r.stop < s.stop
  · obtain ⟨n, hn⟩ := exists_next h hlt
    rw [rightPieces_eq h hlt hn, mem_singleton, right, Segment.mk.injEq, hn, Option.some_inj]
    exact ⟨fun ⟨hstart, hstop⟩ => ⟨hlt, hstop, hstart.symm⟩,
      fun ⟨_, hstop, hstart⟩ => ⟨hstart.symm, hstop⟩⟩
  · rw [rightPieces, dif_neg hlt]
    exact ⟨fun hmem => (nomatch hmem), fun hmem => absurd hmem.1 hlt⟩

theorem mem_pieces :
    t ∈ s.pieces r h ↔
      (s.start < r.start ∧ t.start = s.start ∧ L.prev r.start = some t.stop) ∨
        (r.stop < s.stop ∧ t.stop = s.stop ∧ L.next r.stop = some t.start) := by
  rw [pieces, mem_append, mem_leftPieces, mem_rightPieces]

/-- The parts lie within the segment. -/
theorem le_of_mem_pieces {h : s.Overlap r} (ht : t ∈ s.pieces r h) :
    s.start ≤ t.start ∧ t.stop ≤ s.stop := by
  rcases (mem_pieces h).mp ht with ⟨-, hstart, hprev⟩ | ⟨-, hstop, hnext⟩
  · exact ⟨hstart.ge, (L.prev_eq_some_iff.mp hprev).1.le.trans h.2⟩
  · exact ⟨h.1.trans (L.next_eq_some_iff.mp hnext).1.le, hstop.le⟩

/-- The parts are what is left. -/
theorem exists_mem_pieces_iff :
    (∃ t ∈ s.pieces r h, a ∈ t.points) ↔ a ∈ s.points ∧ a ∉ r.points := by
  constructor
  · rintro ⟨t, ht, ha⟩
    have hwithin := le_of_mem_pieces ht
    refine ⟨⟨hwithin.1.trans ha.1, ha.2.trans hwithin.2⟩, fun har => ?_⟩
    rcases (mem_pieces h).mp ht with ⟨-, -, hprev⟩ | ⟨-, -, hnext⟩
    · exact absurd har.1 (not_le.mpr (ha.2.trans_lt (L.prev_eq_some_iff.mp hprev).1.lt))
    · exact absurd har.2 (not_le.mpr ((L.next_eq_some_iff.mp hnext).1.lt.trans_le ha.1))
  · rintro ⟨has, har⟩
    rcases lt_or_ge a r.start with hlt | hge
    · have hstart : s.start < r.start := has.1.trans_lt hlt
      obtain ⟨p, hp⟩ := exists_prev h hstart
      refine ⟨s.left r ⟨hstart, h⟩ p hp, (mem_pieces h).mpr (.inl ⟨hstart, rfl, hp⟩), has.1, ?_⟩
      exact (L.prev_eq_some_iff.mp hp).1.le_of_lt hlt
    · have hgt : r.stop < a := not_le.mp fun hle => har ⟨hge, hle⟩
      have hstop : r.stop < s.stop := hgt.trans_le has.2
      obtain ⟨n, hn⟩ := exists_next h hstop
      refine ⟨s.right r ⟨hstop, h⟩ n hn, (mem_pieces h).mpr (.inr ⟨hstop, rfl, hn⟩), ?_, has.2⟩
      exact (L.next_eq_some_iff.mp hn).1.ge_of_gt hgt

/-- The part before `r` and the part after it do not touch. -/
theorem pairwise_pieces : (s.pieces r h).Pairwise Before := by
  have hsides : ∀ t u : Segment L, L.prev r.start = some t.stop → L.next r.stop = some u.start →
      t.Before u := by
    intro t u ht hu
    have hlt : t.stop < r.start := (L.prev_eq_some_iff.mp ht).1.lt
    have hru : r.stop < u.start := (L.next_eq_some_iff.mp hu).1.lt
    refine ⟨hlt.trans_le r.start_le_stop |>.trans hru, fun hnext => ?_⟩
    exact (L.next_eq_some_iff.mp hnext).1.2 hlt (r.start_le_stop.trans_lt hru)
  refine pairwise_append.mpr ⟨?_, ?_, fun t ht u hu => ?_⟩
  · rw [leftPieces]
    split
    · split
      · exact pairwise_singleton ..
      · exact List.Pairwise.nil
    · exact List.Pairwise.nil
  · rw [rightPieces]
    split
    · split
      · exact pairwise_singleton ..
      · exact List.Pairwise.nil
    · exact List.Pairwise.nil
  · exact hsides t u ((mem_leftPieces h).mp ht).2.2 ((mem_rightPieces h).mp hu).2.2

end Segment

/-! ## Lists of segments -/

/-- Every segment lies before the later ones and touches none of them. -/
def Normal (l : List (Segment L)) : Prop := l.Pairwise Segment.Before

/-- The points of the segments. -/
def cover (l : List (Segment L)) : Set α := {a | ∃ s ∈ l, a ∈ s.points}

variable {l : List (Segment L)} {s r : Segment L}

theorem mem_cover {a : α} : a ∈ cover l ↔ ∃ s ∈ l, a ∈ s.points := Iff.rfl

@[simp] theorem cover_nil : cover ([] : List (Segment L)) = ∅ := by
  ext a
  simp [mem_cover]

@[simp] theorem cover_cons (s : Segment L) (l : List (Segment L)) :
    cover (s :: l) = s.points ∪ cover l := by
  ext a
  simp [mem_cover]

@[simp] theorem cover_append (l l' : List (Segment L)) : cover (l ++ l') = cover l ∪ cover l' := by
  ext a
  simp only [mem_cover, mem_append, or_and_right, exists_or, Set.mem_union]

theorem cover_perm {l' : List (Segment L)} (h : l.Perm l') : cover l = cover l' := by
  ext a
  simp only [mem_cover, h.mem_iff]

/-- Of two segments of a normal list one lies before the other. -/
theorem Normal.before_or_before (hl : Normal l) {t : Segment L} (hs : s ∈ l) (ht : t ∈ l)
    (hne : s ≠ t) : s.Before t ∨ t.Before s := by
  have hpair : l.Pairwise fun s t => s.Before t ∨ t.Before s := hl.imp .inl
  have hsymm : Std.Symm fun s t : Segment L => s.Before t ∨ t.Before s := ⟨fun _ _ h => h.symm⟩
  exact hpair.forall hs ht hne

/-- Of a normal list only one segment holds a point. -/
theorem Normal.eq_of_mem (hl : Normal l) {t : Segment L} (hs : s ∈ l) (ht : t ∈ l) {a : α}
    (has : a ∈ s.points) (hat : a ∈ t.points) : s = t := by
  by_contra hne
  rcases hl.before_or_before hs ht hne with h | h
  · exact h.not_mem has hat
  · exact h.not_mem hat has

/-- A segment that a normal list covers lies in one of its segments. -/
theorem Normal.exists_of_subset (hl : Normal l) (h : s.points ⊆ cover l) :
    ∃ t ∈ l, s.points ⊆ t.points := by
  obtain ⟨t, ht, hstart⟩ := h ⟨le_rfl, s.start_le_stop⟩
  refine ⟨t, ht, fun a ha => ⟨hstart.1.trans ha.1, ?_⟩⟩
  by_contra hgt
  -- then the point after `t` is covered, by a segment that begins there or overlaps `t`
  have hlt : t.stop < s.stop := (not_le.mp hgt).trans_le ha.2
  have hfamily := (L.family_eq_of_mem s.family_eq hstart.2 hlt.le).symm.trans s.family_eq
  obtain ⟨n, hn⟩ := Option.isSome_iff_exists.mp (L.isSome_next hlt hfamily)
  have hcovBy := (L.next_eq_some_iff.mp hn).1
  obtain ⟨u, hu, hnu⟩ := h ⟨hstart.2.trans hcovBy.le, hcovBy.ge_of_gt hlt⟩
  have hne : t ≠ u := fun heq => absurd (heq ▸ hnu.2) (not_le.mpr hcovBy.lt)
  rcases hl.before_or_before ht hu hne with hbefore | hbefore
  · have hbegin : n = u.start := le_antisymm (hcovBy.ge_of_gt hbefore.1) hnu.1
    exact hbefore.2 (hbegin ▸ hn)
  · have hend : u.stop < n := hbefore.1.trans_le t.start_le_stop |>.trans hcovBy.lt
    exact absurd hnu.2 (not_le.mpr hend)

/-- Insert a segment into a sorted set, ordered by start and then by end. -/
def insert (r : Segment L) : List (Segment L) → List (Segment L)
  | [] => [r]
  | s :: l =>
      if r.start < s.start ∨ r.start = s.start ∧ r.stop < s.stop then r :: s :: l
      else if r = s then s :: l
      else s :: insert r l

theorem mem_insert {t : Segment L} : t ∈ insert r l ↔ t = r ∨ t ∈ l := by
  induction l with
  | nil => simp [insert]
  | cons s l ih =>
    rw [insert]
    split
    · exact mem_cons
    · split
      · rename_i heq
        rw [heq, mem_cons]
        exact ⟨.inr, fun h => h.elim .inl id⟩
      · rw [mem_cons, ih, mem_cons, or_left_comm]

theorem cover_insert (r : Segment L) (l : List (Segment L)) :
    cover (insert r l) = r.points ∪ cover l := by
  ext a
  rw [← cover_cons, mem_cover, mem_cover]
  simp only [mem_insert, mem_cons]

/-- A segment that touches none of a normal list has its place in it. -/
theorem Normal.insert (hl : Normal l) (hr : ∀ s ∈ l, s.Before r ∨ r.Before s) :
    Normal (insert r l) := by
  induction l with
  | nil => exact pairwise_singleton ..
  | cons s l ih =>
    obtain ⟨hs, hl'⟩ := pairwise_cons.mp hl
    rw [Intervals.insert]
    rcases hr s mem_cons_self with hsr | hrs
    · have hlt : s.start < r.start := s.start_le_stop.trans_lt hsr.1
      rw [if_neg (not_or.mpr ⟨hlt.asymm, fun h => hlt.ne' h.1⟩),
        if_neg fun h => hlt.ne' (congrArg Segment.start h)]
      refine pairwise_cons.mpr ⟨fun t ht => ?_, ih hl' fun t ht => hr t (.tail _ ht)⟩
      rcases mem_insert.mp ht with rfl | ht
      · exact hsr
      · exact hs t ht
    · rw [if_pos (.inl (r.start_le_stop.trans_lt hrs.1))]
      refine pairwise_cons.mpr ⟨fun t ht => ?_, hl⟩
      rcases mem_cons.mp ht with rfl | ht
      · exact hrs
      · exact hrs.trans (hs t ht)

/-- Insert several segments, one after the other. -/
def insertAll (pieces l : List (Segment L)) : List (Segment L) :=
  pieces.foldl (fun l t => insert t l) l

/-- Inserting segments that do not touch each other or the list. -/
theorem Normal.insertAll {pieces : List (Segment L)} (hl : Normal l)
    (h : (l ++ pieces).Pairwise fun s t => s.Before t ∨ t.Before s) :
    Normal (insertAll pieces l) := by
  induction pieces generalizing l with
  | nil => exact hl
  | cons t pieces ih =>
    obtain ⟨hll, hpieces, hcross⟩ := pairwise_append.mp h
    obtain ⟨ht, hpieces⟩ := pairwise_cons.mp hpieces
    have hnew : Normal (Intervals.insert t l) :=
      hl.insert fun s hs => hcross s hs t mem_cons_self
    refine ih hnew (pairwise_append.mpr ⟨hnew.imp .inl, hpieces, fun s hs u hu => ?_⟩)
    rcases mem_insert.mp hs with rfl | hs
    · exact ht u hu
    · exact hcross s hs u (.tail _ hu)

theorem cover_insertAll (pieces l : List (Segment L)) :
    cover (insertAll pieces l) = cover (l ++ pieces) := by
  induction pieces generalizing l with
  | nil => rw [insertAll, foldl_nil, append_nil]
  | cons t pieces ih =>
    have ih : cover (insertAll pieces (insert t l)) = cover (insert t l ++ pieces) := ih _
    rw [insertAll, foldl_cons]
    refine ih.trans ?_
    rw [cover_append, cover_insert, cover_append, cover_cons, Set.union_comm t.points,
      Set.union_assoc]

/-! ## Adding a segment -/

/-- The walk of `add`: what stays in the set, and what is to be inserted, if anything. -/
def addLoop (r : Segment L) : List (Segment L) → List (Segment L) × Option (Segment L)
  | [] => ([], some r)
  | s :: l =>
      if r.Before s ∧ (L.next r.stop).isSome = true then (s :: l, some r)
      else
        match s.join r with
        | none => ((s :: (addLoop r l).1), (addLoop r l).2)
        | some t => if t = s then (s :: l, none) else addLoop t l

/-- Add a segment to a set. -/
def add (r : Segment L) (l : List (Segment L)) : List (Segment L) :=
  match addLoop r l with
  | (kept, some t) => insert t kept
  | (kept, none) => kept

/-- A segment before all others stays as it is. -/
theorem addLoop_of_before (h : ∀ s ∈ l, r.Before s) : addLoop r l = (l, some r) := by
  induction l with
  | nil => rfl
  | cons s l ih =>
    have hs := h s mem_cons_self
    have hjoin : s.join r = none := dif_neg (Segment.not_meet_iff.mpr (.inr hs))
    rw [addLoop, hjoin, ih fun t ht => h t (.tail _ ht)]
    split <;> rfl

/-- What the walk of `add` leaves. -/
structure AddSpec (r : Segment L) (l kept : List (Segment L)) (t : Segment L) : Prop where
  sublist : kept.Sublist l
  start : t.start = r.start ∨ ∃ s ∈ l, t.start = s.start
  apart : ∀ s ∈ kept, s.Before t ∨ t.Before s
  cover_eq : t.points ∪ cover kept = r.points ∪ cover l

/-- The walk either finds a segment that holds the new one, or collects all that meet it. -/
theorem addLoop_spec (hl : Normal l) :
    (addLoop r l = (l, none) ∧ ∃ s ∈ l, r.points ⊆ s.points) ∨
      ∃ kept t, addLoop r l = (kept, some t) ∧ AddSpec r l kept t := by
  induction l generalizing r with
  | nil =>
    exact .inr ⟨[], r, rfl, .refl _, .inl rfl, fun _ h => (nomatch h), rfl⟩
  | cons s l ih =>
    obtain ⟨hs, hl⟩ := pairwise_cons.mp hl
    by_cases hbefore : r.Before s
    · -- then it lies before all of them, whether the walk stops here or not
      have hall : ∀ t ∈ s :: l, r.Before t := by
        intro t ht
        rcases mem_cons.mp ht with rfl | ht
        · exact hbefore
        · exact hbefore.trans (hs t ht)
      exact .inr ⟨s :: l, r, addLoop_of_before hall, .refl _, .inl rfl,
        fun t ht => .inr (hall t ht), rfl⟩
    rw [addLoop, if_neg fun h => hbefore h.1]
    by_cases hmeet : s.Meet r
    · rw [show s.join r = some (s.hull r hmeet.family_eq) from dif_pos hmeet]
      have hpoints := Segment.points_hull hmeet
      by_cases hsame : s.hull r hmeet.family_eq = s
      · left
        refine ⟨if_pos hsame, s, mem_cons_self, ?_⟩
        rw [hsame] at hpoints
        exact hpoints ▸ Set.subset_union_right
      · right
        dsimp only
        rw [if_neg hsame]
        rcases ih (r := s.hull r hmeet.family_eq) hl with ⟨-, t, ht, hsub⟩ | ⟨kept, t, heq, hspec⟩
        · -- no later segment holds the one that was taken out
          have hmem : s.start ∈ t.points :=
            hsub (hpoints ▸ .inl ⟨le_rfl, s.start_le_stop⟩)
          exact absurd hmem ((hs t ht).not_mem ⟨le_rfl, s.start_le_stop⟩)
        · refine ⟨kept, t, heq, hspec.sublist.cons _, ?_, hspec.apart, ?_⟩
          · rcases hspec.start with hstart | ⟨u, hu, hstart⟩
            · rcases min_choice s.start r.start with hmin | hmin
              · exact .inr ⟨s, mem_cons_self, hstart.trans hmin⟩
              · exact .inl (hstart.trans hmin)
            · exact .inr ⟨u, .tail _ hu, hstart⟩
          · rw [hspec.cover_eq, hpoints, cover_cons, Set.union_comm s.points r.points,
              Set.union_assoc]
    · rw [show s.join r = none from dif_neg hmeet]
      have hsr : s.Before r := (Segment.not_meet_iff.mp hmeet).resolve_right hbefore
      rcases ih (r := r) hl with ⟨heq, t, ht, hsub⟩ | ⟨kept, t, heq, hspec⟩
      · left
        rw [heq]
        exact ⟨rfl, t, .tail _ ht, hsub⟩
      · right
        rw [heq]
        refine ⟨s :: kept, t, rfl, hspec.sublist.cons_cons s, ?_, ?_, ?_⟩
        · exact hspec.start.imp_right fun ⟨u, hu, hstart⟩ => ⟨u, .tail _ hu, hstart⟩
        · intro u hu
          rcases mem_cons.mp hu with rfl | hu
          · left
            rcases hspec.start with hstart | ⟨v, hv, hstart⟩
            · exact hsr.mono le_rfl hstart.ge
            · exact (hs v hv).mono le_rfl hstart.ge
          · exact hspec.apart u hu
        · rw [cover_cons, cover_cons, Set.union_left_comm, hspec.cover_eq, Set.union_left_comm]

theorem Normal.add (hl : Normal l) (r : Segment L) : Normal (add r l) := by
  unfold Intervals.add
  rcases addLoop_spec (r := r) hl with ⟨heq, -⟩ | ⟨kept, t, heq, hspec⟩
  · rw [heq]
    exact hl
  · rw [heq]
    exact Normal.insert (hl.sublist hspec.sublist) hspec.apart

/-- Adding a segment is the union. -/
theorem cover_add (hl : Normal l) (r : Segment L) : cover (add r l) = cover l ∪ r.points := by
  unfold add
  rcases addLoop_spec (r := r) hl with ⟨heq, s, hs, hsub⟩ | ⟨kept, t, heq, hspec⟩
  · rw [heq]
    have hcovered : r.points ⊆ cover l := fun a ha => ⟨s, hs, hsub ha⟩
    exact (Set.union_eq_left.mpr hcovered).symm
  · rw [heq, Set.union_comm]
    exact (cover_insert t kept).trans hspec.cover_eq

/-! ## Removing a segment -/

/-- The walk of `remove`: what stays in the set, and what is left of the others. -/
def removeLoop (r : Segment L) : List (Segment L) → List (Segment L) × List (Segment L)
  | [] => ([], [])
  | s :: l =>
      if r.stop < s.start then (s :: l, [])
      else
        match s.diff r with
        | none => ((s :: (removeLoop r l).1), (removeLoop r l).2)
        | some pieces => ((removeLoop r l).1, pieces ++ (removeLoop r l).2)

/-- Remove a segment from a set. -/
def remove (r : Segment L) (l : List (Segment L)) : List (Segment L) :=
  insertAll (removeLoop r l).2 (removeLoop r l).1

/-- The segments that `r` leaves of `s`. -/
def Segment.without (s r : Segment L) : List (Segment L) := (s.diff r).getD [s]

theorem Segment.without_of_not_overlap (h : ¬s.Overlap r) : s.without r = [s] := by
  rw [without, diff, dif_neg h, Option.getD_none]

theorem Segment.without_of_overlap (h : s.Overlap r) : s.without r = s.pieces r h := by
  rw [without, diff, dif_pos h, Option.getD_some]

theorem Segment.le_of_mem_without {t : Segment L} (ht : t ∈ s.without r) :
    s.start ≤ t.start ∧ t.stop ≤ s.stop := by
  by_cases h : s.Overlap r
  · rw [without_of_overlap h] at ht
    exact le_of_mem_pieces ht
  · rw [without_of_not_overlap h, mem_singleton] at ht
    exact ht ▸ ⟨le_rfl, le_rfl⟩

theorem Segment.cover_without (s r : Segment L) : cover (s.without r) = s.points \ r.points := by
  by_cases h : s.Overlap r
  · rw [without_of_overlap h]
    ext a
    exact exists_mem_pieces_iff h
  · rw [without_of_not_overlap h, cover_cons, cover_nil, Set.union_empty, eq_comm, sdiff_eq_left]
    refine Set.disjoint_left.mpr fun a ha har => h ⟨ha.1.trans har.2, har.1.trans ha.2⟩

theorem Segment.normal_without (s r : Segment L) : Normal (s.without r) := by
  by_cases h : s.Overlap r
  · rw [without_of_overlap h]
    exact pairwise_pieces h
  · rw [without_of_not_overlap h]
    exact pairwise_singleton ..

/-- Leaving `r` out of every segment keeps a list normal. -/
theorem Normal.flatMap_without (hl : Normal l) (r : Segment L) :
    Normal (l.flatMap fun s => s.without r) := by
  refine pairwise_flatMap.mpr ⟨fun s _ => s.normal_without r, ?_⟩
  refine List.Pairwise.imp (fun {s t} hst u hu v hv => ?_) hl
  exact hst.mono (Segment.le_of_mem_without hu).2 (Segment.le_of_mem_without hv).1

theorem cover_flatMap_without (l : List (Segment L)) (r : Segment L) :
    cover (l.flatMap fun s => s.without r) = cover l \ r.points := by
  induction l with
  | nil => simp
  | cons s l ih =>
    rw [flatMap_cons, cover_append, Segment.cover_without, ih, cover_cons, Set.union_sdiff_distrib]

/-- The walk of `remove` gives what is left of the segments, in another order. -/
theorem removeLoop_perm (hl : Normal l) (r : Segment L) :
    ((removeLoop r l).1 ++ (removeLoop r l).2).Perm (l.flatMap fun s => s.without r) := by
  induction l with
  | nil => exact .refl _
  | cons s l ih =>
    obtain ⟨hs, hl'⟩ := pairwise_cons.mp hl
    have ih := ih hl'
    rw [removeLoop]
    by_cases hlt : r.stop < s.start
    · -- the walk stops: nothing of the rest is changed
      have hrest : ∀ t ∈ s :: l, t.without r = [t] := by
        intro t ht
        have hst : s.start ≤ t.start := by
          rcases mem_cons.mp ht with rfl | ht
          · exact le_rfl
          · exact s.start_le_stop.trans (hs t ht).1.le
        exact Segment.without_of_not_overlap fun h => absurd h.1 (not_le.mpr (hlt.trans_le hst))
      rw [if_pos hlt, append_nil, flatMap_congr hrest, flatMap_singleton']
    · rw [if_neg hlt, flatMap_cons]
      by_cases h : s.Overlap r
      · rw [show s.diff r = some (s.pieces r h) from dif_pos h, Segment.without_of_overlap h]
        refine (perm_append_comm_assoc ..).trans ?_
        exact ih.append_left _
      · rw [show s.diff r = none from dif_neg h, Segment.without_of_not_overlap h]
        exact ih.cons s

theorem removeLoop_sublist (r : Segment L) (l : List (Segment L)) :
    (removeLoop r l).1.Sublist l := by
  induction l with
  | nil => exact .refl _
  | cons s l ih =>
    rw [removeLoop]
    split
    · exact .refl _
    · split
      · exact ih.cons_cons s
      · exact ih.cons s

theorem Normal.remove (hl : Normal l) (r : Segment L) : Normal (remove r l) := by
  refine Normal.insertAll (hl.sublist (removeLoop_sublist r l)) ?_
  have hsymm : ∀ {s t : Segment L}, (s.Before t ∨ t.Before s) → (t.Before s ∨ s.Before t) :=
    fun h => h.symm
  exact ((removeLoop_perm hl r).pairwise_iff hsymm).mpr ((hl.flatMap_without r).imp .inl)

/-- Removing a segment is the difference. -/
theorem cover_remove (hl : Normal l) (r : Segment L) : cover (remove r l) = cover l \ r.points := by
  unfold remove
  rw [cover_insertAll, cover_perm (removeLoop_perm hl r), cover_flatMap_without]

end Intervals
