import Mathlib.Data.List.Range
import Mathlib.Data.List.Perm.Subperm
import Mathlib.Order.Lattice

/-!
# Maps with sorted keys

A `SortedMap` is a list of members whose keys increase strictly. It is determined by its values
(`SortedMap.ext`), so two maps that were built in different ways are equal as soon as they have the
same value for every key.

`set` writes a value, or takes the key out if there is none, and `value_set` says all about it.
-/

namespace Maps

open List Option Prod

universe u v

variable {κ : Type u} {α : Type v} [LinearOrder κ]

/-- A list of members whose keys increase strictly. -/
structure SortedMap (κ : Type u) (α : Type v) [LinearOrder κ] where
  members : List (κ × α)
  sorted : members.Pairwise fun a b => a.1 < b.1
deriving DecidableEq

/-- The value of a key in a list of members. -/
def valueIn (k : κ) : List (κ × α) → Option α
  | [] => none
  | e :: l => if k = e.1 then some e.2 else valueIn k l

/-- The members with a value for the key in its place, or without the key. -/
def setIn (k : κ) (v : Option α) : List (κ × α) → List (κ × α)
  | [] => v.toList.map (Prod.mk k)
  | e :: l =>
      if k < e.1 then v.toList.map (Prod.mk k) ++ e :: l
      else if k = e.1 then v.toList.map (Prod.mk k) ++ l
      else e :: setIn k v l

variable {k : κ} {l : List (κ × α)} {v : Option α}

theorem valueIn_eq_none (h : ∀ e ∈ l, e.1 ≠ k) : valueIn k l = none := by
  induction l with
  | nil => rfl
  | cons e l ih =>
    rw [valueIn, if_neg (h e mem_cons_self).symm]
    exact ih fun e' he' => h e' (mem_cons_of_mem _ he')

theorem valueIn_append_of_fst : valueIn k (v.toList.map (Prod.mk k) ++ l) = v.or (valueIn k l) := by
  cases v with
  | none => rfl
  | some a => exact if_pos rfl

theorem valueIn_append_of_ne {k' : κ} (hne : k' ≠ k) :
    valueIn k' (v.toList.map (Prod.mk k) ++ l) = valueIn k' l := by
  cases v with
  | none => rfl
  | some a => exact if_neg hne

theorem mem_setIn {e : κ × α} (he : e ∈ setIn k v l) : e.1 = k ∨ e ∈ l := by
  have hnew : ∀ {e : κ × α}, e ∈ v.toList.map (mk k) → e.1 = k := by
    intro e he
    obtain ⟨a, -, rfl⟩ := mem_map.mp he
    rfl
  induction l with
  | nil => exact .inl (hnew he)
  | cons e' l ih =>
    rw [setIn] at he
    split_ifs at he
    · exact (mem_append.mp he).imp_left hnew
    · exact (mem_append.mp he).imp hnew (mem_cons_of_mem _)
    · rcases mem_cons.mp he with rfl | he
      · exact .inr mem_cons_self
      · exact (ih he).imp_right (mem_cons_of_mem _)

theorem sorted_setIn (h : l.Pairwise fun a b => a.1 < b.1) :
    (setIn k v l).Pairwise fun a b => a.1 < b.1 := by
  induction l with
  | nil => cases v <;> simp [setIn]
  | cons e l ih =>
    obtain ⟨hhead, htail⟩ := pairwise_cons.mp h
    have hbefore : ∀ {l' : List (κ × α)}, (∀ e' ∈ l', k < e'.1) →
        (l'.Pairwise fun a b => a.1 < b.1) →
        (v.toList.map (mk k) ++ l').Pairwise fun a b => a.1 < b.1 := by
      intro l' hlt hl'
      cases v with
      | none => exact hl'
      | some a => exact pairwise_cons.mpr ⟨hlt, hl'⟩
    rw [setIn]
    split_ifs with hlt heq
    · refine hbefore (fun e' he' => ?_) h
      rcases mem_cons.mp he' with rfl | he'
      · exact hlt
      · exact hlt.trans (hhead e' he')
    · exact hbefore (fun e' he' => heq ▸ hhead e' he') htail
    · refine pairwise_cons.mpr ⟨fun e' he' => ?_, ih htail⟩
      rcases mem_setIn he' with hk | he'
      · exact hk ▸ lt_of_le_of_ne (not_lt.mp hlt) (Ne.symm heq)
      · exact hhead e' he'

theorem valueIn_setIn (h : l.Pairwise fun a b => a.1 < b.1) (k' : κ) :
    valueIn k' (setIn k v l) = if k' = k then v else valueIn k' l := by
  induction l with
  | nil =>
    rw [setIn, ← append_nil (v.toList.map _)]
    split_ifs with hk
    · rw [hk, valueIn_append_of_fst]
      exact or_none
    · exact valueIn_append_of_ne hk
  | cons e l ih =>
    obtain ⟨hhead, htail⟩ := pairwise_cons.mp h
    by_cases hk : k' = k
    · subst hk
      rw [if_pos rfl, setIn]
      split_ifs with hlt heq
      · -- the key comes before all others
        rw [valueIn_append_of_fst, valueIn_eq_none, or_none]
        intro e' he'
        rcases mem_cons.mp he' with rfl | he'
        · exact hlt.ne'
        · exact (hlt.trans (hhead e' he')).ne'
      · rw [valueIn_append_of_fst, valueIn_eq_none, or_none]
        exact fun e' he' => (heq ▸ hhead e' he').ne'
      · rw [valueIn, if_neg heq, ih htail, if_pos rfl]
    · rw [if_neg hk, setIn]
      split_ifs with hlt heq
      · exact valueIn_append_of_ne hk
      · rw [valueIn_append_of_ne hk, valueIn, if_neg (heq ▸ hk)]
      · rw [valueIn, valueIn, ih htail, if_neg hk]

/-- The values determine the members. -/
theorem eq_of_valueIn {l' : List (κ × α)} (h : l.Pairwise fun a b => a.1 < b.1)
    (h' : l'.Pairwise fun a b => a.1 < b.1) (hv : ∀ k, valueIn k l = valueIn k l') : l = l' := by
  induction l generalizing l' with
  | nil =>
    cases l' with
    | nil => rfl
    | cons e' l' => exact absurd ((hv e'.1).trans (if_pos rfl)) (by rintro ⟨⟩)
  | cons e l ih =>
    cases l' with
    | nil => exact absurd ((hv e.1).symm.trans (if_pos rfl)) (by rintro ⟨⟩)
    | cons e' l' =>
      obtain ⟨hhead, htail⟩ := pairwise_cons.mp h
      obtain ⟨hhead', htail'⟩ := pairwise_cons.mp h'
      -- a key below the first one has no value
      have hbelow : ∀ {k : κ} {e : κ × α} {l : List (κ × α)}, (∀ b ∈ l, e.1 < b.1) → k < e.1 →
          valueIn k (e :: l) = none := by
        intro k e l hl hk
        refine valueIn_eq_none fun b hb => ?_
        rcases mem_cons.mp hb with rfl | hb
        · exact hk.ne'
        · exact (hk.trans (hl b hb)).ne'
      have hfst : e.1 = e'.1 := by
        rcases lt_trichotomy e.1 e'.1 with hlt | heq | hlt
        · have := (hv e.1).trans (hbelow hhead' hlt)
          cases (if_pos rfl).symm.trans this
        · exact heq
        · have := (hv e'.1).symm.trans (hbelow hhead hlt)
          cases (if_pos rfl).symm.trans this
      have hsnd : e.2 = e'.2 := by
        have := hv e.1
        rw [valueIn, if_pos rfl, valueIn, if_pos hfst] at this
        exact some.inj this
      have hrest : l = l' := by
        refine ih htail htail' fun k => ?_
        by_cases hk : k = e.1
        · rw [hk, valueIn_eq_none fun b hb => (hhead b hb).ne',
            valueIn_eq_none fun b hb => hfst ▸ (hhead' b hb).ne']
        · have := hv k
          rwa [valueIn, if_neg hk, valueIn, if_neg (hfst ▸ hk)] at this
      rw [hrest, Prod.ext hfst hsnd]

namespace SortedMap

/-- The map without members. -/
def empty : SortedMap κ α := ⟨[], List.Pairwise.nil⟩

def value (m : SortedMap κ α) (k : κ) : Option α := valueIn k m.members

/-- Write a value, or take the key out if there is none. -/
def set (m : SortedMap κ α) (k : κ) (v : Option α) : SortedMap κ α :=
  ⟨setIn k v m.members, sorted_setIn m.sorted⟩

/-- Write the members of a list one after the other. -/
def writeAll (m : SortedMap κ α) (l : List (κ × α)) : SortedMap κ α :=
  l.foldl (fun m e => m.set e.1 (some e.2)) m

@[ext]
theorem ext {m m' : SortedMap κ α} (h : ∀ k, m.value k = m'.value k) : m = m' := by
  obtain ⟨l, hl⟩ := m
  obtain ⟨l', hl'⟩ := m'
  obtain rfl : l = l' := eq_of_valueIn hl hl' h
  rfl

@[simp]
theorem value_empty (k : κ) : (empty : SortedMap κ α).value k = none := rfl

variable (m : SortedMap κ α)

theorem value_set (k : κ) (v : Option α) (k' : κ) :
    (m.set k v).value k' = if k' = k then v else m.value k' :=
  valueIn_setIn m.sorted k'

@[simp]
theorem value_set_self (k : κ) (v : Option α) : (m.set k v).value k = v := by
  rw [value_set, if_pos rfl]

variable {k : κ} {l : List (κ × α)} {v : α}

theorem value_set_of_ne {k' : κ} (v : Option α) (h : k' ≠ k) :
    (m.set k v).value k' = m.value k' := by
  rw [value_set, if_neg h]

/-- Members that increase are found after they were written. -/
theorem value_writeAll (hl : l.Pairwise fun a b => a.1 < b.1) (k : κ) :
    (m.writeAll l).value k = (valueIn k l).or (m.value k) := by
  induction l generalizing m with
  | nil => rfl
  | cons e l ih =>
    obtain ⟨hhead, htail⟩ := pairwise_cons.mp hl
    have hstep : (m.writeAll (e :: l)).value k = (valueIn k l).or ((m.set e.1 (some e.2)).value k) :=
      ih (m.set e.1 (some e.2)) htail
    rw [hstep, value_set, valueIn]
    split_ifs with hk
    · rw [hk, valueIn_eq_none fun b hb => (hhead b hb).ne']
      rfl
    · rfl

/-- The members of a map, written to the empty one, give the map. -/
theorem empty_writeAll_members : empty.writeAll m.members = m :=
  ext fun k => (value_writeAll empty m.sorted k).trans or_none

/-! ## The keys -/

theorem isSome_valueIn : (valueIn k l).isSome = true ↔ k ∈ l.map fst := by
  induction l with
  | nil => simp [valueIn]
  | cons e l ih =>
    rw [valueIn, map_cons, mem_cons]
    split_ifs with hk
    · exact iff_of_true rfl (.inl hk)
    · rw [ih, or_iff_right hk]

/-- The members of a sorted list are its keys with their values. -/
theorem mem_iff_valueIn (h : l.Pairwise fun a b => a.1 < b.1) :
    (k, v) ∈ l ↔ valueIn k l = some v := by
  induction l with
  | nil => simp [valueIn]
  | cons e l ih =>
    obtain ⟨hhead, htail⟩ := pairwise_cons.mp h
    rw [mem_cons, valueIn]
    split_ifs with hk
    · have hout : (k, v) ∉ l := fun hmem => absurd hk (hhead _ hmem).ne'
      rw [or_iff_left hout, some_inj, Prod.ext_iff, and_iff_right hk, eq_comm]
    · rw [ih htail, or_iff_right fun heq => hk (congrArg fst heq)]

theorem mem_members_iff {m : SortedMap κ α} :
    (k, v) ∈ m.members ↔ m.value k = some v := mem_iff_valueIn m.sorted

theorem keys_nodup : (m.members.map fst).Nodup := pairwise_map.mpr (m.sorted.imp ne_of_lt)

/-- A map with keys below `n` has `n` members exactly if all of them are there. -/
theorem length_eq_iff_forall_lt {m : SortedMap ℕ α} {n : ℕ}
    (h : ∀ k, (m.value k).isSome = true → k < n) :
    m.members.length = n ↔ ∀ k < n, (m.value k).isSome = true := by
  have hsub : (m.members.map fst).Subperm (range n) :=
    subperm_of_subset m.keys_nodup fun k hk => mem_range.mpr (h k (isSome_valueIn.mpr hk))
  constructor
  · intro hlength k hk
    have hperm : (m.members.map fst).Perm (range n) :=
      hsub.perm_of_length_le (by rw [length_map, length_range, hlength])
    exact isSome_valueIn.mpr (hperm.mem_iff.mpr (mem_range.mpr hk))
  · intro hall
    have hsup : (range n).Subperm (m.members.map fst) :=
      subperm_of_subset nodup_range fun k hk =>
        isSome_valueIn.mp (hall k (mem_range.mp hk))
    have hle := hsub.length_le
    have hge := hsup.length_le
    rw [length_map, length_range] at hle hge
    exact le_antisymm hle hge

end SortedMap

end Maps
