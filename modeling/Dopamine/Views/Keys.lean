import Mathlib.Data.List.Sort
import Mathlib.Data.Finset.Dedup

/-!
# The keys of a list

Elements of a list have keys, and a blank key counts as none. `sortedKeys` are the different keys in
their order and `keySet` is the set of them. Both depend only on which keys occur (`SameKeys`), so
an update of the list leaves them exactly if it neither brings a key nor takes the last one of a
kind away.
-/

namespace Views

open List

universe u v

variable {α : Type u} {κ : Type v} [LinearOrder κ] (blank : κ) (key : α → κ)

/-- The keys of the elements, without the blank one. -/
def keys (l : List α) : List κ := (l.map key).filter fun k => k ≠ blank

/-- The different keys, sorted. -/
def sortedKeys (l : List α) : List κ := (keys blank key l).dedup.insertionSort (· ≤ ·)

def keySet (l : List α) : Finset κ := (keys blank key l).toFinset

/-- The same keys occur in both lists. -/
def SameKeys (l l' : List α) : Prop := ∀ k, k ≠ blank → ((∃ a ∈ l, key a = k) ↔ ∃ a ∈ l', key a = k)

variable {blank key} {l l' : List α}

theorem mem_keys {k : κ} : k ∈ keys blank key l ↔ k ≠ blank ∧ ∃ a ∈ l, key a = k := by
  rw [keys, mem_filter, mem_map, decide_eq_true_eq, and_comm]

theorem sameKeys_iff_mem :
    SameKeys blank key l l' ↔ ∀ k, k ∈ keys blank key l ↔ k ∈ keys blank key l' := by
  refine forall_congr' fun k => ?_
  rw [mem_keys, mem_keys, and_congr_right_iff]

/-- The sorted keys are the same if and only if the same keys occur. -/
theorem sortedKeys_eq_iff :
    sortedKeys blank key l = sortedKeys blank key l' ↔ SameKeys blank key l l' := by
  have hmem : ∀ l k, k ∈ sortedKeys blank key l ↔ k ∈ keys blank key l := fun l k => by
    rw [sortedKeys, mem_insertionSort, mem_dedup]
  have hnodup : ∀ l, (sortedKeys blank key l).Nodup := fun l =>
    (perm_insertionSort _ _).nodup_iff.mpr (nodup_dedup _)
  have hsorted : ∀ l, (sortedKeys blank key l).Pairwise (· ≤ ·) := fun l =>
    pairwise_insertionSort _ _
  rw [sameKeys_iff_mem]
  constructor
  · intro h k
    rw [← hmem, ← hmem, h]
  · intro h
    have hperm : (sortedKeys blank key l).Perm (sortedKeys blank key l') :=
      (perm_ext_iff_of_nodup (hnodup l) (hnodup l')).mpr fun k => by rw [hmem, hmem, h]
    exact hperm.eq_of_pairwise' (hsorted l) (hsorted l')

/-- The set of the keys is the same if and only if the same keys occur. -/
theorem keySet_eq_iff : keySet blank key l = keySet blank key l' ↔ SameKeys blank key l l' := by
  rw [sameKeys_iff_mem, Finset.ext_iff]
  refine forall_congr' fun k => ?_
  rw [keySet, keySet, mem_toFinset, mem_toFinset]

omit [LinearOrder κ] in
/-- Elements that are replaced by others with the same key leave the keys. -/
theorem sameKeys_of_map_eq (h : l.map key = l'.map key) : SameKeys blank key l l' := by
  intro k _
  rw [← mem_map, ← mem_map, h]

end Views
