import Mathlib.Data.List.Basic

/-!
# Computations that may fail

When a sequence of steps, or one step for each member of a list, has a result.
-/

namespace Fallible

variable {ε α β : Type} {f : α → Except ε β} {l : List α} {r : List β}

theorem bind_eq_ok {x : Except ε α} {b : β} : x >>= f = .ok b ↔ ∃ a, x = .ok a ∧ f a = .ok b := by
  cases x with
  | error e => exact ⟨fun h => (nomatch h), fun ⟨_, h, _⟩ => nomatch h⟩
  | ok a => exact ⟨fun h => ⟨a, rfl, h⟩, fun ⟨_, ha, h⟩ => Except.ok.inj ha ▸ h⟩

/-- The results of a list are the results of its members. -/
theorem map_of_mapM (h : l.mapM f = .ok r) : l.map f = r.map .ok := by
  induction l generalizing r with
  | nil => rw [← Except.ok.inj h]; rfl
  | cons a l ih =>
    rw [List.mapM_cons] at h
    obtain ⟨b, hb, h⟩ := bind_eq_ok.mp h
    obtain ⟨r', hr, h⟩ := bind_eq_ok.mp h
    rw [← Except.ok.inj h, List.map_cons, List.map_cons, hb, ih hr]

theorem mem_of_mapM (h : l.mapM f = .ok r) {b : β} : b ∈ r ↔ ∃ a ∈ l, f a = .ok b := by
  rw [← List.mem_map, map_of_mapM h, List.mem_map_of_injective fun _ _ => Except.ok.inj]

theorem exists_of_mapM (h : l.mapM f = .ok r) {a : α} (ha : a ∈ l) : ∃ b, f a = .ok b := by
  obtain ⟨b, -, hb⟩ := List.mem_map.mp (map_of_mapM h ▸ List.mem_map_of_mem ha)
  exact ⟨b, hb.symm⟩

end Fallible
