import Mathlib.Data.List.Basic

/-!
# Rulesets in which the last match wins

A packet meets all rules in order, and the last one that matches decides, unless a rule that matches
is marked `quick`: that one decides at once. `none` is a packet that no rule matches.

The main result is about rules that are added: a packet that is refused stays refused when only
refusing rules are put in, wherever they are put (`verdict_of_inserted`).
-/

namespace Pf

universe u v

variable {M : Type u} {V : Type v}

/-- After a `quick` rule no other one is looked at. -/
structure Rule (M : Type u) (V : Type v) where
  cond : M
  verdict : V
  quick : Bool := false

/-- Go through the rules with the verdict so far. -/
def eval (sat : M → Bool) : Option V → List (Rule M V) → Option V
  | last, [] => last
  | last, r :: rules =>
      if sat r.cond then
        if r.quick then some r.verdict else eval sat (some r.verdict) rules
      else eval sat last rules

def verdict (sat : M → Bool) (rules : List (Rule M V)) : Option V := eval sat none rules

/-- The second list is the first one with rules of verdict `v` put in. -/
inductive Inserted (v : V) : List (Rule M V) → List (Rule M V) → Prop
  | nil : Inserted v [] []
  | keep (r : Rule M V) {l l' : List (Rule M V)} : Inserted v l l' → Inserted v (r :: l) (r :: l')
  | insert (r : Rule M V) {l l' : List (Rule M V)} :
      r.verdict = v → Inserted v l l' → Inserted v l (r :: l')

theorem Inserted.refl (v : V) : ∀ l : List (Rule M V), Inserted v l l
  | [] => .nil
  | r :: l => .keep r (Inserted.refl v l)

variable {v : V}

theorem Inserted.append {l₁ l₁' l₂ l₂' : List (Rule M V)} (h₁ : Inserted v l₁ l₁')
    (h₂ : Inserted v l₂ l₂') : Inserted v (l₁ ++ l₂) (l₁' ++ l₂') := by
  induction h₁ with
  | nil => exact h₂
  | keep r _ ih => exact .keep r ih
  | insert r hr _ ih => exact .insert r hr ih

/-- Rules of verdict `v` put in where there were none. -/
theorem inserted_nil {l : List (Rule M V)} (h : ∀ r ∈ l, r.verdict = v) : Inserted v [] l := by
  induction l with
  | nil => exact .nil
  | cons r l ih =>
    exact .insert r (h r List.mem_cons_self)
      (ih fun r' hr' => h r' (List.mem_cons_of_mem _ hr'))

theorem Inserted.flatMap {ι : Type*} {f g : ι → List (Rule M V)} {l : List ι}
    (h : ∀ i ∈ l, Inserted v (f i) (g i)) : Inserted v (l.flatMap f) (l.flatMap g) := by
  induction l with
  | nil => exact .nil
  | cons i l ih =>
    rw [List.flatMap_cons, List.flatMap_cons]
    exact (h i List.mem_cons_self).append (ih fun j hj => h j (List.mem_cons_of_mem _ hj))

variable (sat : M → Bool)

/-- The verdict so far may only turn to `v`, and then so does the end. -/
theorem eval_of_inserted {l l' : List (Rule M V)} (h : Inserted v l l') {last last' : Option V}
    (hlast : last = some v → last' = some v) (hv : eval sat last l = some v) :
    eval sat last' l' = some v := by
  induction h generalizing last last' with
  | nil => exact hlast hv
  | keep r _ ih =>
    rw [eval] at hv ⊢
    by_cases hs : sat r.cond = true
    · rw [if_pos hs] at hv ⊢
      split at hv
      · next hq => rw [if_pos hq, hv]
      · next hq =>
        rw [if_neg hq]
        exact ih id hv
    · rw [if_neg hs] at hv ⊢
      exact ih hlast hv
  | insert r hr _ ih =>
    rw [eval]
    by_cases hs : sat r.cond = true
    · rw [if_pos hs, hr]
      split
      · rfl
      · exact ih (fun _ => rfl) hv
    · rw [if_neg hs]
      exact ih hlast hv

theorem verdict_of_inserted {l l' : List (Rule M V)} (h : Inserted v l l')
    (hv : verdict sat l = some v) : verdict sat l' = some v :=
  eval_of_inserted sat h id hv

end Pf
