import Dopamine.Netfilter.Ruleset

/-!
# What a packet meets in a ruleset

A packet enters at a chain and meets its rules in order; the first rule that matches and decides
gives the verdict. A jump runs the other chain first and comes back when that chain decides nothing.
`none` is a packet that falls off the end of the chain.

A ruleset without a jump cycle visits each chain at most once along a path, so the number of chains
bounds the depth of the recursion; `Ruleset.verdict` uses that bound.
-/

namespace Netfilter

open List

variable {M V N : Type*}

/-- The verdict of a list of rules, given the verdict `sub` of every chain it can jump to and the
conditions `sat` the packet meets. -/
def evalRules (sat : M → Bool) (sub : N → Option V) : List (Rule M V N) → Option V
  | [] => none
  | r :: rest =>
      if sat r.cond then
        match r.target with
        | .verdict v => some v
        | .jump c => (sub c).or (evalRules sat sub rest)
        | .ret => none
        | .ext _ => evalRules sat sub rest
        | .none => evalRules sat sub rest
      else evalRules sat sub rest

/-- The verdict of a chain, following jumps to the given depth. -/
def evalChain (rs : Ruleset M V N) (sat : M → Bool) : ℕ → N → Option V
  | 0, _ => none
  | depth + 1, c => evalRules sat (evalChain rs sat depth) (rs.rules c)

/-- The verdict a packet gets that enters the ruleset at `c`. -/
def Ruleset.verdict (rs : Ruleset M V N) (sat : M → Bool) (c : N) : Option V :=
  evalChain rs sat (rs.chains.length + 1) c

section EvalRules

variable (sat : M → Bool) (sub : N → Option V)

@[simp]
theorem evalRules_nil : evalRules sat sub ([] : List (Rule M V N)) = none := rfl

/-- A first rule that jumps unconditionally hands the packet over, and the rest of the chain only
counts when the other chain leaves it open. -/
theorem evalRules_jump_cons {m : M} (hm : sat m = true) (c : N) (rest : List (Rule M V N)) :
    evalRules sat sub (⟨m, .jump c⟩ :: rest) = (sub c).or (evalRules sat sub rest) := by
  simp only [evalRules, hm, if_true]

/-- A chain of unconditional jumps takes the first chain that decides. -/
theorem evalRules_jumps {ι : Type*} {m : M} (hm : sat m = true) (chain : ι → N) (l : List ι)
    {g : ι → Option V} (hg : ∀ i ∈ l, sub (chain i) = g i) :
    evalRules sat sub (l.map fun i => ⟨m, .jump (chain i)⟩) = l.findSome? g := by
  induction l with
  | nil => rfl
  | cons i l ih =>
    have hrest := ih fun j hj => hg j (mem_cons_of_mem _ hj)
    rw [map_cons, evalRules_jump_cons sat sub hm, hrest, findSome?_cons,
      hg i mem_cons_self]
    cases g i <;> rfl

/-- Rules that all give one verdict give it to every packet that meets one of them. -/
theorem evalRules_const {v : V} (l : List (Rule M V N)) (h : ∀ r ∈ l, r.target = .verdict v) :
    evalRules sat sub l = if l.any (fun r => sat r.cond) then some v else none := by
  induction l with
  | nil => rfl
  | cons r l ih =>
    have hr : r.target = .verdict v := h r mem_cons_self
    have hl := ih fun r' hr' => h r' (mem_cons_of_mem _ hr')
    simp only [evalRules, hr, hl, any_cons]
    by_cases hs : sat r.cond = true <;> simp [hs]

end EvalRules

end Netfilter
