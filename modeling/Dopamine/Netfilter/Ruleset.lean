import Mathlib.Data.List.Basic

/-!
# Rule chains and the commands that edit them

A ruleset is one table of a packet filter: a finite list of named chains, each with its rules in
order. The commands are the ones `iptables(8)` documents (`-N`, `-F`, `-X`, `-A`, `-I`, `-D`, `-C`,
`-R`); each returns whether it succeeded, and a command that fails changes nothing. A rule can only
jump to a chain that exists, and a chain is deleted only when it is empty and nothing jumps to it.

Match conditions `M`, verdicts `V` and chain names `N` are parameters.
-/

namespace Netfilter

variable {M V N : Type*}

/-- What a rule does with a packet that meets its condition. -/
inductive Target (V N : Type*) where
  /-- decide the packet -/
  | verdict (v : V)
  /-- continue in another chain, and come back if that chain decides nothing -/
  | jump (chain : N)
  /-- leave the chain -/
  | ret
  /-- an extension target that leaves the verdict open, such as `MARK` -/
  | ext (name : String)
  /-- no target: the rule only counts packets -/
  | none
deriving DecidableEq

/-- Packets that meet `cond` go to `target`. -/
structure Rule (M V N : Type*) where
  cond : M
  target : Target V N
deriving DecidableEq

/-- The rules of one table. A name that is not a chain has no rules. -/
structure Ruleset (M V N : Type*) where
  chains : List N
  rules : N → List (Rule M V N)
  rules_eq_nil : ∀ c, c ∉ chains → rules c = []

namespace Ruleset

variable {rs : Ruleset M V N} {c : N}

@[ext]
theorem ext' {rs' : Ruleset M V N} (hc : rs.chains = rs'.chains)
    (hr : ∀ c, rs.rules c = rs'.rules c) : rs = rs' := by
  cases rs
  cases rs'
  simp only [mk.injEq]
  exact ⟨hc, funext hr⟩

variable [DecidableEq N]

/-- Rewrite the rules of one existing chain. -/
def modify (rs : Ruleset M V N) (c : N) (f : List (Rule M V N) → List (Rule M V N)) :
    Ruleset M V N where
  chains := rs.chains
  rules d := if d = c ∧ c ∈ rs.chains then f (rs.rules d) else rs.rules d
  rules_eq_nil d hd := by
    rw [if_neg (by rintro ⟨rfl, h⟩; exact hd h)]
    exact rs.rules_eq_nil d hd

@[simp]
theorem modify_chains (rs : Ruleset M V N) (c : N) (f) : (rs.modify c f).chains = rs.chains := rfl

theorem modify_rules (rs : Ruleset M V N) (hc : c ∈ rs.chains) (f) (d : N) :
    (rs.modify c f).rules d = if d = c then f (rs.rules d) else rs.rules d := by
  simp only [modify, hc, and_true]

/-- `-N c`: make an empty chain; fails when the name is taken. -/
def newChain (c : N) (rs : Ruleset M V N) : Bool × Ruleset M V N :=
  if c ∈ rs.chains then (false, rs)
  else (true,
    { chains := rs.chains ++ [c]
      rules := rs.rules
      rules_eq_nil := fun d hd =>
        rs.rules_eq_nil d fun hm => hd (List.mem_append_left _ hm) })

theorem newChain_chains (hc : c ∉ rs.chains) : (rs.newChain c).2.chains = rs.chains ++ [c] := by
  rw [newChain, if_neg hc]

@[simp]
theorem newChain_rules (rs : Ruleset M V N) (c d : N) : (rs.newChain c).2.rules d = rs.rules d := by
  rw [newChain]
  split <;> rfl

variable [DecidableEq V]

/-- Some rule of the table jumps to `c`. -/
def referenced (rs : Ruleset M V N) (c : N) : Bool :=
  rs.chains.any fun d => (rs.rules d).any fun r => decide (r.target = .jump c)

theorem referenced_eq_false (h : ∀ d, ∀ r ∈ rs.rules d, r.target ≠ .jump c) :
    rs.referenced c = false := by
  simp only [referenced, List.any_eq_false]
  intro d _ h'
  obtain ⟨r, hr, hrc⟩ := List.any_eq_true.mp h'
  exact h d r hr (of_decide_eq_true hrc)

/-- The chain a rule jumps to exists. -/
def targetExists (rs : Ruleset M V N) (r : Rule M V N) : Bool :=
  match r.target with
  | .jump c => decide (c ∈ rs.chains)
  | _ => true

variable (c : N) (r : Rule M V N) (rs : Ruleset M V N)

/-- `-F c`: remove every rule of a chain. -/
def flush : Bool × Ruleset M V N :=
  if c ∈ rs.chains then (true, rs.modify c fun _ => []) else (false, rs)

/-- `-X c`: delete a chain that is empty and that no rule jumps to. -/
def deleteChain : Bool × Ruleset M V N :=
  if c ∈ rs.chains ∧ rs.rules c = [] ∧ rs.referenced c = false then
    (true,
      { chains := rs.chains.filter (· ≠ c)
        rules := fun d => if d = c then [] else rs.rules d
        rules_eq_nil := fun d hd => by
          by_cases hdc : d = c
          · rw [if_pos hdc]
          · rw [if_neg hdc]
            refine rs.rules_eq_nil d fun hm => hd ?_
            exact List.mem_filter.mpr ⟨hm, by simpa using hdc⟩ })
  else (false, rs)

/-- `-L c`: list a chain; only its exit status is used. -/
def list : Bool × Ruleset M V N := (decide (c ∈ rs.chains), rs)

/-- A rule can be put into the chain: the chain and the target of the rule exist. -/
def accepts (rs : Ruleset M V N) (c : N) (r : Rule M V N) : Bool :=
  decide (c ∈ rs.chains) && rs.targetExists r

variable [DecidableEq M]

/-- `-C c r`: succeed exactly when the chain has the rule. -/
def check : Bool × Ruleset M V N :=
  (rs.accepts c r && decide (r ∈ rs.rules c), rs)

/-- `-I c r`: insert a rule at the top. -/
def insert : Bool × Ruleset M V N :=
  if rs.accepts c r then (true, rs.modify c (r :: ·)) else (false, rs)

/-- `-D c r`: remove the first rule equal to `r`. -/
def delete : Bool × Ruleset M V N :=
  if rs.accepts c r ∧ r ∈ rs.rules c then (true, rs.modify c (·.erase r)) else (false, rs)

/-- `-D c i`: remove the rule at index `i`, counted from zero. -/
def deleteAt (c : N) (i : ℕ) (rs : Ruleset M V N) : Bool × Ruleset M V N :=
  if i < (rs.rules c).length then (true, rs.modify c (·.eraseIdx i)) else (false, rs)

/-- `-R c 1 r`: replace the first rule of a chain. -/
def replaceFirst : Bool × Ruleset M V N :=
  if rs.accepts c r ∧ rs.rules c ≠ [] then
    (true, rs.modify c fun l => r :: l.tail)
  else (false, rs)

/-- `-A c` for each rule of a list in turn: one invocation makes several rules when an address
resolves to several networks. It fails without a rule to add. -/
def appendAll (c : N) (rl : List (Rule M V N)) (rs : Ruleset M V N) : Bool × Ruleset M V N :=
  (!rl.isEmpty && rl.all (rs.accepts c),
    if rl.all (rs.accepts c) then rs.modify c (· ++ rl) else rs)

end Ruleset

end Netfilter
