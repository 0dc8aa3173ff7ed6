import Dopamine.Linux.LinuxFirewall
import Dopamine.Netfilter.Frame

/-!
# The anchors of one table

What `LinuxFirewall` is for, per family and table: a list of anchors in a fixed order, each enabled
or not and each with its rules. `ownPart` is the ruleset that represents such a state, and a table
of the kernel is the overlay of the host's rules and this part. The theorems below say what each
script does to the abstract state, so that nothing later looks at chains.
-/

namespace Dopamine.Linux

open Netfilter Shell Ruleset List RuleSpec

/-- A table the program has not touched: its parent chain exists, no chain is the program's, and
rules jump to chains that exist. -/
structure Host (t : Table) where
  rs : IptRuleset
  parent_mem : t.parent ∈ rs.chains
  foreign : Foreign Chain.own rs
  target_mem : ∀ c, ∀ r ∈ rs.rules c, ∀ d, r.target = .jump d → d ∈ rs.chains

variable {t : Table}

theorem Table.parent_own (t : Table) : t.parent.own = false := by
  cases t <;> rfl

variable {c d : Chain} {r : FilterRule} {spec : RuleSpec} (h : Host t)

/-- No rule of the host jumps to a chain of the program. -/
theorem Host.ne_jump (hc : c.own = true) (d : Chain) : ∀ r ∈ h.rs.rules d, r.target ≠ .jump c := by
  intro r hr hj
  have hmem := h.target_mem d r hr c hj
  rw [h.foreign c hmem] at hc
  cases hc

/-- The host's part while the root chain is linked. -/
def Host.linked (h : Host t) : IptRuleset := h.rs.modify t.parent (jumpTo .root :: ·)

theorem Host.linked_foreign : Foreign Chain.own h.linked := h.foreign

theorem Host.linked_rules (d : Chain) :
    h.linked.rules d = if d = t.parent then jumpTo .root :: h.rs.rules d else h.rs.rules d :=
  modify_rules h.rs h.parent_mem _ d

/-- While linked, the host's part jumps to no chain of the program but the root chain. -/
theorem Host.linked_ne_jump (hc : c.own = true) (hroot : c ≠ .root) (d : Chain) :
    ∀ r ∈ h.linked.rules d, r.target ≠ .jump c := by
  intro r hr hj
  rw [h.linked_rules] at hr
  split at hr
  · rcases mem_cons.mp hr with rfl | hr
    · exact hroot (Target.jump.inj hj).symm
    · exact h.ne_jump hc d r hr hj
  · exact h.ne_jump hc d r hr hj

/-! ## Scripts that stay within the program's chains -/

/-- The rule jumps to no foreign chain. -/
def OwnTarget (r : FilterRule) : Prop := ∀ d, r.target = .jump d → d.own = true

theorem ownTarget_jumpTo (hc : c.own = true) : OwnTarget (jumpTo c) := by
  intro d hd
  rw [← Target.jump.inj hd]
  exact hc

/-- The command touches the program's chains only, over the host's part `h`. -/
def Cmd.Local (h : IptRuleset) : Cmd → Prop
  | .new c | .flush c | .list c => c.own = true
  | .delete c => c.own = true ∧ ∀ d, ∀ r ∈ h.rules d, r.target ≠ .jump c
  | .check c r | .remove c r => c.own = true ∧ OwnTarget r
  | .append c rl => c.own = true ∧ ∀ r ∈ rl, OwnTarget r
  | .insert .. | .replace .. | .firstIs .. | .removeLater .. => False

/-- The program's part over the host's part. -/
abbrev withOwn (h own : IptRuleset) : IptRuleset := overlay Chain.own h own

/-- The table is the program's part over the host's part. -/
def Overlays (h : IptRuleset) (rs own : IptRuleset) : Prop :=
  rs = withOwn h own ∧ Owned Chain.own own

/-- A command on the program's chains acts on its part. -/
theorem Cmd.run_overlays {h : IptRuleset} (hh : Foreign Chain.own h) (c : Cmd)
    (hc : c.Local h) (rs own : IptRuleset) (ho : Overlays h rs own) :
    (c.run rs).1 = (c.run own).1 ∧ Overlays h (c.run rs).2 (c.run own).2 := by
  obtain ⟨rfl, hown⟩ := ho
  cases c with
  | new c =>
    simp only [Cmd.run, newChain_overlay hh hc]
    refine ⟨trivial, rfl, ?_⟩
    simp only [newChain]
    split
    · exact hown
    · intro d hd
      rcases mem_append.mp hd with hd | hd
      · exact hown d hd
      · rw [mem_singleton.mp hd]
        exact hc
  | flush c =>
    simp only [Cmd.run, flush_overlay hh hc]
    refine ⟨trivial, rfl, ?_⟩
    simp only [Ruleset.flush]
    split <;> exact hown
  | delete c =>
    simp only [Cmd.run, deleteChain_overlay hh hown hc.1 hc.2]
    refine ⟨trivial, rfl, ?_⟩
    simp only [deleteChain]
    split
    · exact fun d hd => hown d (mem_filter.mp hd).1
    · exact hown
  | list c =>
    refine ⟨decide_eq_decide.mpr (mem_overlay_mine hh hc), rfl, hown⟩
  | check c r =>
    simp only [Cmd.run, check_overlay hh hc.1 hc.2]
    exact ⟨trivial, rfl, hown⟩
  | append c rl =>
    simp only [Cmd.run, appendAll_overlay hh hc.1 hc.2]
    refine ⟨trivial, rfl, ?_⟩
    simp only [appendAll]
    split <;> exact hown
  | remove c r =>
    simp only [Cmd.run, delete_overlay hh hc.1 hc.2]
    refine ⟨trivial, rfl, ?_⟩
    simp only [Ruleset.delete]
    split <;> exact hown
  | insert | replace | firstIs | removeLater => exact hc.elim

/-- Scripts on the program's chains act on its part. -/
theorem foldl_overlays {h rs own : IptRuleset} (hh : Foreign Chain.own h) (q : Platform)
    (f : Family) (l : List Script) (hl : ∀ s ∈ l, (s.body q f).All (Cmd.Local h))
    (ho : Overlays h rs own) :
    Overlays h (l.foldl (Script.apply q f) rs) (l.foldl (Script.apply q f) own) := by
  induction l generalizing rs own with
  | nil => exact ho
  | cons s l ih =>
    have hs := hl s mem_cons_self
    exact ih (fun s' h' => hl s' (mem_cons_of_mem _ h'))
      (Sh.exec_sim (Cmd.run_overlays hh) (s.body q f) hs ho).2

/-! ## Scripts on an arbitrary table -/

section Scripts

variable (q : Platform) (f : Family) {rs : IptRuleset} {c parent : Chain}

@[simp]
theorem targetExists_jumpTo : rs.targetExists (jumpTo c) = decide (c ∈ rs.chains) := rfl

theorem accepts_jumpTo (hp : parent ∈ rs.chains) (hc : c ∈ rs.chains) :
    rs.accepts parent (jumpTo c) = true := by
  simp only [accepts, targetExists_jumpTo, hp, hc, decide_true, Bool.and_self]

theorem check_jumpTo : (rs.check parent (jumpTo c)).1 = true ↔
    (parent ∈ rs.chains ∧ c ∈ rs.chains) ∧ jumpTo c ∈ rs.rules parent := by
  simp only [check, accepts, targetExists_jumpTo, Bool.and_eq_true,
    decide_eq_true_eq]

theorem check_jumpTo_eq_false
    (h : ¬((parent ∈ rs.chains ∧ c ∈ rs.chains) ∧ jumpTo c ∈ rs.rules parent)) :
    (rs.check parent (jumpTo c)).1 = false :=
  Bool.eq_false_iff.mpr fun hc => h (check_jumpTo.mp hc)

@[simp]
theorem check_snd (r : FilterRule) : (rs.check parent r).2 = rs := rfl

theorem apply_createChain (hc : c ∉ rs.chains) :
    (Script.createChain c).apply q f rs = (rs.newChain c).2 := by
  simp only [Script.apply, Script.body, Sh.exec, Cmd.run, newChain, if_neg hc, if_true]

theorem apply_deleteChain_of_not_mem (hc : c ∉ rs.chains) :
    (Script.deleteChain c).apply q f rs = rs := by
  simp only [Script.apply, Script.body, Sh.exec, Cmd.run, list, hc, decide_false,
    Bool.false_eq_true, if_false]

/-- A chain that no other rule jumps to is flushed and deleted. -/
theorem apply_deleteChain (hc : c ∈ rs.chains)
    (hj : ∀ d, d ≠ c → ∀ r ∈ rs.rules d, r.target ≠ .jump c) :
    ((Script.deleteChain c).apply q f rs).chains = rs.chains.filter (· ≠ c) ∧
      ∀ d, ((Script.deleteChain c).apply q f rs).rules d = if d = c then [] else rs.rules d := by
  have hflush : ∀ d, (rs.modify c fun _ => []).rules d = if d = c then [] else rs.rules d :=
    modify_rules rs hc _
  have href : (rs.modify c fun _ => []).referenced c = false := by
    refine referenced_eq_false fun d r hr => ?_
    rw [hflush] at hr
    split at hr
    · cases hr
    · next hd => exact hj d hd r hr
  have hdel : c ∈ (rs.modify c fun _ => []).chains ∧ (rs.modify c fun _ => []).rules c = [] ∧
      (rs.modify c fun _ => []).referenced c = false :=
    ⟨hc, by rw [hflush, if_pos rfl], href⟩
  simp only [Script.apply, Script.body, Sh.exec, Cmd.run, list, flush, hc,
    decide_true, if_true, deleteChain, if_pos hdel]
  refine ⟨rfl, fun d => ?_⟩
  split
  · rfl
  · next hd => rw [hflush, if_neg hd]

theorem apply_link (hp : parent ∈ rs.chains) (hc : c ∈ rs.chains)
    (hnew : jumpTo c ∉ rs.rules parent) :
    (Script.link c parent).apply q f rs = rs.modify parent (· ++ [jumpTo c]) := by
  have hchk : (rs.check parent (jumpTo c)).1 = false := check_jumpTo_eq_false fun h => hnew h.2
  simp only [Script.apply, Script.body, Sh.exec, Cmd.run, hchk, check_snd, Bool.false_eq_true,
    if_false, appendAll, all_cons, all_nil, accepts_jumpTo hp hc, Bool.and_self,
    if_true]

theorem apply_unlink_of_not_mem (hp : parent ∉ rs.chains) :
    (Script.unlink c parent).apply q f rs = rs := by
  have hchk : (rs.check parent (jumpTo c)).1 = false := check_jumpTo_eq_false fun h => hp h.1.1
  simp only [Script.apply, Script.body, Sh.exec, Cmd.run, hchk, check_snd, Bool.false_eq_true,
    if_false]

end Scripts

/-! ## The program's part -/

/-- Which anchors are enabled, and the rules of each. -/
structure AnchorState where
  enabled : Anchor → Bool
  rules : Anchor → List FilterRule

namespace AnchorState

def setEnabled (s : AnchorState) (a : Anchor) (on : Bool) : AnchorState :=
  { s with enabled := Function.update s.enabled a on }

def setRules (s : AnchorState) (a : Anchor) (rl : List FilterRule) : AnchorState :=
  { s with rules := Function.update s.rules a rl }

variable (s : AnchorState) (a b : Anchor) (on : Bool) (rl : List FilterRule)

@[simp]
theorem setEnabled_enabled : (s.setEnabled a on).enabled b = if b = a then on else s.enabled b :=
  Function.update_apply ..

@[simp]
theorem setEnabled_rules : (s.setEnabled a on).rules = s.rules := rfl

@[simp]
theorem setRules_rules : (s.setRules a rl).rules b = if b = a then rl else s.rules b :=
  Function.update_apply ..

@[simp]
theorem setRules_enabled : (s.setRules a rl).enabled = s.enabled := rfl

end AnchorState

/-- The chains of the program for the anchors `l` in state `s`; `root` says whether the root chain
exists. -/
def ownPart (root : Bool) (l : List Anchor) (s : AnchorState) : IptRuleset where
  chains := (if root then [.root] else []) ++ l.flatMap fun a => [.placeholder a, .actual a]
  rules
    | .root => if root then l.map fun a => jumpTo (.placeholder a) else []
    | .placeholder a => if a ∈ l ∧ s.enabled a then [jumpTo (.actual a)] else []
    | .actual a => if a ∈ l then s.rules a else []
    | _ => []
  rules_eq_nil c hc := by
    cases c with
    | root =>
      cases root with
      | false => rfl
      | true => simp at hc
    | placeholder a =>
      have ha : a ∉ l := fun ha => hc (by simp [ha])
      simp only [ha, false_and, if_false]
    | actual a =>
      have ha : a ∉ l := fun ha => hc (by simp [ha])
      simp only [ha, if_false]
    | output | postRouting | preRouting | other => rfl

section OwnPart

variable {root : Bool} {l : List Anchor} {s : AnchorState} {a : Anchor}

theorem ownPart_owned : Owned Chain.own (ownPart root l s) := by
  intro c hc
  rcases mem_append.mp hc with hc | hc
  · cases root with
    | false => cases hc
    | true =>
      rw [mem_singleton.mp hc]
      rfl
  · obtain ⟨b, _, hb⟩ := mem_flatMap.mp hc
    rcases mem_pair.mp hb with rfl | rfl <;> rfl

@[simp]
theorem root_mem_ownPart : Chain.root ∈ (ownPart root l s).chains ↔ root = true := by
  cases root <;> simp [ownPart]

@[simp]
theorem placeholder_mem_ownPart : Chain.placeholder a ∈ (ownPart root l s).chains ↔ a ∈ l := by
  cases root <;> simp [ownPart]

@[simp]
theorem actual_mem_ownPart : Chain.actual a ∈ (ownPart root l s).chains ↔ a ∈ l := by
  cases root <;> simp [ownPart]

/-- Only the state of the listed anchors counts. -/
theorem ownPart_congr {s' : AnchorState}
    (h : ∀ b ∈ l, s.enabled b = s'.enabled b ∧ s.rules b = s'.rules b) :
    ownPart root l s = ownPart root l s' := by
  refine ext' rfl fun c => ?_
  cases c with
  | placeholder b =>
    by_cases hb : b ∈ l
    · simp only [ownPart, (h b hb).1]
    · simp only [ownPart, hb, false_and, if_false]
  | actual b =>
    by_cases hb : b ∈ l
    · simp only [ownPart, (h b hb).2]
    · simp only [ownPart, hb, if_false]
  | root | output | postRouting | preRouting | other => rfl

theorem jumpTo_actual_mem_placeholder :
    jumpTo (.actual a) ∈ (ownPart root l s).rules (.placeholder a) ↔
      a ∈ l ∧ s.enabled a = true := by
  simp only [ownPart]
  split
  · next h => exact ⟨fun _ => h, fun _ => mem_singleton_self _⟩
  · next h => exact ⟨fun hm => absurd hm not_mem_nil, fun h' => absurd h' h⟩

/-- The `-C` of an anchor's jump succeeds exactly when the anchor is there and enabled. -/
theorem check_anchor :
    ((ownPart root l s).check (.placeholder a) (jumpTo (.actual a))).1 = true ↔
      a ∈ l ∧ s.enabled a = true := by
  rw [check_jumpTo, placeholder_mem_ownPart, actual_mem_ownPart, jumpTo_actual_mem_placeholder]
  exact ⟨fun h => h.2, fun h => ⟨⟨h.1, h.1⟩, h⟩⟩

/-- Rewriting the placeholder of a listed anchor. -/
theorem modify_placeholder (ha : a ∈ l) (on : Bool) (g : List FilterRule → List FilterRule)
    (hg : g ((ownPart root l s).rules (.placeholder a)) = if on then [jumpTo (.actual a)] else []) :
    (ownPart root l s).modify (.placeholder a) g = ownPart root l (s.setEnabled a on) := by
  refine ext' rfl fun c => ?_
  rw [modify_rules _ (placeholder_mem_ownPart.mpr ha)]
  split
  · next hc =>
    subst hc
    rw [hg]
    simp only [ownPart, AnchorState.setEnabled, Function.update_self, ha, true_and]
  · next hc =>
    cases c with
    | placeholder b =>
      have hb : b ≠ a := fun e => hc (congrArg Chain.placeholder e)
      simp only [ownPart, AnchorState.setEnabled, Function.update_of_ne hb]
    | root | actual | output | postRouting | preRouting | other => rfl

/-- Rewriting the rules of a listed anchor. -/
theorem modify_actual (ha : a ∈ l) (g : List FilterRule → List FilterRule) :
    (ownPart root l s).modify (.actual a) g = ownPart root l (s.setRules a (g (s.rules a))) := by
  refine ext' rfl fun c => ?_
  rw [modify_rules _ (actual_mem_ownPart.mpr ha)]
  split
  · next hc =>
    subst hc
    simp only [ownPart, AnchorState.setRules, Function.update_self, ha, if_true]
  · next hc =>
    cases c with
    | actual b =>
      have hb : b ≠ a := fun e => hc (congrArg Chain.actual e)
      simp only [ownPart, AnchorState.setRules, Function.update_of_ne hb]
    | root | placeholder | output | postRouting | preRouting | other => rfl

/-- The state of an anchor that is not listed does not count. -/
theorem ownPart_setEnabled_of_not_mem (ha : a ∉ l) (on : Bool) :
    ownPart root l (s.setEnabled a on) = ownPart root l s := by
  refine ownPart_congr fun b hb => ?_
  have hne : b ≠ a := fun e => ha (e ▸ hb)
  simp only [AnchorState.setEnabled, Function.update_of_ne hne, and_self]

theorem ownPart_setRules_of_not_mem (ha : a ∉ l) (rl : List FilterRule) :
    ownPart root l (s.setRules a rl) = ownPart root l s := by
  refine ownPart_congr fun b hb => ?_
  have hne : b ≠ a := fun e => ha (e ▸ hb)
  simp only [AnchorState.setRules, Function.update_of_ne hne, and_self]

theorem ownPart_setEnabled_self {on : Bool} (h : s.enabled a = on) :
    ownPart root l (s.setEnabled a on) = ownPart root l s := by
  refine ownPart_congr fun b _ => ?_
  rw [AnchorState.setEnabled, ← h, Function.update_eq_self]
  exact ⟨rfl, rfl⟩

variable (q : Platform) (f : Family)

theorem enableAnchor_ownPart :
    (Script.enableAnchor a).apply q f (ownPart root l s) =
      ownPart root l (s.setEnabled a true) := by
  by_cases hon : a ∈ l ∧ s.enabled a = true
  · rw [ownPart_setEnabled_self hon.2]
    simp only [Script.apply, Script.body, Sh.exec, Cmd.run, check_anchor.mpr hon, check_snd,
      if_true]
  · simp only [Script.apply, Script.body, Sh.exec, Cmd.run, check_anchor, hon, check_snd, if_false,
      appendAll, all_cons, all_nil, Bool.and_true]
    by_cases ha : a ∈ l
    · rw [if_pos (accepts_jumpTo (placeholder_mem_ownPart.mpr ha) (actual_mem_ownPart.mpr ha))]
      refine modify_placeholder ha true _ ?_
      simp only [ownPart, if_neg hon, nil_append, if_true]
    · rw [ownPart_setEnabled_of_not_mem ha, if_neg]
      simp only [accepts, placeholder_mem_ownPart, ha, decide_false, Bool.false_and,
        Bool.false_eq_true, not_false_eq_true]

theorem disableAnchor_ownPart :
    (Script.disableAnchor a).apply q f (ownPart root l s) =
      ownPart root l (s.setEnabled a false) := by
  by_cases hon : a ∈ l ∧ s.enabled a = true
  · simp only [Script.apply, Script.body, Sh.exec, Cmd.run, check_anchor.mpr hon, check_snd,
      if_true, flush, placeholder_mem_ownPart, hon.1]
    exact modify_placeholder hon.1 false _ rfl
  · simp only [Script.apply, Script.body, Sh.exec, Cmd.run, check_anchor, hon, check_snd, if_false]
    by_cases ha : a ∈ l
    · exact (ownPart_setEnabled_self (Bool.eq_false_iff.mpr fun h => hon ⟨ha, h⟩)).symm
    · exact (ownPart_setEnabled_of_not_mem ha false).symm

theorem flushAnchor_ownPart :
    (Script.flushAnchor a).apply q f (ownPart root l s) = ownPart root l (s.setRules a []) := by
  simp only [Script.apply, Script.body, Sh.exec, Cmd.run, flush, actual_mem_ownPart]
  split
  · next ha => exact modify_actual ha fun _ => []
  · next ha => exact (ownPart_setRules_of_not_mem ha []).symm

/-- Appending rules that jump nowhere to an anchor. -/
theorem appendAll_ownPart {rl : List FilterRule} (hr : ∀ r ∈ rl, ∀ d, r.target ≠ .jump d) :
    ((ownPart root l s).appendAll (.actual a) rl).2 =
      ownPart root l (s.setRules a (s.rules a ++ rl)) := by
  have htgt : ∀ r ∈ rl, (ownPart root l s).targetExists r = true := by
    intro r hm
    simp only [targetExists]
    split
    · next d hd => exact absurd hd (hr r hm d)
    · rfl
  by_cases ha : a ∈ l
  · have hall : rl.all ((ownPart root l s).accepts (.actual a)) = true := by
      refine all_eq_true.mpr fun r hm => ?_
      simp only [accepts, actual_mem_ownPart, ha, decide_true, htgt r hm, Bool.and_self]
    simp only [appendAll, hall, if_true]
    exact modify_actual ha (· ++ rl)
  · rw [ownPart_setRules_of_not_mem ha]
    cases rl with
    | nil =>
      -- nothing to append: rewriting a chain that is not there changes nothing
      refine ext' rfl fun c => ?_
      simp only [Ruleset.appendAll, all_nil, if_true, Ruleset.modify, actual_mem_ownPart, ha,
        and_false, if_false]
    | cons r rl =>
      simp only [appendAll, all_cons, accepts, actual_mem_ownPart, ha,
        decide_false, Bool.false_and, Bool.false_eq_true, if_false]

end OwnPart

/-! ## Rule texts that jump nowhere -/

/-- The text has no jump to a chain. -/
def RuleSpec.NoJump (spec : RuleSpec) : Prop := ∀ c, Opt.jumpChain c ∉ spec

theorem Opt.apply_target {o : Opt} (h : (o.apply r).target = .jump d) :
    o = .jumpChain d ∨ r.target = .jump d := by
  cases o with
  | jumpChain c => exact .inl (congrArg Opt.jumpChain (Target.jump.inj h))
  | jump v => cases h
  | jumpExt x => cases h
  | out | notOut | dst | proto | sport | dport | cgroup => exact .inr h

theorem foldl_apply_target (h : (spec.foldl Opt.apply r).target = .jump d) :
    Opt.jumpChain d ∈ spec ∨ r.target = .jump d := by
  induction spec generalizing r with
  | nil => exact .inr h
  | cons o spec ih =>
    rcases ih h with h | h
    · exact .inl (mem_cons_of_mem _ h)
    · rcases Opt.apply_target h with rfl | h
      · exact .inl mem_cons_self
      · exact .inr h

/-- A rule jumps only where its text says so. -/
theorem RuleSpec.mem_of_rules_jump {q : Platform} {f : Family} (hr : r ∈ spec.rules q f)
    (hd : r.target = .jump d) : Opt.jumpChain d ∈ spec := by
  have hbase : (spec.foldl Opt.apply bareRule).target = .jump d := by
    simp only [rules] at hr
    split at hr
    · rw [← mem_singleton.mp hr]
      exact hd
    · obtain ⟨n, _, rfl⟩ := mem_map.mp hr
      exact hd
  rcases foldl_apply_target hbase with h | h
  · exact h
  · cases h

theorem RuleSpec.rules_ne_jump (hs : spec.NoJump) (q : Platform) (f : Family) :
    ∀ r ∈ spec.rules q f, ∀ d, r.target ≠ .jump d :=
  fun _ hr d hd => hs d (mem_of_rules_jump hr hd)

/-- The rules a list of rule texts stands for. -/
def rulesOf (q : Platform) (f : Family) (specs : List RuleSpec) : List FilterRule :=
  specs.flatMap fun spec => rules q f spec

/-- Appending rule texts one by one appends all their rules. -/
theorem foldl_append_ownPart {root : Bool} {l : List Anchor} (q : Platform) (f : Family)
    (a : Anchor) (mk : RuleSpec → Script)
    (hmk : ∀ spec, (mk spec).body q f = .run (.append (.actual a) (rules q f spec)))
    (specs : List RuleSpec) (hs : ∀ spec ∈ specs, spec.NoJump) (s : AnchorState) :
    (specs.map mk).foldl (Script.apply q f) (ownPart root l s) =
      ownPart root l (s.setRules a (s.rules a ++ rulesOf q f specs)) := by
  induction specs generalizing s with
  | nil =>
    refine ownPart_congr fun b _ => ?_
    simp only [rulesOf, flatMap_nil, append_nil, AnchorState.setRules,
      Function.update_eq_self, and_self]
  | cons spec specs ih =>
    have hspec := rules_ne_jump (hs spec mem_cons_self) q f
    have hstep : (mk spec).apply q f (ownPart root l s) =
        ownPart root l (s.setRules a (s.rules a ++ rules q f spec)) := by
      rw [Script.apply, hmk]
      exact appendAll_ownPart hspec
    rw [map_cons, foldl_cons, hstep,
      ih fun spec' h => hs spec' (mem_cons_of_mem _ h)]
    simp only [AnchorState.setRules, Function.update_self, Function.update_idem, rulesOf,
      flatMap_cons, append_assoc]

/-! ## Installing and removing one anchor -/

/-- The scripts of `installAnchor` for one family. -/
def installScripts (a : Anchor) (specs : List RuleSpec) : List Script :=
  [.createChain (.placeholder a), .link (.placeholder a) .root, .createChain (.actual a)] ++
    specs.map (.appendRule (.actual a))

/-- The scripts of `uninstallAnchor` for one family. -/
def uninstallScripts (a : Anchor) : List Script :=
  [.unlink (.placeholder a) .root, .deleteChain (.placeholder a), .deleteChain (.actual a)]

section OneAnchor

variable {l : List Anchor} {s : AnchorState} {a : Anchor} (q : Platform) (f : Family)

/-- The three scripts that make the chains of a new anchor. -/
theorem newAnchor_ownPart (ha : a ∉ l) (hoff : s.enabled a = false) (hnil : s.rules a = []) :
    [Script.createChain (.placeholder a), .link (.placeholder a) .root,
      .createChain (.actual a)].foldl (Script.apply q f) (ownPart true l s) =
      ownPart true (l ++ [a]) s := by
  have hph : Chain.placeholder a ∉ (ownPart true l s).chains := by
    rw [placeholder_mem_ownPart]
    exact ha
  set rs := ((ownPart true l s).newChain (.placeholder a)).2 with hrs
  -- the root chain has no jump to the new placeholder yet
  have hnew : jumpTo (.placeholder a) ∉ rs.rules .root := by
    rw [hrs, newChain_rules]
    intro hm
    obtain ⟨b, hb, heq⟩ := mem_map.mp hm
    have hba : b = a := Chain.placeholder.inj (Target.jump.inj (congrArg Rule.target heq))
    exact ha (hba ▸ hb)
  have hchains := newChain_chains hph
  have hroot : Chain.root ∈ rs.chains := by
    rw [hchains]
    exact mem_append_left _ (root_mem_ownPart.mpr rfl)
  have hmem : Chain.placeholder a ∈ rs.chains := by
    rw [hchains]
    exact mem_append_right _ (mem_singleton_self _)
  have hact : Chain.actual a ∉ (rs.modify .root (· ++ [jumpTo (.placeholder a)])).chains := by
    rw [modify_chains, hchains, mem_append, actual_mem_ownPart, mem_singleton]
    rintro (hm | hm)
    · exact ha hm
    · cases hm
  rw [foldl_cons, apply_createChain q f hph, foldl_cons, apply_link q f hroot hmem hnew,
    foldl_cons, apply_createChain q f hact, foldl_nil]
  refine ext' ?_ fun c => ?_
  · rw [newChain_chains hact, modify_chains, hchains]
    simp [ownPart]
  · rw [newChain_rules, modify_rules _ hroot, hrs, newChain_rules]
    cases c with
    | root => simp [ownPart]
    | placeholder b =>
      by_cases hb : b = a
      · simp [ownPart, hb, hoff]
      · simp [ownPart, hb]
    | actual b =>
      by_cases hb : b = a
      · simp [ownPart, hb, hnil]
      · simp [ownPart, hb]
    | output | postRouting | preRouting | other => simp [ownPart]

/-- `installAnchor` puts a disabled anchor with its rules at the end. -/
theorem installScripts_ownPart {specs : List RuleSpec} (hs : ∀ spec ∈ specs, spec.NoJump)
    (ha : a ∉ l) (hoff : s.enabled a = false) (hrules : s.rules a = rulesOf q f specs) :
    (installScripts a specs).foldl (Script.apply q f) (ownPart true l s) =
      ownPart true (l ++ [a]) s := by
  have hstart : ownPart true l s = ownPart true l (s.setRules a []) :=
    (ownPart_setRules_of_not_mem ha []).symm
  have hnil : (s.setRules a []).rules a = [] := Function.update_self ..
  have hoff' : (s.setRules a []).enabled a = false := hoff
  rw [installScripts, foldl_append, hstart, newAnchor_ownPart q f ha hoff' hnil,
    foldl_append_ownPart q f a _ (fun _ => rfl) specs hs]
  refine ownPart_congr fun b _ => ⟨rfl, ?_⟩
  by_cases hb : b = a
  · subst hb
    simp only [AnchorState.setRules, Function.update_self, nil_append, hrules]
  · simp only [AnchorState.setRules, Function.update_of_ne hb]

/-- No rule of a listed anchor jumps to a chain of the program. -/
def AnchorState.Clean (s : AnchorState) (l : List Anchor) : Prop :=
  ∀ b ∈ l, ∀ r ∈ s.rules b, ∀ d, r.target = .jump d → d.own = false

/-- In a clean part, only a placeholder jumps to the chain of its own anchor. -/
theorem ownPart_jump (hc : s.Clean l) {root : Bool} {c d : Chain} (hd : d.own = true)
    {r : FilterRule} (hr : r ∈ (ownPart root l s).rules c) (hj : r.target = .jump d) :
    (c = .root ∧ root = true) ∨ ∃ b, c = .placeholder b ∧ d = .actual b := by
  cases c with
  | root =>
    cases root with
    | false => cases hr
    | true => exact .inl ⟨rfl, rfl⟩
  | placeholder b =>
    simp only [ownPart] at hr
    split at hr
    · rw [mem_singleton.mp hr] at hj
      exact .inr ⟨b, rfl, (Target.jump.inj hj).symm⟩
    · cases hr
  | actual b =>
    simp only [ownPart] at hr
    split at hr
    · next hb =>
      rw [hc b hb r hr d hj] at hd
      cases hd
    · cases hr
  | output | postRouting | preRouting | other => cases hr

private theorem flatMap_filter_ne (l : List Anchor) (a : Anchor) :
    ((l.flatMap fun b => [Chain.placeholder b, .actual b]).filter (· ≠ .placeholder a)).filter
      (· ≠ .actual a) =
    (l.filter (· ≠ a)).flatMap fun b => [Chain.placeholder b, .actual b] := by
  induction l with
  | nil => rfl
  | cons b l ih =>
    rw [flatMap_cons, filter_append, filter_append, ih]
    by_cases hb : b = a
    · subst hb
      simp
    · simp [hb]

/-- `uninstallAnchor` removes the anchor, once the root chain is gone. -/
theorem uninstallScripts_ownPart (hc : s.Clean l) :
    (uninstallScripts a).foldl (Script.apply q f) (ownPart false l s) =
      ownPart false (l.filter (· ≠ a)) s := by
  have hroot : Chain.root ∉ (ownPart false l s).chains := by
    rw [root_mem_ownPart]
    exact Bool.false_ne_true
  rw [uninstallScripts, foldl_cons, apply_unlink_of_not_mem q f hroot]
  by_cases ha : a ∈ l
  · have hin : Chain.placeholder a ∈ (ownPart false l s).chains := placeholder_mem_ownPart.mpr ha
    have hph := apply_deleteChain q f hin fun d _ r hr hj => by
      rcases ownPart_jump hc rfl hr hj with ⟨_, h⟩ | ⟨b, _, h⟩
      · cases h
      · cases h
    rw [foldl_cons]
    generalize (Script.deleteChain (.placeholder a)).apply q f (ownPart false l s) = rs at hph
    obtain ⟨hchains, hrules⟩ := hph
    have hmem : Chain.actual a ∈ rs.chains := by
      rw [hchains, mem_filter]
      exact ⟨actual_mem_ownPart.mpr ha, rfl⟩
    -- the placeholder that could jump to the chain of the anchor is gone
    have hact := apply_deleteChain q f hmem fun d _ r hr hj => by
      rw [hrules] at hr
      split at hr
      · cases hr
      · next hd =>
        rcases ownPart_jump hc rfl hr hj with ⟨_, h⟩ | ⟨b, h, hb⟩
        · cases h
        · exact hd (by rw [h, Chain.actual.inj hb])
    rw [foldl_cons, foldl_nil]
    refine ext' ?_ fun c => ?_
    · rw [hact.1, hchains]
      exact flatMap_filter_ne l a
    · rw [hact.2, hrules]
      cases c with
      | placeholder b => by_cases hb : b = a <;> simp [ownPart, hb]
      | actual b => by_cases hb : b = a <;> simp [ownPart, hb]
      | root | output | postRouting | preRouting | other => simp [ownPart]
  · have hph : Chain.placeholder a ∉ (ownPart false l s).chains := by
      rw [placeholder_mem_ownPart]
      exact ha
    have hact : Chain.actual a ∉ (ownPart false l s).chains := by
      rw [actual_mem_ownPart]
      exact ha
    have hfilter : l.filter (· ≠ a) = l :=
      filter_eq_self.mpr fun b hb => decide_eq_true fun e => ha (e ▸ hb)
    rw [foldl_cons, apply_deleteChain_of_not_mem q f hph, foldl_cons,
      apply_deleteChain_of_not_mem q f hact, foldl_nil, hfilter]

end OneAnchor

end Dopamine.Linux
