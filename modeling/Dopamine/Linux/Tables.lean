import Dopamine.Linux.Anchors

/-!
# Whole tables

A method of `LinuxFirewall` is a list of actions on eight tables. `run_kernel` reads off the scripts
that reach one of them, so that each table is reasoned about alone. For one table, `install` and
`uninstall` are folds of the scripts of its anchors (`scriptsFor_install`, `scriptsFor_uninstall`),
and the fold lemmas of `Anchors` give the state they leave.
-/

namespace Dopamine.Linux

open Netfilter Shell LinuxFirewall Ruleset List

/-! ## The scripts that reach a table -/

/-- The scripts of a list of actions that are run on the table `t` of family `f`. -/
def scriptsFor (f : Family) (t : Table) (acts : List Action) : List Script :=
  acts.filterMap fun
    | .exec f' t' s => if f' = f ∧ t' = t then some s else none
    | _ => none

theorem scriptsFor_append (f : Family) (t : Table) (acts acts' : List Action) :
    scriptsFor f t (acts ++ acts') = scriptsFor f t acts ++ scriptsFor f t acts' :=
  filterMap_append

theorem Action.apply_kernel (q : Platform) (st : FwState) (a : Action) (f : Family) (t : Table) :
    (a.apply q st).kernel f t = (scriptsFor f t [a]).foldl (Script.apply q f) (st.kernel f t) := by
  cases a with
  | exec f' t' s =>
    by_cases h : f = f' ∧ t = t'
    · obtain ⟨rfl, rfl⟩ := h
      simp only [Action.apply, scriptsFor, filterMap_cons, filterMap_nil, and_self,
        if_true, foldl_cons, foldl_nil]
    · have h' : ¬(f' = f ∧ t' = t) := fun e => h ⟨e.1.symm, e.2.symm⟩
      simp only [Action.apply, scriptsFor, filterMap_cons, filterMap_nil, if_neg h,
        if_neg h', foldl_nil]
  | register key cb =>
    simp only [Action.apply]
    split <;> rfl
  | shell | invoke => rfl

/-- Each table sees the scripts that reach it, in order, and nothing else. -/
theorem run_kernel (q : Platform) (acts : List Action) (st : FwState) (f : Family) (t : Table) :
    (run q acts st).kernel f t =
      (scriptsFor f t acts).foldl (Script.apply q f) (st.kernel f t) := by
  induction acts generalizing st with
  | nil => rfl
  | cons a acts ih =>
    have hsplit : scriptsFor f t (a :: acts) = scriptsFor f t [a] ++ scriptsFor f t acts :=
      scriptsFor_append f t [a] acts
    rw [hsplit, foldl_append, ← Action.apply_kernel]
    exact ih (a.apply q st)

/-! ### What the methods send to a table -/

section Methods

variable (f : Family) (t : Table)

/-- The call is for this family and this table. -/
def Reaches (ip : IPVersion) (t' : Table) : Bool := decide (f ∈ ip.families ∧ t' = t)

variable (ip : IPVersion)

/-- A call made for each family of `ip` reaches the table once, if at all. -/
theorem scriptsFor_families (t' : Table) (g : Family → List Action) (l : List Script)
    (hg : ∀ f', scriptsFor f t (g f') = if f' = f ∧ t' = t then l else []) :
    scriptsFor f t (ip.families.flatMap g) = if Reaches f t ip t' then l else [] := by
  by_cases ht : t' = t
  · cases ip <;> cases f <;>
      simp [IPVersion.families, flatMap_cons, scriptsFor_append, hg, Reaches, ht]
  · cases ip <;> simp [IPVersion.families, flatMap_cons, scriptsFor_append, hg, Reaches, ht]

theorem scriptsFor_execEach (t' : Table) (s : Script) :
    scriptsFor f t (execEach ip t' s) = if Reaches f t ip t' then [s] else [] := by
  have hmap : execEach ip t' s = ip.families.flatMap fun f' => [.exec f' t' s] :=
    map_eq_flatMap
  rw [hmap]
  refine scriptsFor_families f t ip t' _ _ fun f' => ?_
  by_cases h : f' = f ∧ t' = t
  · simp only [scriptsFor, filterMap_cons, filterMap_nil, if_pos h]
  · simp only [scriptsFor, filterMap_cons, filterMap_nil, if_neg h]

/-- Scripts without `iptables` reach no table. -/
theorem scriptsFor_shell (l : List String) : scriptsFor f t (l.map .shell) = [] := by
  induction l with
  | nil => rfl
  | cons x l ih => exact ih

variable {α : Type*}

private theorem scriptsFor_map_exec_of_ne {f' : Family} {t' : Table} (h : ¬(f' = f ∧ t' = t))
    (g : α → Script) (l : List α) : scriptsFor f t (l.map fun x => .exec f' t' (g x)) = [] := by
  induction l with
  | nil => rfl
  | cons x l ih =>
    simp only [scriptsFor, map_cons, filterMap_cons, if_neg h]
    exact ih

private theorem scriptsFor_map_exec (g : α → Script) (l : List α) :
    scriptsFor f t (l.map fun x => .exec f t (g x)) = l.map g := by
  induction l with
  | nil => rfl
  | cons x l ih =>
    simp only [scriptsFor, map_cons, filterMap_cons, and_self, if_true]
    exact congrArg (g x :: ·) ih

private theorem scriptsFor_register (key : String) (cb : Option Callback) :
    scriptsFor f t (cb.toList.map fun x => .register key x) = [] := by
  cases cb <;> rfl

/-- One family of `installAnchor`. -/
private theorem scriptsFor_installAnchor_one (f' : Family) (a : Anchor) (rules : List RuleSpec)
    (t' : Table) (ef df : Option Callback) :
    scriptsFor f t ([.exec f' t' (.createChain (.placeholder a)),
      .exec f' t' (.link (.placeholder a) .root)] ++
      (ef.toList.map fun cb => .register (enabledKey t' a) cb) ++
      (df.toList.map fun cb => .register (disabledKey t' a) cb) ++
      [.exec f' t' (.createChain (.actual a))] ++
      rules.map fun rule => .exec f' t' (.appendRule (.actual a) rule)) =
      if f' = f ∧ t' = t then installScripts a rules else [] := by
  rw [scriptsFor_append, scriptsFor_append, scriptsFor_append, scriptsFor_append,
    scriptsFor_register, scriptsFor_register]
  by_cases h : f' = f ∧ t' = t
  · obtain ⟨rfl, rfl⟩ := h
    rw [scriptsFor_map_exec]
    simp [scriptsFor, installScripts]
  · rw [scriptsFor_map_exec_of_ne f t h]
    simp [scriptsFor, h]

theorem scriptsFor_installAnchor (a : Anchor) (rules : List RuleSpec) (t' : Table)
    (ef df : Option Callback) :
    scriptsFor f t (installAnchor ip a rules t' ef df) =
      if Reaches f t ip t' then installScripts a rules else [] :=
  scriptsFor_families f t ip t' _ _ fun f' => scriptsFor_installAnchor_one f t f' a rules t' ef df

end Methods

/-- The anchors of a table, in the order `install` links them. -/
def anchorsOf : Family → Table → List Anchor
  | .IPv4, .filter =>
      [.allowLoopback, .allowDNS, .blockDNS, .allowLAN, .allowDHCP, .allowVPN, .blockNets,
        .allowNets, .blockAll]
  | .IPv6, .filter =>
      [.allowLoopback, .blockDNS, .allowLAN, .allowDHCP, .blockIPv6, .allowVPN, .allowNets,
        .blockAll]
  | _, .nat => [.transIp]
  | _, .mangle => [.tagPkts]
  | _, .raw => [.vpnTunOnly]

variable (f : Family) (t : Table)

/-- The anchors `uninstall` removes from a table: also `400.allowPIA`, which is never installed. -/
def removedFrom : List Anchor :=
  match t with
  | .filter => (anchorsOf f t).head?.toList ++ .allowPIA :: (anchorsOf f t).tail
  | _ => anchorsOf f t

theorem anchorsOf_nodup : (anchorsOf f t).Nodup := by
  cases f <;> cases t <;> decide

theorem anchorsOf_subset_removedFrom : ∀ a ∈ anchorsOf f t, a ∈ removedFrom f t := by
  cases f <;> cases t <;> decide

theorem scriptsFor_uninstall :
    scriptsFor f t uninstall =
      [.unlink .root t.parent, .deleteChain .root] ++
        (removedFrom f t).flatMap uninstallScripts := by
  cases f <;> cases t <;> rfl

theorem scriptsFor_install :
    scriptsFor f t install =
      scriptsFor f t uninstall ++ [.createChain .root] ++
        ((anchorsOf f t).flatMap fun a => installScripts a (stdRules f a)) ++
        [.linkFirst .root t.parent] := by
  unfold install
  simp only [scriptsFor_append, append_assoc]
  refine congrArg (scriptsFor f t uninstall ++ ·) ?_
  simp only [createChain, linkChain, setupTrafficSplitting, scriptsFor_execEach,
    scriptsFor_installAnchor, scriptsFor_shell]
  cases f <;> cases t <;> rfl

/-! ## The states of a table -/

variable {t : Table}

/-- The table while the program is installed. -/
def installed (h : Host t) (l : List Anchor) (s : AnchorState) : IptRuleset :=
  withOwn h.linked (ownPart true l s)

/-- The host without the first bare rule of its parent chain: `linkFirst` deletes that rule when it
looks for an old link and finds none. -/
def Host.dropBare (h : Host t) : Host t where
  rs := h.rs.modify t.parent (·.erase bareRule)
  parent_mem := h.parent_mem
  foreign := h.foreign
  target_mem c r hr d hd := by
    rw [modify_rules _ h.parent_mem] at hr
    split at hr
    · exact h.target_mem c r (mem_of_mem_erase hr) d hd
    · exact h.target_mem c r hr d hd

theorem Host.dropBare_rules (h : Host t) (d : Chain) : h.dropBare.rs.rules d =
    if d = t.parent then (h.rs.rules d).erase bareRule else h.rs.rules d :=
  modify_rules _ h.parent_mem (·.erase bareRule) d

/-- A host whose rules all have a target keeps them all. -/
theorem Host.dropBare_rs {h : Host t} (hb : bareRule ∉ h.rs.rules t.parent) :
    h.dropBare.rs = h.rs := by
  refine ext' rfl fun c => ?_
  rw [h.dropBare_rules]
  split
  · next hc =>
    subst hc
    exact erase_of_not_mem hb
  · rfl

theorem overlay_ownPart_nil (h : Host t) (s : AnchorState) :
    withOwn h.rs (ownPart false [] s) = h.rs := by
  refine ext' (append_nil _) fun c => ?_
  by_cases hc : c.own = true
  · have hnot : c ∉ h.rs.chains := fun hm => by
      rw [h.foreign c hm] at hc
      cases hc
    rw [overlay_rules_mine hc, h.rs.rules_eq_nil c hnot]
    exact (ownPart false [] s).rules_eq_nil c not_mem_nil
  · exact overlay_rules_foreign (Bool.eq_false_iff.mpr hc)

theorem overlays_ownPart (h : IptRuleset) (root : Bool) (l : List Anchor) (s : AnchorState) :
    Overlays h (withOwn h (ownPart root l s)) (ownPart root l s) :=
  ⟨rfl, ownPart_owned⟩

section Root

variable (q : Platform) (f : Family) (h : Host t) {own : IptRuleset}

theorem parent_mem_overlay : t.parent ∈ (withOwn h.rs own).chains := mem_append_left _ h.parent_mem

theorem linked_rules_parent : (withOwn h.linked own).rules t.parent =
    jumpTo .root :: h.rs.rules t.parent := by
  rw [overlay_rules_foreign t.parent_own, h.linked_rules, if_pos rfl]

theorem installed_rules_parent {l : List Anchor} {s : AnchorState} :
    (installed h l s).rules t.parent = jumpTo .root :: h.rs.rules t.parent :=
  linked_rules_parent h

/-- While the root chain is linked, the link is found at the top and nothing changes. -/
theorem linkFirst_linked :
    (Script.linkFirst .root t.parent).apply q f (withOwn h.linked own) =
      withOwn h.linked own := by
  have htop : ((withOwn h.linked own).rules t.parent).head?.any
      (fun r => decide (r.target = .jump .root)) = true := by
    rw [linked_rules_parent]
    rfl
  simp only [Script.apply, Script.body, Sh.exec, Cmd.run, htop, if_true]

theorem modify_erase_bare_linked (ho : Owned Chain.own own) :
    (withOwn h.linked own).modify t.parent (·.erase bareRule) =
      withOwn h.dropBare.linked own := by
  have hm : t.parent ∈ h.linked.chains := h.parent_mem
  rw [modify_overlay_foreign ho t.parent_own]
  refine congrArg (withOwn · _) (ext' rfl fun c => ?_)
  rw [modify_rules _ hm, h.linked_rules, h.dropBare.linked_rules, h.dropBare_rules]
  by_cases hc : c = t.parent
  · simp only [if_pos hc]
    exact erase_cons_tail (by simp [jumpTo, bareRule])
  · simp only [if_neg hc]

/-- `iptables -D parent` without a rule. -/
theorem delete_bare_linked (ho : Owned Chain.own own) :
    ((withOwn h.linked own).delete t.parent bareRule).2 =
      withOwn h.dropBare.linked own := by
  have hm : t.parent ∈ (withOwn h.linked own).chains :=
    mem_append_left _ h.parent_mem
  have hacc : (withOwn h.linked own).accepts t.parent bareRule = true := by
    simp only [accepts, hm, decide_true, Bool.true_and]
    rfl
  simp only [delete, hacc, true_and]
  split
  · exact modify_erase_bare_linked h ho
  · next hb =>
    rw [← modify_erase_bare_linked h ho]
    refine ext' rfl fun c => ?_
    rw [modify_rules _ hm]
    split
    · next hc =>
      subst hc
      exact (erase_of_not_mem hb).symm
    · rfl

/-- The host has no link of its own that the search could find. -/
theorem dropLaterJump_linked (ho : Owned Chain.own own) :
    (dropLaterJump t.parent .root (withOwn h.linked own)).2 =
      withOwn h.dropBare.linked own := by
  have hfind : ((withOwn h.linked own).rules t.parent).tail.findIdx?
      (fun r => decide (r.target = .jump .root)) = none := by
    rw [linked_rules_parent, tail_cons, findIdx?_eq_none_iff]
    exact fun r hr => decide_eq_false (h.ne_jump rfl t.parent r hr)
  rw [dropLaterJump, hfind]
  exact delete_bare_linked h ho

theorem not_linked_top : ((withOwn h.rs own).rules t.parent).head?.any
    (fun r => decide (r.target = .jump .root)) = false := by
  rw [overlay_rules_foreign t.parent_own]
  cases hl : h.rs.rules t.parent with
  | nil => rfl
  | cons r rest =>
    exact decide_eq_false (h.ne_jump rfl t.parent r (hl ▸ mem_cons_self))

/-- Before that, the link is put at the top, and the search for an old one deletes a bare rule. -/
theorem linkFirst_overlay (ho : Owned Chain.own own) (hroot : .root ∈ own.chains) :
    (Script.linkFirst .root t.parent).apply q f (withOwn h.rs own) =
      withOwn h.dropBare.linked own := by
  have hacc : (withOwn h.rs own).accepts t.parent (jumpTo .root) = true :=
    accepts_jumpTo (parent_mem_overlay h) (mem_append_right _ hroot)
  have hlink : (withOwn h.rs own).modify t.parent (jumpTo .root :: ·) =
      withOwn h.linked own :=
    modify_overlay_foreign ho t.parent_own _
  simp only [Script.apply, Script.body, Sh.exec, Cmd.run, not_linked_top, Bool.false_eq_true,
    if_false, Ruleset.insert, hacc, if_true, hlink]
  exact dropLaterJump_linked h ho

/-- Without a root chain there is nothing to link. -/
theorem linkFirst_of_not_mem (hroot : .root ∉ own.chains) :
    (Script.linkFirst .root t.parent).apply q f (withOwn h.rs own) =
      withOwn h.rs own := by
  have hm : Chain.root ∉ (withOwn h.rs own).chains := by
    rw [mem_overlay_mine h.foreign rfl]
    exact hroot
  have hacc : (withOwn h.rs own).accepts t.parent (jumpTo .root) = false := by
    simp only [accepts, targetExists_jumpTo, hm, decide_false, Bool.and_false]
  simp only [Script.apply, Script.body, Sh.exec, Cmd.run, not_linked_top, Bool.false_eq_true,
    if_false, Ruleset.insert, hacc]

/-- Unlinking the root chain. -/
theorem unlink_linked (ho : Owned Chain.own own) (hroot : .root ∈ own.chains) :
    (Script.unlink .root t.parent).apply q f (withOwn h.linked own) =
      withOwn h.rs own := by
  have hp : t.parent ∈ (withOwn h.linked own).chains :=
    mem_append_left _ h.parent_mem
  have hr : Chain.root ∈ (withOwn h.linked own).chains :=
    mem_append_right _ hroot
  have hmem : jumpTo .root ∈ (withOwn h.linked own).rules t.parent := by
    rw [linked_rules_parent]
    exact mem_cons_self
  have hchk : ((withOwn h.linked own).check t.parent (jumpTo .root)).1 = true :=
    check_jumpTo.mpr ⟨⟨hp, hr⟩, hmem⟩
  have hm : t.parent ∈ h.linked.chains := h.parent_mem
  simp only [Script.apply, Script.body, Sh.exec, Cmd.run, hchk, check_snd, if_true, delete,
    accepts_jumpTo hp hr, hmem, and_self]
  rw [modify_overlay_foreign ho t.parent_own]
  refine congrArg (withOwn · _) (ext' rfl fun c => ?_)
  rw [modify_rules _ hm, h.linked_rules]
  by_cases hc : c = t.parent
  · simp only [if_pos hc, erase_cons_head]
  · simp only [if_neg hc]

/-- A host has no link to remove. -/
theorem unlink_overlay :
    (Script.unlink .root t.parent).apply q f (withOwn h.rs own) =
      withOwn h.rs own := by
  have hchk : ((withOwn h.rs own).check t.parent (jumpTo .root)).1 = false := by
    refine check_jumpTo_eq_false fun hx => ?_
    have hm := hx.2
    rw [overlay_rules_foreign t.parent_own] at hm
    exact h.ne_jump rfl t.parent _ hm rfl
  simp only [Script.apply, Script.body, Sh.exec, Cmd.run, hchk, check_snd, Bool.false_eq_true,
    if_false]

end Root

/-! ## `install` and `uninstall` on one table -/

/-- The state of the anchors right after `install`: all disabled, with the rules of the source. -/
def fresh (q : Platform) (f : Family) : AnchorState where
  enabled _ := false
  rules a := rulesOf q f (stdRules f a)

theorem stdRules_noJump (f : Family) (a : Anchor) : ∀ spec ∈ stdRules f a, spec.NoJump := by
  cases f <;> cases a <;> simp [stdRules, lanNets, RuleSpec.NoJump]

theorem AnchorState.Clean.filter {s : AnchorState} {l : List Anchor} (hc : s.Clean l)
    (P : Anchor → Bool) : s.Clean (l.filter P) :=
  fun b hb => hc b (mem_filter.mp hb).1

theorem fresh_clean (q : Platform) (f : Family) (l : List Anchor) : (fresh q f).Clean l := by
  intro b _ r hr d hd
  obtain ⟨spec, hspec, hr⟩ := mem_flatMap.mp hr
  exact absurd hd (RuleSpec.rules_ne_jump (stdRules_noJump f b spec hspec) q f r hr d)

section Whole

variable (q : Platform) (f : Family) {l : List Anchor} {s : AnchorState}

/-- Removing anchors one after the other. -/
theorem foldl_uninstallScripts (hc : s.Clean l) (m : List Anchor) :
    (m.flatMap uninstallScripts).foldl (Script.apply q f) (ownPart false l s) =
      ownPart false (l.filter (· ∉ m)) s := by
  induction m generalizing l with
  | nil =>
    have hall : l.filter (· ∉ ([] : List Anchor)) = l :=
      filter_eq_self.mpr fun b _ => decide_eq_true not_mem_nil
    rw [hall]
    rfl
  | cons a m ih =>
    rw [flatMap_cons, foldl_append, uninstallScripts_ownPart q f hc, ih (hc.filter _),
      filter_filter]
    congr 1
    refine filter_congr fun b _ => ?_
    simp only [mem_cons, not_or, ne_eq, Bool.decide_and, Bool.and_comm]

/-- Installing anchors one after the other. -/
theorem foldl_installScripts (l m : List Anchor) (hn : (l ++ m).Nodup) :
    (m.flatMap fun a => installScripts a (stdRules f a)).foldl (Script.apply q f)
      (ownPart true l (fresh q f)) = ownPart true (l ++ m) (fresh q f) := by
  induction m generalizing l with
  | nil =>
    rw [append_nil]
    rfl
  | cons a m ih =>
    have hn' : (l ++ [a] ++ m).Nodup := by
      rw [append_assoc]
      exact hn
    have ha : a ∉ l := fun hm =>
      (nodup_append.mp hn).2.2 a hm a mem_cons_self rfl
    rw [flatMap_cons, foldl_append,
      installScripts_ownPart q f (stdRules_noJump f a) ha rfl rfl, ih (l ++ [a]) hn',
      append_assoc]
    rfl

variable (h : Host t)

theorem local_uninstallScripts (a : Anchor) :
    ∀ sc ∈ uninstallScripts a, (sc.body q f).All (Cmd.Local h.rs) := by
  have hph := fun d => h.ne_jump (c := .placeholder a) rfl d
  have hact := fun d => h.ne_jump (c := .actual a) rfl d
  intro sc hsc
  simp only [uninstallScripts, mem_cons, not_mem_nil, or_false] at hsc
  rcases hsc with rfl | rfl | rfl
  · exact ⟨⟨rfl, ownTarget_jumpTo rfl⟩, ⟨rfl, ownTarget_jumpTo rfl⟩, trivial⟩
  · exact ⟨rfl, ⟨rfl, rfl, hph⟩, trivial⟩
  · exact ⟨rfl, ⟨rfl, rfl, hact⟩, trivial⟩

theorem local_installScripts (h : IptRuleset) (a : Anchor) {specs : List RuleSpec}
    (hs : ∀ spec ∈ specs, spec.NoJump) :
    ∀ sc ∈ installScripts a specs, (sc.body q f).All (Cmd.Local h) := by
  intro sc hsc
  rcases mem_append.mp hsc with hsc | hsc
  · simp only [mem_cons, not_mem_nil, or_false] at hsc
    rcases hsc with rfl | rfl | rfl
    · exact ⟨rfl, rfl⟩
    · refine ⟨⟨rfl, ownTarget_jumpTo rfl⟩, ⟨rfl, fun r hr => ?_⟩, trivial⟩
      rw [mem_singleton.mp hr]
      exact ownTarget_jumpTo rfl
    · exact ⟨rfl, rfl⟩
  · obtain ⟨spec, hspec, rfl⟩ := mem_map.mp hsc
    exact ⟨rfl, fun r hr d hd =>
      absurd hd (RuleSpec.rules_ne_jump (hs spec hspec) q f r hr d)⟩

/-- The root chain goes first; in a clean part nothing else jumps to it. -/
theorem deleteRoot_ownPart (hc : s.Clean l) :
    (Script.deleteChain .root).apply q f (ownPart true l s) = ownPart false l s := by
  have hin : Chain.root ∈ (ownPart true l s).chains := root_mem_ownPart.mpr rfl
  obtain ⟨hchains, hrules⟩ := apply_deleteChain q f hin fun d hd r hr hj => by
    rcases ownPart_jump hc rfl hr hj with ⟨h, _⟩ | ⟨b, _, h⟩
    · exact hd h
    · cases h
  refine ext' ?_ fun c => ?_
  · rw [hchains]
    simp [ownPart, filter_flatMap]
  · rw [hrules]
    cases c <;> simp [ownPart]

theorem local_removed (m : List Anchor) :
    ∀ sc ∈ m.flatMap uninstallScripts, (sc.body q f).All (Cmd.Local h.rs) := by
  intro sc hsc
  obtain ⟨a, _, ha⟩ := mem_flatMap.mp hsc
  exact local_uninstallScripts q f h a sc ha

/-- Removing every anchor of an unlinked part gives the host's table back. -/
theorem foldl_removed (hc : s.Clean l) {m : List Anchor} (hl : ∀ a ∈ l, a ∈ m) :
    (m.flatMap uninstallScripts).foldl (Script.apply q f)
      (withOwn h.rs (ownPart false l s)) = h.rs := by
  have hnone : l.filter (· ∉ m) = [] :=
    filter_eq_nil_iff.mpr fun b hb => by simpa using hl b hb
  have hsim := (foldl_overlays h.foreign q f _ (local_removed q f h m)
    (overlays_ownPart h.rs false l s)).1
  rw [hsim, foldl_uninstallScripts q f hc, hnone]
  exact overlay_ownPart_nil h s

/-- `uninstall` gives the host's table back when no rule of an anchor jumps to a chain of the
program. -/
theorem uninstall_installed (hc : s.Clean (anchorsOf f t)) :
    (scriptsFor f t uninstall).foldl (Script.apply q f) (installed h (anchorsOf f t) s) =
      h.rs := by
  have hlocal : ∀ sc ∈ [Script.deleteChain .root], (sc.body q f).All (Cmd.Local h.rs) := by
    intro sc hsc
    rw [mem_singleton.mp hsc]
    exact ⟨rfl, ⟨rfl, rfl, fun d => h.ne_jump rfl d⟩, trivial⟩
  have hroot : (Script.deleteChain .root).apply q f
      (withOwn h.rs (ownPart true (anchorsOf f t) s)) =
      withOwn h.rs (ownPart false (anchorsOf f t) s) := by
    have hsim := (foldl_overlays h.foreign q f _ hlocal
      (overlays_ownPart h.rs true (anchorsOf f t) s)).1
    rw [foldl_cons, foldl_nil, foldl_cons, foldl_nil,
      deleteRoot_ownPart q f hc] at hsim
    exact hsim
  rw [scriptsFor_uninstall, foldl_append, foldl_cons, foldl_cons, foldl_nil,
    installed, unlink_linked q f h ownPart_owned (root_mem_ownPart.mpr rfl), hroot]
  exact foldl_removed q f h hc (anchorsOf_subset_removedFrom f t)

/-- `uninstall` changes nothing on a host. -/
theorem uninstall_host : (scriptsFor f t uninstall).foldl (Script.apply q f) h.rs = h.rs := by
  have hroot : Chain.root ∉ h.rs.chains := fun hm => Bool.noConfusion (h.foreign _ hm)
  have hunlink : (Script.unlink .root t.parent).apply q f h.rs = h.rs := by
    have hx : (Script.unlink .root t.parent).apply q f
        (withOwn h.rs (ownPart false [] (fresh q f))) = _ := unlink_overlay q f h
    rw [overlay_ownPart_nil] at hx
    exact hx
  have hclean : (fresh q f).Clean [] := fresh_clean q f []
  have hrest := foldl_removed q f h hclean (m := removedFrom f t) fun a ha =>
    nomatch ha
  rw [overlay_ownPart_nil] at hrest
  rw [scriptsFor_uninstall, foldl_append, foldl_cons, foldl_cons, foldl_nil,
    hunlink, apply_deleteChain_of_not_mem q f hroot]
  exact hrest

/-- `install` puts fresh anchors over the host, whatever was installed before. -/
theorem install_of_uninstall {rs : IptRuleset}
    (hrs : (scriptsFor f t uninstall).foldl (Script.apply q f) rs = h.rs) :
    (scriptsFor f t install).foldl (Script.apply q f) rs =
      installed h.dropBare (anchorsOf f t) (fresh q f) := by
  have hlocal : ∀ sc ∈ Script.createChain .root ::
      (anchorsOf f t).flatMap (fun a => installScripts a (stdRules f a)),
      (sc.body q f).All (Cmd.Local h.rs) := by
    intro sc hsc
    rcases mem_cons.mp hsc with rfl | hsc
    · exact ⟨rfl, rfl⟩
    · obtain ⟨a, _, ha⟩ := mem_flatMap.mp hsc
      exact local_installScripts q f h.rs a (stdRules_noJump f a) sc ha
  have hcreate : (Script.createChain .root).apply q f (ownPart false [] (fresh q f)) =
      ownPart true [] (fresh q f) := by
    rw [apply_createChain q f not_mem_nil]
    refine ext' rfl fun c => ?_
    rw [newChain_rules]
    cases c <;> simp [ownPart]
  have hsim := (foldl_overlays h.foreign q f _ hlocal
    ⟨(overlay_ownPart_nil h (fresh q f)).symm, ownPart_owned⟩).1
  rw [foldl_cons, foldl_cons, hcreate,
    foldl_installScripts q f [] (anchorsOf f t) (anchorsOf_nodup f t), nil_append] at hsim
  simp only [scriptsFor_install, foldl_append, hrs, foldl_cons, foldl_nil]
  rw [hsim]
  exact linkFirst_overlay q f h ownPart_owned (root_mem_ownPart.mpr rfl)

end Whole

end Dopamine.Linux
