import Dopamine.Linux.Firewall

/-!
# What the program leaves alone

The host's rules survive every script of the class, in whatever state the program's own chains are
(`foldl_kept`), so they are there throughout a run and not only between method calls. While the
program is installed the abstract state says where its chains are linked, and `uninstall` gives the
host's tables back.
-/

namespace Dopamine.Linux

open Netfilter Shell LinuxFirewall List Ruleset

/-! ## Scripts of the class -/

/-- The command changes at most a chain of the program. -/
def Cmd.OnOwn : Cmd → Prop
  | .new c | .flush c | .delete c | .append c _ | .remove c _ | .replace c _ => c.own = true
  | .list _ | .check _ _ | .firstIs _ _ => True
  | .insert _ _ | .removeLater _ _ => False

/-- A script of the class on table `t`: it works on chains of the program, or links or unlinks the
root chain. -/
inductive Script.Mine (t : Table) : Script → Prop
  | createChain {c : Chain} (h : c.own = true) : Mine t (.createChain c)
  | deleteChain {c : Chain} (h : c.own = true) : Mine t (.deleteChain c)
  | link {c parent : Chain} (h : parent.own = true) : Mine t (.link c parent)
  | unlink {c parent : Chain} (h : parent.own = true) : Mine t (.unlink c parent)
  | appendRule {c : Chain} (h : c.own = true) (rule : RuleSpec) : Mine t (.appendRule c rule)
  | edit {sc : Script} (h : sc.Edit t) : Mine t sc
  | unlinkRoot : Mine t (.unlink .root t.parent)

/-- The table has the host's rules, linked or not. -/
def Kept {t : Table} (h : Host t) (rs : IptRuleset) : Prop :=
  Ruleset.Guest Chain.own h.rs rs ∨ Ruleset.Guest Chain.own h.linked rs

section Kept

variable {t : Table} (q : Platform) (f : Family) (h : Host t)

theorem Cmd.run_guest {h' : IptRuleset} (hh : Ruleset.Foreign Chain.own h') (c : Cmd)
    (hc : c.OnOwn) (rs : IptRuleset) (hg : Ruleset.Guest Chain.own h' rs) :
    Ruleset.Guest Chain.own h' (c.run rs).2 := by
  cases c with
  | new c => exact hg.newChain hh hc
  | delete c => exact hg.deleteChain hh hc
  | list | check | firstIs => exact hg
  | flush c =>
    simp only [Cmd.run, Ruleset.flush]
    split
    · exact hg.modify hh hc fun _ => []
    · exact hg
  | append c rl =>
    simp only [Cmd.run, Ruleset.appendAll]
    split
    · exact hg.modify hh hc _
    · exact hg
  | remove c r =>
    simp only [Cmd.run, Ruleset.delete]
    split
    · exact hg.modify hh hc (·.erase r)
    · exact hg
  | replace c rl =>
    simp only [Cmd.run]
    split
    · next r =>
      simp only [Ruleset.replaceFirst]
      split
      · exact hg.modify hh hc fun l => r :: l.tail
      · exact hg
    · exact hg
  | insert | removeLater => exact hc.elim

variable {sc : Script} {rs own : IptRuleset}

/-- A script on the program's chains keeps the host's rules, linked or not. -/
theorem kept_onOwn (hsc : (sc.body q f).All Cmd.OnOwn) (hk : Kept h rs) :
    Kept h (sc.apply q f rs) := by
  rcases hk with hg | hg
  · exact .inl (Sh.exec_invariant (Cmd.run_guest h.foreign) _ hsc hg)
  · exact .inr (Sh.exec_invariant (Cmd.run_guest h.linked_foreign) _ hsc hg)

/-- The rules of the linked host jump to the root chain only, so the link is all that has to be
carried over. -/
theorem guest_linked (ho : Ruleset.Owned Chain.own own) (hroot : .root ∈ own.chains) :
    Ruleset.Guest Chain.own h.linked (withOwn h.linked own) := by
  refine ⟨own, ho, rfl, fun d r hr c hc ht => ?_⟩
  by_cases hcr : c = .root
  · rw [hcr]
    exact hroot
  · exact absurd ht (h.linked_ne_jump hc hcr d r hr)

theorem guest_unlinked (ho : Ruleset.Owned Chain.own own) :
    Ruleset.Guest Chain.own h.rs (withOwn h.rs own) :=
  ⟨own, ho, rfl, fun d r hr _ hc ht => absurd ht (h.ne_jump hc d r hr)⟩

theorem root_mem_of_guest_linked
    (hj : ∀ d, ∀ r ∈ h.linked.rules d, ∀ c, c.own = true → r.target = .jump c → c ∈ own.chains) :
    .root ∈ own.chains := by
  refine hj t.parent (jumpTo .root) ?_ .root rfl rfl
  rw [h.linked_rules, if_pos rfl]
  exact mem_cons_self

/-- Linking the root chain costs a host no rule when all its rules have a target. -/
theorem kept_linkFirst (hb : bareRule ∉ h.rs.rules t.parent) (hk : Kept h rs) :
    Kept h ((Script.linkFirst .root t.parent).apply q f rs) := by
  rcases hk with ⟨own, ho, rfl, _⟩ | ⟨own, ho, rfl, hj⟩
  · by_cases hroot : Chain.root ∈ own.chains
    · have hlinked : h.dropBare.linked = h.linked := by
        rw [Host.linked, Host.linked, Host.dropBare_rs hb]
      rw [linkFirst_overlay q f h ho hroot, hlinked]
      exact .inr (guest_linked h ho hroot)
    · rw [linkFirst_of_not_mem q f h hroot]
      exact .inl (guest_unlinked h ho)
  · rw [linkFirst_linked]
    exact .inr (guest_linked h ho (root_mem_of_guest_linked h hj))

theorem kept_unlinkRoot (hk : Kept h rs) :
    Kept h ((Script.unlink .root t.parent).apply q f rs) := by
  rcases hk with ⟨own, ho, rfl, _⟩ | ⟨own, ho, rfl, hj⟩
  · rw [unlink_overlay]
    exact .inl (guest_unlinked h ho)
  · rw [unlink_linked q f h ho (root_mem_of_guest_linked h hj)]
    exact .inl (guest_unlinked h ho)

/-- Every script of the class keeps the host's rules. -/
theorem kept_mine (hb : bareRule ∉ h.rs.rules t.parent) (hm : sc.Mine t) (hk : Kept h rs) :
    Kept h (sc.apply q f rs) := by
  cases hm with
  | unlinkRoot => exact kept_unlinkRoot q f h hk
  | createChain hc =>
    refine kept_onOwn q f h ?_ hk
    exact ⟨hc, hc⟩
  | deleteChain hc =>
    refine kept_onOwn q f h ?_ hk
    exact ⟨trivial, ⟨hc, hc⟩, trivial⟩
  | link hp | unlink hp =>
    refine kept_onOwn q f h ?_ hk
    exact ⟨trivial, hp, trivial⟩
  | appendRule hc rule =>
    refine kept_onOwn q f h ?_ hk
    exact hc
  | edit he =>
    cases he with
    | linkFirst => exact kept_linkFirst q f h hb hk
    | enableAnchor a | disableAnchor a =>
      refine kept_onOwn q f h ?_ hk
      exact ⟨trivial, trivial, trivial, rfl⟩
    | flushAnchor a | appendAnchor a spec _ =>
      refine kept_onOwn q f h ?_ hk
      exact rfl
    | replaceAnchor a spec =>
      refine kept_onOwn q f h ?_ hk
      exact ⟨rfl, trivial⟩

theorem foldl_kept (hb : bareRule ∉ h.rs.rules t.parent) (scs : List Script)
    (hm : ∀ sc ∈ scs, sc.Mine t) (hk : Kept h rs) : Kept h (scs.foldl (Script.apply q f) rs) := by
  induction scs generalizing rs with
  | nil => exact hk
  | cons sc scs ih =>
    exact ih (fun x hx => hm x (mem_cons_of_mem _ hx))
      (kept_mine q f h hb (hm sc mem_cons_self) hk)

end Kept

/-! ## The methods run scripts of the class -/

theorem runs_mine_uninstall : Runs (fun t sc => sc.Mine t) LinuxFirewall.uninstall := by
  intro f t sc hsc
  rw [scriptsFor_uninstall] at hsc
  rcases mem_append.mp hsc with hsc | hsc
  · simp only [mem_cons, not_mem_nil, or_false] at hsc
    rcases hsc with rfl | rfl
    · exact .unlinkRoot
    · exact .deleteChain rfl
  · obtain ⟨a, _, ha⟩ := mem_flatMap.mp hsc
    simp only [uninstallScripts, mem_cons, not_mem_nil, or_false] at ha
    rcases ha with rfl | rfl | rfl
    · exact .unlink rfl
    · exact .deleteChain rfl
    · exact .deleteChain rfl

theorem runs_mine_install : Runs (fun t sc => sc.Mine t) LinuxFirewall.install := by
  intro f t sc hsc
  rw [scriptsFor_install] at hsc
  simp only [mem_append, mem_singleton] at hsc
  rcases hsc with ((hsc | rfl) | hsc) | rfl
  · exact runs_mine_uninstall f t sc hsc
  · exact .createChain rfl
  · obtain ⟨a, _, ha⟩ := mem_flatMap.mp hsc
    rcases mem_append.mp ha with ha | ha
    · simp only [mem_cons, not_mem_nil, or_false] at ha
      rcases ha with rfl | rfl | rfl
      · exact .createChain rfl
      · exact .link rfl
      · exact .createChain rfl
    · obtain ⟨spec, _, rfl⟩ := mem_map.mp ha
      exact .appendRule rfl spec
  · exact .edit .linkFirst

variable (q : Platform)

theorem Op.runs_mine (op : Op) : Runs (fun t sc => sc.Mine t) (op.actions q) := by
  rcases op.runs (T := fun _ => True) q with rfl | rfl | ⟨_, he, _⟩
  · exact runs_mine_install
  · exact runs_mine_uninstall
  · exact fun f t sc hsc => .edit (he f t sc hsc)

theorem runs_mine_flatMap (ops : List Op) :
    Runs (fun t sc => sc.Mine t) (ops.flatMap (Op.actions q)) := by
  induction ops with
  | nil => exact fun _ _ _ hsc => nomatch hsc
  | cons op ops ih =>
    rw [flatMap_cons]
    exact (op.runs_mine q).append ih

/-! ## The result -/

/-- A table without chains of the program in which every rule has a target. -/
structure Pristine (t : Table) (rs : IptRuleset) : Prop where
  parent_mem : t.parent ∈ rs.chains
  foreign : Ruleset.Foreign Chain.own rs
  target_mem : ∀ c, ∀ r ∈ rs.rules c, ∀ d, r.target = .jump d → d ∈ rs.chains
  has_target : ∀ c, ∀ r ∈ rs.rules c, r.target ≠ .none

def Pristine.host {t : Table} {rs : IptRuleset} (hp : Pristine t rs) : Host t :=
  ⟨rs, hp.parent_mem, hp.foreign, hp.target_mem⟩

variable {t : Table} {rs : IptRuleset} {c : Chain} {f : Family} {m : Firewall}

theorem Pristine.not_bare (hp : Pristine t rs) (c : Chain) :
    bareRule ∉ rs.rules c := fun hm => hp.has_target c bareRule hm rfl

/-- The last of `install` and `uninstall` that was called is `install`. -/
def installedAfter (ops : List Op) : Bool :=
  ops.foldl (fun b op =>
    match op with
    | .install => true
    | .uninstall => false
    | _ => b) false

/-- How the program sits in a table whose host part is `host`. -/
structure Linked (f : Family) (t : Table) (host rs : IptRuleset) : Prop where
  first : rs.rules t.parent = jumpTo .root :: host.rules t.parent
  once : ∀ c, (rs.rules c).countP (fun r => decide (r.target = .jump .root)) =
    if c = t.parent then 1 else 0
  order : rs.rules .root = (anchorsOf f t).map fun a => jumpTo (.placeholder a)
  one_jump : ∀ a ∈ anchorsOf f t,
    rs.rules (.placeholder a) = [] ∨ rs.rules (.placeholder a) = [jumpTo (.actual a)]

/-- The rules of the other programs, in their order, are what is left without the link. -/
theorem Kept.rules {h : Host t} (hk : Kept h rs) (hc : c.own = false) :
    (c ∈ rs.chains ↔ c ∈ h.rs.chains) ∧
      (rs.rules c).filter (fun r => r.target ≠ .jump .root) = h.rs.rules c := by
  have hkeep : (h.rs.rules c).filter (fun r => r.target ≠ .jump .root) = h.rs.rules c :=
    filter_eq_self.mpr fun r hr => decide_eq_true (h.ne_jump rfl c r hr)
  rcases hk with ⟨own, ho, rfl, _⟩ | ⟨own, ho, rfl, _⟩
  · rw [overlay_rules_foreign hc]
    exact ⟨mem_overlay_foreign ho hc, hkeep⟩
  · rw [overlay_rules_foreign hc, h.linked_rules]
    refine ⟨mem_overlay_foreign ho hc, ?_⟩
    split
    · rw [filter_cons_of_neg (by simp [jumpTo])]
      exact hkeep
    · exact hkeep

/-- In an installed table with clean anchors the program is linked as it should be. -/
theorem linked_installed (h : Host t) {s : AnchorState} (hc : s.Clean (anchorsOf f t)) :
    Linked f t h.rs (installed h (anchorsOf f t) s) where
  first := installed_rules_parent h
  once c := by
    have hzero : ∀ l : List FilterRule, (∀ r ∈ l, r.target ≠ .jump .root) →
        l.countP (fun r => decide (r.target = .jump .root)) = 0 := fun l hl =>
      countP_eq_zero.mpr fun r hr => by simpa using hl r hr
    by_cases hp : c = t.parent
    · subst hp
      rw [installed_rules_parent, countP_cons_of_pos (by simp [jumpTo]), if_pos rfl,
        hzero _ (h.ne_jump rfl t.parent)]
    · rw [if_neg hp]
      refine hzero _ fun r hr ht => ?_
      by_cases ho : c.own = true
      · rw [installed, overlay_rules_mine ho] at hr
        rcases ownPart_jump hc rfl hr ht with ⟨rfl, _⟩ | ⟨b, _, hb⟩
        · obtain ⟨a, _, rfl⟩ := mem_map.mp hr
          cases Target.jump.inj ht
        · cases hb
      · rw [installed, overlay_rules_foreign (Bool.eq_false_iff.mpr ho), h.linked_rules,
          if_neg hp] at hr
        exact h.ne_jump rfl c r hr ht
  order := by
    rw [installed, overlay_rules_mine rfl]
    rfl
  one_jump a _ := by
    rw [installed, overlay_rules_mine rfl]
    simp only [ownPart]
    split
    · exact .inr rfl
    · exact .inl rfl

/-! ### Runs from a pristine kernel -/

/-- A step changes no host whose rules all have a target. -/
theorem Op.step_host (hb : ∀ f t, bareRule ∉ (m.host f t).rs.rules t.parent) (op : Op)
    (f : Family) (t : Table) : ((op.step q m).host f t).rs = (m.host f t).rs := by
  rcases op.runs (T := fun _ => True) q with rfl | rfl | ⟨_, _, hstep⟩
  · exact Host.dropBare_rs (hb f t)
  · rfl
  · rw [hstep]
    rfl

theorem foldl_step_host (ops : List Op) (hb : ∀ f t, bareRule ∉ (m.host f t).rs.rules t.parent)
    (f : Family) (t : Table) : ((ops.foldl (Op.step q) m).host f t).rs = (m.host f t).rs := by
  induction ops generalizing m with
  | nil => rfl
  | cons op ops ih =>
    have hstep := op.step_host q hb
    rw [foldl_cons, ih fun f' t' => by rw [hstep]; exact hb f' t', hstep]

theorem foldl_step_isSome (ops : List Op) (m : Firewall) :
    (ops.foldl (Op.step q) m).anchors.isSome =
      ops.foldl (fun b op =>
        match op with
        | .install => true
        | .uninstall => false
        | _ => b) m.anchors.isSome := by
  induction ops generalizing m with
  | nil => rfl
  | cons op ops ih =>
    rw [foldl_cons, foldl_cons, ih]
    congr 1
    cases op <;> simp [Op.step, Firewall.install, Firewall.uninstall, Firewall.edit]

/-- The abstract state before the first call. -/
def Firewall.ofPristine {st : FwState} (hst : ∀ f t, Pristine t (st.kernel f t)) : Firewall :=
  ⟨fun f t => (hst f t).host, none⟩

theorem runOps_append (ops ops' : List Op) (st : FwState) :
    runOps q (ops ++ ops') st = runOps q ops' (runOps q ops st) :=
  foldl_append

/-- From tables without chains of the program in which every rule has a target, and for every
sequence of public methods whose replacement rules jump to no chain of the program:

* after every single action, the rules of the others are there in their order, and only links to
  the root chain have been added to their chains;
* while installed, the root chain is jumped to exactly once, from the top of its parent chain, and
  the placeholders stand in install order with at most one jump each;
* a final `uninstall` gives the initial tables back. -/
theorem linuxFirewall_leaves_host_alone (q : Platform) (st : FwState)
    (hst : ∀ f t, Pristine t (st.kernel f t)) (ops : List Op)
    (hs : ∀ op ∈ ops, op.Safe fun _ => True) :
    (∀ acts rest, acts ++ rest = ops.flatMap (Op.actions q) → ∀ f t c, c.own = false →
      (c ∈ ((run q acts st).kernel f t).chains ↔ c ∈ (st.kernel f t).chains) ∧
      (((run q acts st).kernel f t).rules c).filter (fun r => r.target ≠ .jump .root) =
        (st.kernel f t).rules c) ∧
    (installedAfter ops = true → ∀ f t,
      Linked f t (st.kernel f t) ((runOps q ops st).kernel f t)) ∧
    ∀ f t, (runOps q (ops ++ [.uninstall]) st).kernel f t = st.kernel f t := by
  have hr : Refines (fun _ => True) st (Firewall.ofPristine hst) := fun _ _ _ => rfl
  have hc : (Firewall.ofPristine hst).Clean fun _ => True :=
    fun _ h => nomatch h
  have hb : ∀ f t, bareRule ∉ ((Firewall.ofPristine hst).host f t).rs.rules t.parent :=
    fun f t => (hst f t).not_bare t.parent
  obtain ⟨href, hclean⟩ := run_refines q ops hs hr hc
  have hhost := foldl_step_host q ops hb
  refine ⟨fun acts rest hacts f t c hown => ?_, fun hin f t => ?_, fun f t => ?_⟩
  · -- the scripts run so far are all scripts of the class
    have hmine : ∀ sc ∈ scriptsFor f t acts, sc.Mine t := by
      intro sc hsc
      refine runs_mine_flatMap q ops f t sc ?_
      rw [← hacts, scriptsFor_append]
      exact mem_append_left _ hsc
    have hstart : Kept (hst f t).host (st.kernel f t) := by
      have hg : Ruleset.Guest Chain.own (hst f t).host.rs
          (withOwn (hst f t).host.rs (ownPart false [] (fresh q f))) :=
        guest_unlinked (hst f t).host ownPart_owned
      rw [overlay_ownPart_nil] at hg
      exact .inl hg
    rw [run_kernel]
    exact (foldl_kept q f _ (hb f t) _ hmine hstart).rules hown
  · have hsome : (ops.foldl (Op.step q) (Firewall.ofPristine hst)).anchors.isSome = true := by
      rw [foldl_step_isSome]
      exact hin
    obtain ⟨s, hanch⟩ := Option.isSome_iff_exists.mp hsome
    have hlinked := linked_installed (f := f)
      ((ops.foldl (Op.step q) (Firewall.ofPristine hst)).host f t) (hclean s hanch f t trivial)
    rw [hhost] at hlinked
    rw [href f t trivial, Firewall.table, hanch]
    exact hlinked
  · rw [runOps_append]
    have hun := run_uninstall q href hclean f t trivial
    exact hun.trans (hhost f t)

/-- Tables with one rule of somebody else. -/
def sampleTables : FwState where
  kernel _ _ :=
    { chains := [.output, .postRouting, .preRouting]
      rules := fun c => if c = .output then [⟨{}, .verdict .accept⟩] else []
      rules_eq_nil := fun c hc => by
        rw [if_neg]
        rintro rfl
        exact hc mem_cons_self }
  anchorCallbacks := []

theorem eq_of_mem_sampleTables {r : FilterRule} (hr : r ∈ (sampleTables.kernel f t).rules c) :
    r = ⟨{}, .verdict .accept⟩ := by
  by_cases hc : c = .output
  · simp only [sampleTables, if_pos hc] at hr
    exact mem_singleton.mp hr
  · simp only [sampleTables, if_neg hc] at hr
    cases hr

theorem sampleTables_pristine (f : Family) (t : Table) : Pristine t (sampleTables.kernel f t) where
  parent_mem := by cases t <;> simp [sampleTables, Table.parent]
  foreign c hc := by
    simp only [sampleTables, mem_cons, not_mem_nil, or_false] at hc
    rcases hc with rfl | rfl | rfl <;> rfl
  target_mem c r hr d hd := by
    rw [eq_of_mem_sampleTables hr] at hd
    cases hd
  has_target c r hr h := by
    rw [eq_of_mem_sampleTables hr] at h
    cases h

/-- The interface rule that `100.transIp` is meant for is safe, and the run ends where it began. -/
theorem linuxFirewall_leaves_host_alone_sample :
    (installedAfter [.install, .setAnchorEnabled .Both .blockAll true,
      .replaceAnchor .Both .transIp [.out "eth0", .jumpExt "MASQUERADE"] .nat] = true) ∧
    ∀ f t, (runOps .plain ([.install, .setAnchorEnabled .Both .blockAll true,
      .replaceAnchor .Both .transIp [.out "eth0", .jumpExt "MASQUERADE"] .nat] ++ [.uninstall])
      sampleTables).kernel f t = sampleTables.kernel f t := by
  refine ⟨rfl, (linuxFirewall_leaves_host_alone .plain sampleTables sampleTables_pristine _ ?_).2.2⟩
  intro op hop
  simp only [mem_cons, not_mem_nil, or_false] at hop
  rcases hop with rfl | rfl | rfl
  · trivial
  · trivial
  · intro _ c hc
    simp at hc

/-- A replacement rule that jumps to a chain of the program keeps that chain from being deleted:
`-X` fails while a rule refers to it, and `uninstall` removes `100.blockAll` only later. -/
theorem uninstall_leaves_referenced_chain :
    (∀ f t, Pristine t (sampleTables.kernel f t)) ∧
    (runOps .plain [.install,
      .replaceAnchor .IPv4 .blockAll [.jumpChain (.actual .allowLoopback)] .filter, .uninstall]
      sampleTables).kernel .IPv4 .filter ≠ sampleTables.kernel .IPv4 .filter := by
  refine ⟨sampleTables_pristine, fun h => ?_⟩
  have hchains := congrArg Ruleset.chains h
  revert hchains
  decide +kernel

end Dopamine.Linux
