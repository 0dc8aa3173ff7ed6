import Dopamine.Linux.Tables

/-!
# The firewall as a state machine

`Firewall` is the abstract state behind `LinuxFirewall`: the host's tables, and, while the program
is installed, the state of the anchors of each table. `Op` lists the public methods that change the
tables. `run_refines` says that whatever sequence of them is called, the tables of the kernel are
the ones the abstract state stands for.
-/

namespace Dopamine.Linux

open Netfilter Shell LinuxFirewall List Option Ruleset

/-! ## Edits of an installed table -/

/-- The scripts run outside `install` and `uninstall`, on table `t`. -/
inductive Script.Edit (t : Table) : Script → Prop
  | enableAnchor (a : Anchor) : Edit t (.enableAnchor a)
  | disableAnchor (a : Anchor) : Edit t (.disableAnchor a)
  | flushAnchor (a : Anchor) : Edit t (.flushAnchor a)
  | appendAnchor (a : Anchor) (spec : RuleSpec) (h : spec.NoJump) : Edit t (.appendAnchor a spec)
  | replaceAnchor (a : Anchor) (spec : RuleSpec) : Edit t (.replaceAnchor a spec)
  | linkFirst : Edit t (.linkFirst .root t.parent)

/-- Replace the first rule of an anchor. That needs a rule to replace, and one new rule whose target
exists. -/
def AnchorState.replaceFirst {t : Table} (h : Host t) (l : List Anchor) (s : AnchorState)
    (a : Anchor) : List FilterRule → AnchorState
  | [r] =>
      if (installed h l s).accepts (.actual a) r ∧ s.rules a ≠ [] then
        s.setRules a (r :: (s.rules a).tail)
      else s
  | _ => s

/-- What an edit does to the anchors of an installed table. -/
def AnchorState.edit {t : Table} (q : Platform) (f : Family) (h : Host t) (l : List Anchor)
    (s : AnchorState) : Script → AnchorState
  | .enableAnchor a => s.setEnabled a true
  | .disableAnchor a => s.setEnabled a false
  | .flushAnchor a => s.setRules a []
  | .appendAnchor a spec => s.setRules a (s.rules a ++ RuleSpec.rules q f spec)
  | .replaceAnchor a spec => s.replaceFirst h l a (RuleSpec.rules q f spec)
  | _ => s

section Edit

variable {t : Table} (q : Platform) (f : Family) (h : Host t) {l : List Anchor} {s : AnchorState}
  {sc : Script}

/-- An edit other than a replacement or a link acts on the program's part. -/
theorem Script.Edit.foldl_local {h' : IptRuleset} (hh : Foreign Chain.own h')
    {root : Bool} {s' : AnchorState} (hsc : (sc.body q f).All (Cmd.Local h'))
    (hown : sc.apply q f (ownPart root l s) = ownPart root l s') :
    sc.apply q f (withOwn h' (ownPart root l s)) =
      withOwn h' (ownPart root l s') := by
  have hlocal : ∀ x ∈ [sc], (x.body q f).All (Cmd.Local h') := by
    intro x hx
    rw [mem_singleton.mp hx]
    exact hsc
  have hsim := (foldl_overlays hh q f [sc] hlocal (overlays_ownPart h' root l s)).1
  rw [foldl_cons, foldl_nil, foldl_cons, foldl_nil, hown] at hsim
  exact hsim

theorem local_enableAnchor (h' : IptRuleset) (a : Anchor) :
    ((Script.enableAnchor a).body q f).All (Cmd.Local h') := by
  refine ⟨⟨rfl, ownTarget_jumpTo rfl⟩, trivial, trivial, rfl, fun r hr => ?_⟩
  rw [mem_singleton.mp hr]
  exact ownTarget_jumpTo rfl

theorem local_disableAnchor (h' : IptRuleset) (a : Anchor) :
    ((Script.disableAnchor a).body q f).All (Cmd.Local h') :=
  ⟨⟨rfl, ownTarget_jumpTo rfl⟩, trivial, trivial, rfl⟩

theorem local_appendAnchor (h' : IptRuleset) (a : Anchor) {spec : RuleSpec} (hs : spec.NoJump) :
    ((Script.appendAnchor a spec).body q f).All (Cmd.Local h') :=
  ⟨rfl, fun r hr d hd => absurd hd (RuleSpec.rules_ne_jump hs q f r hr d)⟩

/-- `-R` on an installed table. -/
theorem run_replace_installed (a : Anchor) (rl : List FilterRule) :
    ((Cmd.replace (.actual a) rl).run (installed h l s)).2 =
      installed h l (s.replaceFirst h l a rl) := by
  match rl with
  | [] => rfl
  | _ :: _ :: _ => rfl
  | [r] =>
    simp only [Cmd.run, replaceFirst, AnchorState.replaceFirst]
    by_cases ha : a ∈ l
    · have hrules : (installed h l s).rules (.actual a) = s.rules a := by
        rw [installed, overlay_rules_mine rfl]
        simp only [ownPart, ha, if_true]
      rw [hrules]
      split
      · have hmod : (installed h l s).modify (.actual a) (fun l' => r :: l'.tail) =
            withOwn h.linked
              ((ownPart true l s).modify (.actual a) fun l' => r :: l'.tail) :=
          modify_overlay_mine h.linked_foreign rfl _
        rw [modify_actual ha] at hmod
        exact hmod
      · rfl
    · -- without the chain the command fails
      have hm : Chain.actual a ∉ (installed h l s).chains := by
        rw [installed, mem_overlay_mine h.linked_foreign rfl, actual_mem_ownPart]
        exact ha
      have hacc : (installed h l s).accepts (.actual a) r = false := by
        simp only [accepts, hm, decide_false, Bool.false_and]
      simp only [hacc, Bool.false_eq_true, false_and, if_false]

/-- An edit of an installed table. -/
theorem edit_installed (he : sc.Edit t) :
    sc.apply q f (installed h l s) = installed h l (s.edit q f h l sc) := by
  cases he with
  | enableAnchor a =>
    exact Script.Edit.foldl_local q f h.linked_foreign (local_enableAnchor q f _ a)
      (enableAnchor_ownPart q f)
  | disableAnchor a =>
    exact Script.Edit.foldl_local q f h.linked_foreign (local_disableAnchor q f _ a)
      (disableAnchor_ownPart q f)
  | flushAnchor a =>
    exact Script.Edit.foldl_local q f h.linked_foreign rfl (flushAnchor_ownPart q f)
  | appendAnchor a spec hs =>
    exact Script.Edit.foldl_local q f h.linked_foreign (local_appendAnchor q f _ a hs)
      (appendAll_ownPart (RuleSpec.rules_ne_jump hs q f))
  | replaceAnchor a spec => exact run_replace_installed h a _
  | linkFirst => exact linkFirst_linked q f h

/-- A command on the program's chains finds none of them on a host. -/
theorem local_host {s' : AnchorState} (hsc : (sc.body q f).All (Cmd.Local h.rs))
    (hown : sc.apply q f (ownPart false [] s) = ownPart false [] s') :
    sc.apply q f h.rs = h.rs := by
  have hsim := Script.Edit.foldl_local q f h.foreign hsc hown
  rw [overlay_ownPart_nil, overlay_ownPart_nil] at hsim
  exact hsim

theorem own_not_mem_host {c : Chain} (hc : c.own = true) : c ∉ h.rs.chains := fun hm => by
  rw [h.foreign c hm] at hc
  cases hc

/-- An edit changes nothing while the program is not installed. -/
theorem edit_host (he : sc.Edit t) : sc.apply q f h.rs = h.rs := by
  cases he with
  | enableAnchor a =>
    exact local_host q f h (s := fresh q f) (local_enableAnchor q f _ a) (enableAnchor_ownPart q f)
  | disableAnchor a =>
    exact local_host q f h (s := fresh q f) (local_disableAnchor q f _ a)
      (disableAnchor_ownPart q f)
  | flushAnchor a =>
    exact local_host q f h (s := fresh q f) rfl (flushAnchor_ownPart q f)
  | appendAnchor a spec hs =>
    exact local_host q f h (s := fresh q f) (local_appendAnchor q f _ a hs)
      (appendAll_ownPart (RuleSpec.rules_ne_jump hs q f))
  | replaceAnchor a spec =>
    have hm : Chain.actual a ∉ h.rs.chains := own_not_mem_host h rfl
    simp only [Script.apply, Script.body, Sh.exec, Cmd.run]
    split
    · simp only [replaceFirst, accepts, hm, decide_false, Bool.false_and,
        Bool.false_eq_true, false_and, if_false]
    · rfl
  | linkFirst =>
    have hx : (Script.linkFirst .root t.parent).apply q f
        (withOwn h.rs (ownPart false [] (fresh q f))) = _ :=
      linkFirst_of_not_mem q f h not_mem_nil
    rw [overlay_ownPart_nil] at hx
    exact hx

end Edit

/-! ## The abstract firewall -/

/-- The tables of the host, and the anchors of each table while the program is installed. -/
structure Firewall where
  host : (f : Family) → (t : Table) → Host t
  anchors : Option (Family → Table → AnchorState)

namespace Firewall

/-- The table of the kernel that the state stands for. -/
def table (m : Firewall) (f : Family) (t : Table) : IptRuleset :=
  match m.anchors with
  | none => (m.host f t).rs
  | some s => installed (m.host f t) (anchorsOf f t) (s f t)

/-- In the tables `T`, no rule of an installed anchor jumps to a chain of the program. -/
def Clean (T : Table → Prop) (m : Firewall) : Prop :=
  ∀ s, m.anchors = some s → ∀ f t, T t → (s f t).Clean (anchorsOf f t)

def install (q : Platform) (m : Firewall) : Firewall where
  host f t := (m.host f t).dropBare
  anchors := some fun f _ => fresh q f

def uninstall (m : Firewall) : Firewall := { m with anchors := none }

/-- The edits of a list of actions, table by table. -/
def edit (q : Platform) (acts : List Action) (m : Firewall) : Firewall :=
  { m with
    anchors := m.anchors.map fun s f t =>
      (scriptsFor f t acts).foldl (AnchorState.edit q f (m.host f t) (anchorsOf f t)) (s f t) }

end Firewall

/-- The kernel's tables `T` are the ones the abstract state stands for. -/
def Refines (T : Table → Prop) (st : FwState) (m : Firewall) : Prop :=
  ∀ f t, T t → st.kernel f t = m.table f t

/-- Every script the actions run on a table satisfies `P`. -/
def Runs (P : Table → Script → Prop) (acts : List Action) : Prop :=
  ∀ f t, ∀ sc ∈ scriptsFor f t acts, P t sc

/-- The actions run edits only. -/
def EditsOnly (acts : List Action) : Prop := Runs (fun t sc => sc.Edit t) acts

section Refinement

variable {T : Table → Prop} (q : Platform) {st : FwState} {m : Firewall} {t : Table}

theorem foldl_edit_installed (f : Family) (h : Host t) {l : List Anchor} (scs : List Script)
    (he : ∀ sc ∈ scs, sc.Edit t) (s : AnchorState) :
    scs.foldl (Script.apply q f) (installed h l s) =
      installed h l (scs.foldl (AnchorState.edit q f h l) s) := by
  induction scs generalizing s with
  | nil => rfl
  | cons sc scs ih =>
    rw [foldl_cons, foldl_cons, edit_installed q f h (he sc mem_cons_self)]
    exact ih (fun sc' h' => he sc' (mem_cons_of_mem _ h')) _

theorem foldl_edit_host (f : Family) (h : Host t) (scs : List Script)
    (he : ∀ sc ∈ scs, sc.Edit t) : scs.foldl (Script.apply q f) h.rs = h.rs := by
  induction scs with
  | nil => rfl
  | cons sc scs ih =>
    rw [foldl_cons, edit_host q f h (he sc mem_cons_self)]
    exact ih fun sc' h' => he sc' (mem_cons_of_mem _ h')

theorem run_edit (hr : Refines T st m) {acts : List Action} (he : EditsOnly acts) :
    Refines T (run q acts st) (m.edit q acts) := by
  intro f t ht
  rw [run_kernel, hr f t ht]
  cases hm : m.anchors with
  | none =>
    simp only [Firewall.table, Firewall.edit, hm, map_none]
    exact foldl_edit_host q f _ _ (he f t)
  | some s =>
    simp only [Firewall.table, Firewall.edit, hm, map_some]
    exact foldl_edit_installed q f _ _ (he f t) _

theorem uninstall_table (hc : m.Clean T) (f : Family) (t : Table) (ht : T t) :
    (scriptsFor f t LinuxFirewall.uninstall).foldl (Script.apply q f) (m.table f t) =
      (m.host f t).rs := by
  cases hm : m.anchors with
  | none =>
    simp only [Firewall.table, hm]
    exact uninstall_host q f _
  | some s =>
    simp only [Firewall.table, hm]
    exact uninstall_installed q f _ (hc s hm f t ht)

theorem run_uninstall (hr : Refines T st m) (hc : m.Clean T) :
    Refines T (run q LinuxFirewall.uninstall st) m.uninstall := by
  intro f t ht
  rw [run_kernel, hr f t ht]
  exact uninstall_table q hc f t ht

theorem run_install (hr : Refines T st m) (hc : m.Clean T) :
    Refines T (run q LinuxFirewall.install st) (m.install q) := by
  intro f t ht
  rw [run_kernel, hr f t ht]
  exact install_of_uninstall q f _ (uninstall_table q hc f t ht)

/-- `isInstalled` tells whether the program is installed. -/
theorem isInstalled_eq (hr : Refines T st m) (hT : T .filter) :
    isInstalled st = m.anchors.isSome := by
  rw [isInstalled, hr _ _ hT]
  cases hm : m.anchors with
  | none =>
    simp only [Firewall.table, hm, isSome_none]
    exact check_jumpTo_eq_false fun hx => own_not_mem_host _ rfl hx.1.2
  | some s =>
    simp only [Firewall.table, hm, isSome_some]
    refine check_jumpTo.mpr ⟨⟨mem_append_left _ (m.host .IPv4 .filter).parent_mem,
      mem_append_right _ (root_mem_ownPart.mpr rfl)⟩, ?_⟩
    have hp := installed_rules_parent (m.host .IPv4 .filter) (l := anchorsOf .IPv4 .filter)
      (s := s .IPv4 .filter)
    rw [show Chain.output = Table.filter.parent from rfl, hp]
    exact mem_cons_self

end Refinement

/-! ## Runs of public methods -/

/-- The public methods of `LinuxFirewall` that change the tables, with their arguments. -/
inductive Op where
  | install
  | uninstall
  | ensureRootAnchorPriority (ip : IPVersion)
  | enableAnchor (ip : IPVersion) (a : Anchor) (t : Table)
  | disableAnchor (ip : IPVersion) (a : Anchor) (t : Table)
  | setAnchorEnabled (ip : IPVersion) (a : Anchor) (enabled : Bool) (t : Table := .filter)
  | replaceAnchor (ip : IPVersion) (a : Anchor) (newRule : RuleSpec) (t : Table)
  | updateDNSServers (servers : List String)
  | updateAllowNets (servers : List String)
  | updateBlockNets (servers : List String)

/-- What a method does. -/
def Op.actions (q : Platform) : Op → List Action
  | .install => LinuxFirewall.install
  | .uninstall => LinuxFirewall.uninstall
  | .ensureRootAnchorPriority ip => LinuxFirewall.ensureRootAnchorPriority ip
  | .enableAnchor ip a t => LinuxFirewall.enableAnchor ip a t
  | .disableAnchor ip a t => LinuxFirewall.disableAnchor ip a t
  | .setAnchorEnabled ip a enabled t => LinuxFirewall.setAnchorEnabled ip a enabled t
  | .replaceAnchor ip a newRule t => LinuxFirewall.replaceAnchor ip a newRule t
  | .updateDNSServers servers => LinuxFirewall.updateDNSServers servers
  | .updateAllowNets servers => LinuxFirewall.updateAllowNets q servers
  | .updateBlockNets servers => LinuxFirewall.updateBlockNets servers

/-- What a method does to the abstract state. -/
def Op.step (q : Platform) (m : Firewall) : Op → Firewall
  | .install => m.install q
  | .uninstall => m.uninstall
  | op => m.edit q (op.actions q)

/-- A script that puts no jump to the program's chains into an anchor. -/
def Script.SafeEdit : Script → Prop
  | .replaceAnchor _ spec => ∀ c, Opt.jumpChain c ∈ spec → c.own = false
  | _ => True

/-- In the tables `T`, a replacement rule jumps to no chain of the program. -/
def Op.Safe (T : Table → Prop) : Op → Prop
  | .replaceAnchor _ a newRule t => T t → (Script.replaceAnchor a newRule).SafeEdit
  | _ => True

/-- Call methods one after the other. -/
def runOps (q : Platform) (ops : List Op) (st : FwState) : FwState :=
  ops.foldl (fun st op => run q (op.actions q) st) st

/-! ### The methods run edits -/

section RunsLemmas

variable {P : Table → Script → Prop}

theorem Runs.append {acts acts' : List Action} (h : Runs P acts) (h' : Runs P acts') :
    Runs P (acts ++ acts') := by
  intro f t sc hsc
  rw [scriptsFor_append] at hsc
  rcases mem_append.mp hsc with hsc | hsc
  · exact h f t sc hsc
  · exact h' f t sc hsc

variable (ip : IPVersion)

theorem runs_execEach {t : Table} {sc : Script} (he : P t sc) : Runs P (execEach ip t sc) := by
  intro f t' sc' hsc
  rw [scriptsFor_execEach] at hsc
  split at hsc
  · next hr =>
    rw [mem_singleton.mp hsc, ← (of_decide_eq_true hr).2]
    exact he
  · cases hsc

theorem runs_setAnchorEnabled (a : Anchor) (on : Bool) (t : Table) (he : P t (.enableAnchor a))
    (hd : P t (.disableAnchor a)) : Runs P (LinuxFirewall.setAnchorEnabled ip a on t) := by
  have hinvoke : ∀ key, Runs P [.invoke key] := fun _ _ _ _ hsc => nomatch hsc
  cases on with
  | true => exact (runs_execEach ip he).append (hinvoke _)
  | false => exact (runs_execEach ip hd).append (hinvoke _)

theorem runs_updateRules (f : Family) (a : Anchor) {rules : List RuleSpec}
    (hf : P .filter (.flushAnchor a)) (hr : ∀ spec ∈ rules, P .filter (.appendAnchor a spec)) :
    Runs P (updateRules f a rules) := by
  intro f' t sc hsc
  obtain ⟨act, hact, hs⟩ := mem_filterMap.mp hsc
  rcases mem_cons.mp hact with rfl | hact
  · simp only [ite_none_right_eq_some, some.injEq] at hs
    rw [← hs.2, ← hs.1.2]
    exact hf
  · obtain ⟨spec, hspec, rfl⟩ := mem_map.mp hact
    simp only [ite_none_right_eq_some, some.injEq] at hs
    rw [← hs.2, ← hs.1.2]
    exact hr spec hspec

end RunsLemmas

variable (servers : List String)

theorem getDNSRules_noJump : ∀ spec ∈ getDNSRules servers, spec.NoJump := by
  intro spec hspec
  obtain ⟨server, _, hs⟩ := mem_flatMap.mp hspec
  simp only [mem_cons, not_mem_nil, or_false] at hs
  rcases hs with rfl | rfl | rfl | rfl | rfl | rfl <;> simp [RuleSpec.NoJump]

theorem getAllowRule_noJump : ∀ spec ∈ getAllowRule servers, spec.NoJump := by
  intro spec hspec
  obtain ⟨server, _, rfl⟩ := mem_map.mp hspec
  simp [RuleSpec.NoJump]

theorem getBlockRule_noJump : ∀ spec ∈ getBlockRule servers, spec.NoJump := by
  intro spec hspec
  obtain ⟨server, _, rfl⟩ := mem_map.mp hspec
  simp [RuleSpec.NoJump]

/-- An edit that is safe in the tables `T`. -/
def SafeIn (T : Table → Prop) (t : Table) (sc : Script) : Prop := sc.Edit t ∧ (T t → sc.SafeEdit)

section SafeRuns

variable {T : Table → Prop}

theorem safe_updateRules (f : Family) (a : Anchor) {rules : List RuleSpec}
    (hr : ∀ spec ∈ rules, spec.NoJump) : Runs (SafeIn T) (updateRules f a rules) :=
  runs_updateRules f a ⟨.flushAnchor a, fun _ => trivial⟩
    fun spec hs => ⟨.appendAnchor a spec (hr spec hs), fun _ => trivial⟩

variable (servers : List String) (ip : IPVersion)

theorem safe_updateDNSServers : Runs (SafeIn T) (LinuxFirewall.updateDNSServers servers) :=
  safe_updateRules _ _ (getDNSRules_noJump servers)

theorem safe_updateAllowNets (q : Platform) (servers : List String) :
    Runs (SafeIn T) (LinuxFirewall.updateAllowNets q servers) :=
  (safe_updateRules _ _ (getAllowRule_noJump _)).append
    (safe_updateRules _ _ (getAllowRule_noJump _))

theorem safe_updateBlockNets : Runs (SafeIn T) (LinuxFirewall.updateBlockNets servers) :=
  safe_updateRules _ _ (getBlockRule_noJump servers)

theorem safe_setAnchorEnabled (a : Anchor) (on : Bool) (t : Table) :
    Runs (SafeIn T) (LinuxFirewall.setAnchorEnabled ip a on t) :=
  runs_setAnchorEnabled ip a on t ⟨.enableAnchor a, fun _ => trivial⟩
    ⟨.disableAnchor a, fun _ => trivial⟩

theorem safe_ensureRootAnchorPriority :
    Runs (SafeIn T) (LinuxFirewall.ensureRootAnchorPriority ip) :=
  runs_execEach ip ⟨.linkFirst, fun _ => trivial⟩

/-- A method is `install`, `uninstall` or a list of edits, safe when the method is. -/
theorem Op.runs (q : Platform) (op : Op) :
    op = .install ∨ op = .uninstall ∨
      ((op.Safe T → Runs (SafeIn T) (op.actions q)) ∧ EditsOnly (op.actions q) ∧
        ∀ m, op.step q m = m.edit q (op.actions q)) := by
  have hsafe : ∀ {acts : List Action}, Runs (SafeIn T) acts →
      (op.Safe T → Runs (SafeIn T) acts) ∧ EditsOnly acts :=
    fun h => ⟨fun _ => h, fun f t sc hsc => (h f t sc hsc).1⟩
  cases op with
  | install => exact .inl rfl
  | uninstall => exact .inr (.inl rfl)
  | replaceAnchor ip a rule t =>
    refine .inr (.inr ⟨fun hs => ?_, ?_, fun _ => rfl⟩)
    · exact runs_execEach ip ⟨.replaceAnchor a rule, hs⟩
    · exact runs_execEach ip (.replaceAnchor a rule)
  | ensureRootAnchorPriority ip =>
    obtain ⟨h1, h2⟩ := hsafe (safe_ensureRootAnchorPriority ip)
    exact .inr (.inr ⟨h1, h2, fun _ => rfl⟩)
  | enableAnchor ip a t =>
    obtain ⟨h1, h2⟩ := hsafe
      (runs_execEach (P := SafeIn T) ip (t := t) ⟨.enableAnchor a, fun _ => trivial⟩)
    exact .inr (.inr ⟨h1, h2, fun _ => rfl⟩)
  | disableAnchor ip a t =>
    obtain ⟨h1, h2⟩ := hsafe
      (runs_execEach (P := SafeIn T) ip (t := t) ⟨.disableAnchor a, fun _ => trivial⟩)
    exact .inr (.inr ⟨h1, h2, fun _ => rfl⟩)
  | setAnchorEnabled ip a on t =>
    obtain ⟨h1, h2⟩ := hsafe (safe_setAnchorEnabled ip a on t)
    exact .inr (.inr ⟨h1, h2, fun _ => rfl⟩)
  | updateDNSServers l =>
    obtain ⟨h1, h2⟩ := hsafe (safe_updateDNSServers l)
    exact .inr (.inr ⟨h1, h2, fun _ => rfl⟩)
  | updateAllowNets l =>
    obtain ⟨h1, h2⟩ := hsafe (safe_updateAllowNets q l)
    exact .inr (.inr ⟨h1, h2, fun _ => rfl⟩)
  | updateBlockNets l =>
    obtain ⟨h1, h2⟩ := hsafe (safe_updateBlockNets l)
    exact .inr (.inr ⟨h1, h2, fun _ => rfl⟩)

end SafeRuns

/-! ### Runs -/

variable {s : AnchorState} {l : List Anchor} {rl : List FilterRule} {t : Table} {h : Host t}
  {q : Platform} {f : Family}

/-- New rules of a listed anchor have to be clean; those of others do not count. -/
theorem AnchorState.Clean.setRules (hc : s.Clean l) (a : Anchor)
    (hr : a ∈ l → ∀ r ∈ rl, ∀ d, r.target = .jump d → d.own = false) :
    (s.setRules a rl).Clean l := by
  intro b hb r hm d hd
  rw [AnchorState.setRules_rules] at hm
  split at hm
  · next hba => exact hr (hba ▸ hb) r hm d hd
  · exact hc b hb r hm d hd

theorem AnchorState.Clean.replaceFirst (hc : s.Clean l) (a : Anchor)
    (hr : ∀ r ∈ rl, ∀ d, r.target = .jump d → d.own = false) :
    (s.replaceFirst h l a rl).Clean l := by
  match rl with
  | [] | _ :: _ :: _ => exact hc
  | [r] =>
    simp only [AnchorState.replaceFirst]
    split
    · refine hc.setRules a fun ha r' hm => ?_
      rcases mem_cons.mp hm with rfl | hm
      · exact hr r' (mem_singleton_self _)
      · exact hc a ha r' (mem_of_mem_tail hm)
    · exact hc

theorem AnchorState.Clean.edit (hc : s.Clean l) {sc : Script} (he : sc.Edit t) (hs : sc.SafeEdit) :
    (s.edit q f h l sc).Clean l := by
  cases he with
  | enableAnchor a | disableAnchor a | linkFirst => exact hc
  | flushAnchor a => exact hc.setRules a fun _ r hr => nomatch hr
  | appendAnchor a spec hn =>
    refine hc.setRules a fun ha r hm d hd => ?_
    rcases mem_append.mp hm with hm | hm
    · exact hc a ha r hm d hd
    · exact absurd hd (RuleSpec.rules_ne_jump hn q f r hm d)
  | replaceAnchor a spec =>
    exact hc.replaceFirst a fun r hr d hd => hs d (RuleSpec.mem_of_rules_jump hr hd)

theorem AnchorState.Clean.foldl_edit (scs : List Script) (he : ∀ sc ∈ scs, sc.Edit t)
    (hs : ∀ sc ∈ scs, sc.SafeEdit) (hc : s.Clean l) :
    (scs.foldl (AnchorState.edit q f h l) s).Clean l := by
  induction scs generalizing s with
  | nil => exact hc
  | cons sc scs ih =>
    exact ih (fun x hx => he x (mem_cons_of_mem _ hx))
      (fun x hx => hs x (mem_cons_of_mem _ hx))
      (hc.edit (he sc mem_cons_self) (hs sc mem_cons_self))

section RunOps

variable {T : Table → Prop} (q : Platform) {m : Firewall} {st : FwState}

/-- Safe edits keep the tables clean. -/
theorem Firewall.Clean.edit (hc : m.Clean T) {acts : List Action} (ha : Runs (SafeIn T) acts) :
    (m.edit q acts).Clean T := by
  intro s hs f t ht
  obtain ⟨s', hs', rfl⟩ := map_eq_some_iff.mp hs
  exact AnchorState.Clean.foldl_edit _ (fun sc hsc => (ha f t sc hsc).1)
    (fun sc hsc => (ha f t sc hsc).2 ht) (hc s' hs' f t ht)

theorem Firewall.clean_install (m : Firewall) : (m.install q).Clean T := by
  intro s hs f t _
  rw [← some.inj hs]
  exact fresh_clean q f _

theorem Firewall.clean_uninstall (m : Firewall) : m.uninstall.Clean T := fun _ hs => nomatch hs

/-- One safe method call refines one abstract step and keeps the tables clean. -/
theorem step_refines (hr : Refines T st m) (hc : m.Clean T) {op : Op} (hs : op.Safe T) :
    Refines T (run q (op.actions q) st) (op.step q m) ∧ (op.step q m).Clean T := by
  rcases op.runs (T := T) q with rfl | rfl | ⟨hsafe, he, hstep⟩
  · exact ⟨run_install q hr hc, m.clean_install q⟩
  · exact ⟨run_uninstall q hr hc, m.clean_uninstall⟩
  · rw [hstep]
    exact ⟨run_edit q hr he, hc.edit q (hsafe hs)⟩

/-- A run of safe method calls refines the run of the abstract state. -/
theorem run_refines (ops : List Op) (hs : ∀ op ∈ ops, op.Safe T) (hr : Refines T st m)
    (hc : m.Clean T) :
    Refines T (runOps q ops st) (ops.foldl (Op.step q) m) ∧ (ops.foldl (Op.step q) m).Clean T := by
  induction ops generalizing st m with
  | nil => exact ⟨hr, hc⟩
  | cons op ops ih =>
    obtain ⟨hr', hc'⟩ := step_refines q hr hc (hs op mem_cons_self)
    exact ih (fun x hx => hs x (mem_cons_of_mem _ hx)) hr' hc'

end RunOps

end Dopamine.Linux
