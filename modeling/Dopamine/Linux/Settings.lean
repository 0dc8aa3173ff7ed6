import Dopamine.Linux.Filter

/-!
# What the firewall is set to

As long as nobody replaces the rules of a filter anchor, the filter tables are given by a few
settings: which anchors are enabled for which family, and the three lists of destinations the update
methods write. `Op.set` is what a public method does to them, and `Holds` relates them to the tables
of the kernel; `holds_runOps` carries that relation through every run.

`Holds.anchorVerdict` then gives what the anchors decide for a packet, in terms of the packet.
-/

namespace Dopamine.Linux

open Netfilter Shell LinuxFirewall Option List

variable (q : Platform)

/-- The settings of the filter tables. -/
@[ext]
structure Settings where
  enabled : Family → Anchor → Bool
  dnsServers : List String
  allowedNets : List String
  blockedNets : List String

namespace Settings

/-- The settings right after `install`. -/
def initial : Settings where
  enabled _ _ := false
  dnsServers := []
  allowedNets := []
  blockedNets := []

/-- Enable or disable an anchor for the families of `ip`. -/
def setEnabled (x : Settings) (ip : IPVersion) (a : Anchor) (on : Bool) : Settings :=
  { x with enabled := fun f b => if f ∈ ip.families ∧ b = a then on else x.enabled f b }

/-- The rule texts of an anchor. -/
def specs (x : Settings) (f : Family) : Anchor → List RuleSpec
  | .allowDNS =>
      match f with
      | .IPv4 => getDNSRules x.dnsServers
      | .IPv6 => []
  | .blockNets =>
      match f with
      | .IPv4 => getBlockRule x.blockedNets
      | .IPv6 => []
  | .allowNets => getAllowRule (allowNetsFor q f x.allowedNets)
  | a => stdRules f a

/-- The anchors of the filter table of a family. -/
def anchors (x : Settings) (f : Family) : AnchorState where
  enabled := x.enabled f
  rules a := rulesOf q f (x.specs q f a)

theorem initial_anchors (f : Family) : initial.anchors q f = fresh q f := by
  have hrules : (initial.anchors q f).rules = (fresh q f).rules := by
    funext a
    cases f <;> cases a <;> rfl
  exact congrArg (AnchorState.mk _) hrules

end Settings

/-- What a method other than `install` and `uninstall` does to the settings. -/
def Op.set (x : Settings) : Op → Settings
  | .enableAnchor ip a .filter => x.setEnabled ip a true
  | .disableAnchor ip a .filter => x.setEnabled ip a false
  | .setAnchorEnabled ip a on .filter => x.setEnabled ip a on
  | .updateDNSServers servers => { x with dnsServers := servers }
  | .updateAllowNets servers => { x with allowedNets := servers }
  | .updateBlockNets servers => { x with blockedNets := servers }
  | _ => x

/-- What a method does to the settings; there are none while the program is not installed. -/
def Op.setAll (o : Option Settings) : Op → Option Settings
  | .install => some .initial
  | .uninstall => none
  | op => o.map op.set

/-- The method replaces no rule of the filter table. -/
def Op.KeepsRules : Op → Prop
  | .replaceAnchor _ _ _ t => t ≠ .filter
  | _ => True

/-- The method neither installs nor uninstalls, nor replaces rules of the filter table. -/
def Op.Sets : Op → Bool
  | .install | .uninstall => false
  | .replaceAnchor _ _ _ t => decide (t ≠ .filter)
  | _ => true

variable {op : Op}

theorem Op.KeepsRules.of_sets (h : op.Sets = true) : op.KeepsRules := by
  cases op with
  | replaceAnchor ip a rule t =>
    have ht : t ≠ .filter := of_decide_eq_true h
    exact ht
  | _ => trivial

/-- `if (!LinuxFirewall::isInstalled()) LinuxFirewall::install();` -/
def installIfNeeded (installed : Bool) : List Op := if installed then [] else [.install]

theorem Op.KeepsRules.safe (h : op.KeepsRules) : op.Safe (· = .filter) := by
  cases op with
  | replaceAnchor ip a rule t => exact fun ht => absurd ht h
  | _ => trivial

/-! ## The scripts of a method, on the settings -/

section Scripts

variable (f : Family) (h : Host .filter) (l : List Anchor) (x : Settings)

/-- Run the filter scripts of actions on an anchor state. -/
def editFilter (acts : List Action) (s : AnchorState) : AnchorState :=
  (scriptsFor f .filter acts).foldl (AnchorState.edit q f h l) s

variable (ip : IPVersion) (a : Anchor)

theorem editFilter_execEach (t : Table) (sc : Script) (s : AnchorState) :
    editFilter q f h l (execEach ip t sc) s =
      if f ∈ ip.families ∧ t = .filter then s.edit q f h l sc else s := by
  rw [editFilter, scriptsFor_execEach]
  simp only [Reaches, decide_eq_true_eq]
  split <;> rfl

theorem setEnabled_anchors (a : Anchor) (on : Bool) :
    (if f ∈ ip.families then (x.anchors q f).setEnabled a on else x.anchors q f) =
      (x.setEnabled ip a on).anchors q f := by
  have hen : ∀ b, (x.setEnabled ip a on).enabled f b =
      if f ∈ ip.families ∧ b = a then on else x.enabled f b := fun _ => rfl
  by_cases hf : f ∈ ip.families
  · rw [if_pos hf]
    refine congrArg (AnchorState.mk · _) (funext fun b => ?_)
    rw [hen, Function.update_apply]
    simp only [hf, true_and]
    rfl
  · rw [if_neg hf]
    refine congrArg (AnchorState.mk · _) (funext fun b => ?_)
    rw [hen, if_neg fun hx => hf hx.1]

/-- Appending rule texts one by one. -/
theorem foldl_appendAnchor (rules : List RuleSpec) (s : AnchorState) :
    (rules.map (Script.appendAnchor a)).foldl (AnchorState.edit q f h l) s =
      s.setRules a (s.rules a ++ rulesOf q f rules) := by
  induction rules generalizing s with
  | nil =>
    simp only [map_nil, foldl_nil, rulesOf, flatMap_nil, append_nil,
      AnchorState.setRules, Function.update_eq_self]
  | cons spec rules ih =>
    rw [map_cons, foldl_cons, ih]
    simp only [AnchorState.edit, AnchorState.setRules, Function.update_self, Function.update_idem,
      rulesOf, flatMap_cons, append_assoc]

/-- An update of another family leaves the anchors alone; one of this family replaces the rules. -/
theorem editFilter_updateRules (f' : Family) (a : Anchor) (rules : List RuleSpec)
    (s : AnchorState) :
    editFilter q f h l (updateRules f' a rules) s =
      if f' = f then s.setRules a (rulesOf q f rules) else s := by
  have hscripts : scriptsFor f .filter (updateRules f' a rules) =
      if f' = f then .flushAnchor a :: rules.map (Script.appendAnchor a) else [] := by
    by_cases hf : f' = f
    · subst hf
      simp [scriptsFor, updateRules, filterMap_map]
    · rw [if_neg hf]
      simp [scriptsFor, updateRules, hf]
  rw [editFilter, hscripts]
  split
  · rw [foldl_cons, foldl_appendAnchor]
    simp only [AnchorState.edit, AnchorState.setRules, Function.update_self, Function.update_idem,
      nil_append]
  · rfl

/-- New rules of one anchor, when the other anchors keep their texts. -/
theorem setRules_anchors {y : Settings} (hen : y.enabled = x.enabled)
    (hsp : ∀ b, b ≠ a → y.specs q f b = x.specs q f b) :
    (x.anchors q f).setRules a (rulesOf q f (y.specs q f a)) = y.anchors q f := by
  have hrules : Function.update (x.anchors q f).rules a (rulesOf q f (y.specs q f a)) =
      (y.anchors q f).rules := by
    funext b
    rw [Function.update_apply]
    split
    · next hb => rw [hb, Settings.anchors]
    · next hb =>
      simp only [Settings.anchors, hsp b hb]
  simp only [AnchorState.setRules, hrules]
  simp only [Settings.anchors, hen]

/-- The scripts of a method do to the anchors what `Op.set` does to the settings. -/
theorem editFilter_actions {op : Op} (hk : op.KeepsRules) (hi : op ≠ .install)
    (hu : op ≠ .uninstall) :
    editFilter q f h l (op.actions q) (x.anchors q f) = (op.set x).anchors q f := by
  have hswitch : ∀ ip a on (t : Table), editFilter q f h l
      (execEach ip t (if on then .enableAnchor a else .disableAnchor a)) (x.anchors q f) =
      ((Op.setAnchorEnabled ip a on t).set x).anchors q f := by
    intro ip a on t
    rw [editFilter_execEach]
    cases t with
    | filter =>
      simp only [and_true]
      rw [Op.set, ← setEnabled_anchors]
      cases on <;> rfl
    | _ => exact if_neg fun hx => Table.noConfusion hx.2
  cases op with
  | install => exact absurd rfl hi
  | uninstall => exact absurd rfl hu
  | ensureRootAnchorPriority ip =>
    refine (editFilter_execEach q f h l ip .filter _ _).trans ?_
    split <;> rfl
  | replaceAnchor ip a rule t =>
    refine (editFilter_execEach q f h l ip t _ _).trans ?_
    exact if_neg fun hx => hk hx.2
  | enableAnchor ip a t =>
    have := hswitch ip a true t
    cases t <;> exact this
  | disableAnchor ip a t =>
    have := hswitch ip a false t
    cases t <;> exact this
  | setAnchorEnabled ip a on t =>
    have hinvoke : ∀ key acts, editFilter q f h l (acts ++ [.invoke key]) (x.anchors q f) =
        editFilter q f h l acts (x.anchors q f) := by
      intro key acts
      rw [editFilter, scriptsFor_append]
      exact congrArg (fun l' => foldl _ _ l') (append_nil _)
    cases on with
    | true => exact (hinvoke _ _).trans (hswitch ip a true t)
    | false => exact (hinvoke _ _).trans (hswitch ip a false t)
  | updateDNSServers servers =>
    refine (editFilter_updateRules q f h l .IPv4 _ _ _).trans ?_
    cases f with
    | IPv4 =>
      exact setRules_anchors q .IPv4 x (y := { x with dnsServers := servers }) .allowDNS rfl
        fun b hb => by cases b <;> first | rfl | exact absurd rfl hb
    | IPv6 => exact congrArg (AnchorState.mk _) (funext fun b => by cases b <;> rfl)
  | updateBlockNets servers =>
    refine (editFilter_updateRules q f h l .IPv4 _ _ _).trans ?_
    cases f with
    | IPv4 =>
      exact setRules_anchors q .IPv4 x (y := { x with blockedNets := servers }) .blockNets rfl
        fun b hb => by cases b <;> first | rfl | exact absurd rfl hb
    | IPv6 => exact congrArg (AnchorState.mk _) (funext fun b => by cases b <;> rfl)
  | updateAllowNets servers =>
    refine Eq.trans ?_ (setRules_anchors q f x (y := { x with allowedNets := servers }) .allowNets
      rfl fun b hb => by cases b <;> first | rfl | exact absurd rfl hb)
    show editFilter q f h l (LinuxFirewall.updateAllowNets q servers) _ = _
    rw [LinuxFirewall.updateAllowNets, editFilter, scriptsFor_append, foldl_append]
    refine (editFilter_updateRules q f h l .IPv6 _ _ _).trans ?_
    rw [← editFilter, editFilter_updateRules]
    cases f <;> rfl

end Scripts

/-! ## The settings of the kernel's tables -/

/-- The filter tables of the kernel are the ones the settings stand for. -/
def Holds (st : FwState) (o : Option Settings) : Prop :=
  ∃ m : Firewall, Refines (· = .filter) st m ∧ m.Clean (· = .filter) ∧
    m.anchors.map (fun s f => s f .filter) = o.map (Settings.anchors q)

section Holds

variable {q} {st : FwState} {o : Option Settings}

/-- Filter tables that the program has not touched. -/
theorem holds_none (host : Family → (t : Table) → Host t)
    (hst : ∀ f, st.kernel f .filter = (host f .filter).rs) : Holds q st none := by
  refine ⟨⟨host, none⟩, ?_, ?_, rfl⟩
  · rintro f t rfl
    exact hst f
  · exact fun _ hs => nomatch hs

/-- One method call. -/
theorem Holds.step (hst : Holds q st o) {op : Op} (hk : op.KeepsRules) :
    Holds q (run q (op.actions q) st) (op.setAll o) := by
  obtain ⟨m, hr, hc, ho⟩ := hst
  obtain ⟨hr', hc'⟩ := step_refines q hr hc hk.safe
  refine ⟨op.step q m, hr', hc', ?_⟩
  by_cases hi : op = .install
  · subst hi
    exact congrArg some (funext fun f => (Settings.initial_anchors q f).symm)
  by_cases hu : op = .uninstall
  · subst hu
    rfl
  have hstep : op.step q m = m.edit q (op.actions q) := by
    rcases op.runs (T := (· = .filter)) q with h | h | h
    · exact absurd h hi
    · exact absurd h hu
    · exact h.2.2 m
  have hset : op.setAll o = o.map op.set := by
    cases op with
    | install => exact absurd rfl hi
    | uninstall => exact absurd rfl hu
    | _ => rfl
  rw [hstep, hset, Firewall.edit]
  cases hm : m.anchors with
  | none =>
    rw [hm] at ho
    rw [map_eq_none_iff.mp ho.symm]
    rfl
  | some s =>
    rw [hm] at ho
    obtain ⟨x, rfl, hx⟩ := map_eq_some_iff.mp ho.symm
    refine congrArg some (funext fun f => ?_)
    have hs : s f .filter = x.anchors q f := (congrFun hx f).symm
    have hedit := editFilter_actions q f (m.host f .filter) (anchorsOf f .filter) x hk hi hu
    rw [← hs] at hedit
    exact hedit

/-- A run of method calls. -/
theorem holds_runOps (ops : List Op) (hk : ∀ op ∈ ops, op.KeepsRules) (hst : Holds q st o) :
    Holds q (runOps q ops st) (ops.foldl Op.setAll o) := by
  induction ops generalizing st o with
  | nil => exact hst
  | cons op ops ih =>
    exact ih (fun x hx => hk x (mem_cons_of_mem _ hx))
      (hst.step (hk op mem_cons_self))

theorem Holds.isInstalled (hst : Holds q st o) : LinuxFirewall.isInstalled st = o.isSome := by
  obtain ⟨m, hr, _, ho⟩ := hst
  rw [isInstalled_eq hr rfl]
  have hsome := congrArg isSome ho
  rwa [isSome_map, isSome_map] at hsome

variable {ops : List Op} {x : Settings} {a : Anchor}

/-- Calls that only change settings change those of an installed program, and nothing else. -/
theorem Holds.sets (hst : Holds q st o) (hops : ∀ op ∈ ops, op.Sets = true) :
    Holds q (runOps q ops st) (o.map fun x => ops.foldl Op.set x) := by
  have hfold : ∀ o : Option Settings,
      ops.foldl Op.setAll o = o.map fun x => ops.foldl Op.set x := by
    induction ops with
    | nil => exact fun o => map_id'.symm
    | cons op ops ih =>
      intro o
      have hop := hops op mem_cons_self
      have hone : Op.setAll o op = o.map fun x => op.set x := by
        cases op with
        | install | uninstall => cases hop
        | _ => rfl
      rw [foldl_cons, hone, ih fun op' h => hops op' (mem_cons_of_mem _ h),
        Option.map_map]
      rfl
  rw [← hfold]
  exact holds_runOps ops (fun op hop => Op.KeepsRules.of_sets (hops op hop)) hst

/-- The same after `installIfNeeded`: the program is installed, with its settings or new ones. -/
theorem Holds.installIfNeeded (hops : ∀ op ∈ ops, op.Sets = true) (hst : Holds q st o) :
    Holds q (runOps q (Linux.installIfNeeded (LinuxFirewall.isInstalled st) ++ ops) st)
      (some (ops.foldl Op.set (o.getD .initial))) := by
  rw [hst.isInstalled]
  cases o with
  | none => exact (hst.step (show Op.install.KeepsRules from trivial)).sets hops
  | some x => exact hst.sets hops

theorem family_ipVersion (f : Family) :
    (if (if f = .IPv6 then IPVersion.IPv6 else .IPv4) = .IPv6 then Family.IPv6 else .IPv4) = f := by
  cases f <;> rfl

section

variable (hst : Holds q st (some x)) (f : Family)
include hst

/-- The table of a family, when the program is installed. -/
theorem Holds.kernel :
    ∃ h : Host .filter,
      st.kernel f .filter = installed h (anchorsOf f .filter) (x.anchors q f) := by
  obtain ⟨m, hr, _, ho⟩ := hst
  obtain ⟨s, hs, hx⟩ := map_eq_some_iff.mp ho
  refine ⟨m.host f .filter, ?_⟩
  rw [hr f .filter rfl, Firewall.table, hs, ← hx]

/-- The rules of an anchor, in the kernel. -/
theorem Holds.rules_actual (ha : a ∈ anchorsOf f .filter) :
    (st.kernel f .filter).rules (.actual a) = rulesOf q f (x.specs q f a) := by
  obtain ⟨h, hk⟩ := hst.kernel f
  rw [hk, installed, Ruleset.overlay_rules_mine rfl]
  simp only [ownPart, ha, if_true, Settings.anchors]

/-- `isAnchorEnabled` tells what the settings say about an anchor of the family. -/
theorem Holds.isAnchorEnabled (ha : a ∈ anchorsOf f .filter) :
    LinuxFirewall.isAnchorEnabled (if f = .IPv6 then .IPv6 else .IPv4) a .filter st =
      x.enabled f a := by
  obtain ⟨h, hk⟩ := hst.kernel f
  have hrules : (installed h (anchorsOf f .filter) (x.anchors q f)).rules (.placeholder a) =
      if x.enabled f a then [jumpTo (.actual a)] else [] := by
    rw [installed, Ruleset.overlay_rules_mine rfl]
    simp only [ownPart, ha, true_and, Settings.anchors]
  rw [LinuxFirewall.isAnchorEnabled, family_ipVersion, hk]
  cases hen : x.enabled f a with
  | true =>
    refine check_jumpTo.mpr ⟨⟨?_, ?_⟩, ?_⟩
    · exact mem_append_right _ (placeholder_mem_ownPart.mpr ha)
    · exact mem_append_right _ (actual_mem_ownPart.mpr ha)
    · rw [hrules, hen, if_pos rfl]
      exact mem_singleton_self _
  | false =>
    refine check_jumpTo_eq_false fun hx => ?_
    have hm := hx.2
    rw [hrules, hen, if_neg (by decide)] at hm
    exact not_mem_nil hm

/-- An anchor of another family or table is never found enabled. -/
theorem Holds.isAnchorEnabled_of_not_mem (ha : a ∉ anchorsOf f .filter) :
    LinuxFirewall.isAnchorEnabled (if f = .IPv6 then .IPv6 else .IPv4) a .filter st = false := by
  obtain ⟨h, hk⟩ := hst.kernel f
  rw [LinuxFirewall.isAnchorEnabled, family_ipVersion, hk]
  refine check_jumpTo_eq_false fun hx => ?_
  have hm := hx.2
  rw [installed, Ruleset.overlay_rules_mine rfl] at hm
  simp only [ownPart, ha, false_and, if_false] at hm
  exact not_mem_nil hm

end

/-- Without the program, a table is the host's, which has no rule in a chain of the program. -/
theorem Holds.rules_eq_nil (hst : Holds q st none) (f : Family) {c : Chain} (hc : c.own = true) :
    (st.kernel f .filter).rules c = [] := by
  obtain ⟨m, hr, _, ho⟩ := hst
  have hm : m.anchors = none := map_eq_none_iff.mp ho
  rw [hr f .filter rfl, Firewall.table, hm]
  refine (m.host f .filter).rs.rules_eq_nil c fun hmem => ?_
  rw [(m.host f .filter).foreign c hmem] at hc
  cases hc

/-- The states that calls of public methods lead to, from filter tables that hold no chain of the
program. -/
def Reached (q : Platform) (st : FwState) : Prop :=
  ∃ (host : Family → (t : Table) → Host t) (start : FwState) (ops : List Op),
    (∀ f, start.kernel f .filter = (host f .filter).rs) ∧ (∀ op ∈ ops, op.KeepsRules) ∧
      st = runOps q ops start

theorem Reached.holds (hst : Reached q st) : ∃ o, Holds q st o := by
  obtain ⟨host, start, ops, hstart, hk, rfl⟩ := hst
  exact ⟨_, holds_runOps ops hk (holds_none host hstart)⟩

end Holds

/-! ## What an anchor decides -/

/-- The verdict of the rules of a filter anchor. -/
def Anchor.action : Anchor → Verdict
  | .blockDNS | .blockIPv6 | .blockNets | .blockAll => .reject
  | _ => .accept

namespace Packet

variable (p : Packet)

/-- The packet leaves on a loopback interface. -/
def isLoopback : Bool := ifaceMatches "lo+" p.iface

/-- The packet leaves on an interface named as a tunnel. -/
def isTunnel : Bool := ["frkn0+", "tun0+", "tun2+"].any fun i => ifaceMatches i p.iface

/-- UDP or TCP to port 53. -/
def isDNS : Bool := (p.proto == .udp || p.proto == .tcp) && p.dport == 53

/-- The destination is in the ranges of `300.allowLAN`. -/
def inLAN : Bool := (lanNets p.dst.family).any fun n => n.2.contains p.dst

/-- A request to a DHCP server. -/
def isDHCP : Bool :=
  p.proto == .udp &&
    match p.dst.family with
    | .IPv4 => (net4 255 255 255 255 32).contains p.dst && p.sport == 68 && p.dport == 67
    | .IPv6 => (net6 0xff00 8).contains p.dst && p.sport == 546 && p.dport == 547

/-- The destination is in a network that one of the `-d` arguments denotes. -/
def isTo (q : Platform) (servers : List String) : Bool :=
  servers.any fun server => (readDst q p.dst.family server).any fun n => n.contains p.dst

end Packet

/-- The packet meets a rule of the anchor. -/
def Settings.hits (x : Settings) (p : Packet) : Anchor → Bool
  | .allowLoopback => p.isLoopback
  | .allowDNS => p.isTunnel && p.isDNS && p.isTo q x.dnsServers
  | .blockDNS => p.isDNS
  | .allowLAN => p.inLAN
  | .allowDHCP => p.isDHCP
  | .blockIPv6 => !p.isLoopback
  | .allowVPN => p.isTunnel
  | .blockNets => p.isTo q x.blockedNets
  | .allowNets => p.isTo q (allowNetsFor q p.dst.family x.allowedNets)
  | .blockAll => true
  | _ => false

section Decides

variable {q} {f : Family}

/-- The target of a rule is the one its text names. -/
theorem RuleSpec.target_eq {spec : RuleSpec} {r : FilterRule} (hr : r ∈ spec.rules q f) :
    r.target = (spec.foldl Opt.apply bareRule).target := by
  unfold RuleSpec.rules at hr
  split at hr
  · rw [mem_singleton.mp hr]
  · obtain ⟨n, _, rfl⟩ := mem_map.mp hr
    rfl

variable {a : Anchor} (x : Settings) (p : Packet)

theorem Settings.specs_target (ha : a ∈ anchorsOf f .filter) :
    ∀ spec ∈ x.specs q f a,
      (spec.foldl Opt.apply bareRule).target = .verdict a.action := by
  intro spec hs
  cases a with
  | allowDNS =>
    cases f with
    | IPv4 =>
      obtain ⟨server, _, hs⟩ := mem_flatMap.mp hs
      simp only [mem_cons, not_mem_nil, or_false] at hs
      rcases hs with rfl | rfl | rfl | rfl | rfl | rfl <;> rfl
    | IPv6 => cases hs
  | blockNets =>
    cases f with
    | IPv4 =>
      obtain ⟨server, _, rfl⟩ := mem_map.mp hs
      rfl
    | IPv6 => cases hs
  | allowNets =>
    obtain ⟨server, _, rfl⟩ := mem_map.mp hs
    rfl
  | allowLAN =>
    obtain ⟨n, _, rfl⟩ := mem_map.mp hs
    rfl
  | transIp | tagPkts | vpnTunOnly | allowPIA =>
    -- these are no anchors of the filter table
    exact absurd ha (by cases f <;> decide)
  | _ =>
    cases f <;>
      simp only [Settings.specs, stdRules, mem_cons, not_mem_nil, or_false] at hs
    all_goals
      first
        | (rw [hs]; rfl)
        | (rcases hs with rfl | rfl <;> rfl)
        | (rcases hs with rfl | rfl | rfl <;> rfl)

/-- A rule text with a destination: the rest of its condition, and one of the networks. -/
theorem any_rules_dst (spec : RuleSpec) (x : Dst) (hs : spec.findSome? Opt.dst? = some x)
    (hd : (spec.foldl Opt.apply bareRule).cond.dst = none) :
    (spec.rules q f).any (fun r => p.sat r.cond) =
      (p.sat (spec.foldl Opt.apply bareRule).cond &&
        (x.nets q f).any fun n => n.contains p.dst) := by
  have hsat : ∀ n : Net, p.sat { (spec.foldl Opt.apply bareRule).cond with dst := some n } =
      (p.sat (spec.foldl Opt.apply bareRule).cond && n.contains p.dst) := by
    intro n
    simp only [Packet.sat, hd, all_none, all_some]
    cases n.contains p.dst <;> simp
  simp only [RuleSpec.rules, hs, List.any_map]
  induction x.nets q f with
  | nil => simp
  | cons n l ih =>
    simp only [any_cons, ih, Function.comp_apply, hsat]
    cases p.sat (spec.foldl Opt.apply bareRule).cond <;> simp

/-- A rule text without a destination. -/
theorem any_rules (spec : RuleSpec) (hs : spec.findSome? Opt.dst? = none) :
    (spec.rules q f).any (fun r => p.sat r.cond) =
      p.sat (spec.foldl Opt.apply bareRule).cond := by
  simp only [RuleSpec.rules, hs, any_cons, any_nil, Bool.or_false]

/-- A rule text that only names the outgoing interface. -/
theorem any_rules_out (i : String) (v : Verdict) :
    (RuleSpec.rules q f [.out i, .jump v]).any (fun r => p.sat r.cond) =
      ifaceMatches i p.iface := by
  rw [any_rules p _ rfl]
  simp [Opt.apply, bareRule, Packet.sat]

/-- A network written in the program only matches packets of its own family. -/
theorem any_nets_lit (text : String) (n : Net) :
    ((Dst.lit text n).nets q p.dst.family).any (fun n => n.contains p.dst) =
      n.contains p.dst := by
  simp only [Dst.nets]
  split
  · simp only [any_cons, any_nil, Bool.or_false]
  · next hf =>
    rw [any_nil]
    cases hd : p.dst <;> cases hb : n.base <;> rw [hd, hb] at hf <;>
      first
        | exact absurd rfl hf
        | simp only [Net.contains, hb]

theorem any_rulesOf (specs : List RuleSpec) (p : Packet) :
    (rulesOf q f specs).any (fun r => p.sat r.cond) =
      specs.any fun spec => (RuleSpec.rules q f spec).any fun r => p.sat r.cond :=
  any_flatMap

/-- The rules for one server in `320.allowDNS`. -/
theorem any_getDNSRules (server : String) :
    ((getDNSRules [server]).any fun spec => (RuleSpec.rules q f spec).any fun r => p.sat r.cond) =
      (p.isTunnel && p.isDNS && (readDst q f server).any fun n => n.contains p.dst) := by
  have hone : ∀ i x,
      (RuleSpec.rules q f [.out i, .dst (.text server), .proto x, .dport 53, .jump .accept]).any
        (fun r => p.sat r.cond) =
      (ifaceMatches i p.iface && x == p.proto && 53 == p.dport &&
        (readDst q f server).any fun n => n.contains p.dst) := by
    intro i x
    rw [any_rules_dst p _ (.text server) rfl rfl]
    simp [Opt.apply, bareRule, Packet.sat, Dst.nets]
  simp only [getDNSRules, flatMap_cons, flatMap_nil, append_nil, any_cons,
    any_nil, hone, Packet.isTunnel, Packet.isDNS]
  rw [BEq.comm (a := Proto.udp), BEq.comm (a := Proto.tcp), BEq.comm (a := 53)]
  generalize (readDst q f server).any _ = e
  cases e <;> cases p.proto == .udp <;> cases p.proto == .tcp <;> cases p.dport == 53 <;> simp

/-- The packet meets a rule of the anchor exactly when it is of the kind the anchor is about. -/
theorem Settings.any_specs (p : Packet) (ha : a ∈ anchorsOf p.dst.family .filter) :
    (rulesOf q p.dst.family (x.specs q p.dst.family a)).any (fun r => p.sat r.cond) =
      x.hits q p a := by
  -- `320.allowDNS` and `120.blockNets` are only installed for IPv4
  have hv4 : a = .allowDNS ∨ a = .blockNets → p.dst.family = .IPv4 := by
    intro h
    cases hd : p.dst.family with
    | IPv4 => rfl
    | IPv6 =>
      rw [hd] at ha
      rcases h with rfl | rfl <;> exact absurd ha (by decide)
  have hdst : ∀ (server : String) (v : Verdict),
      (RuleSpec.rules q p.dst.family [.dst (.text server), .jump v]).any (fun r => p.sat r.cond) =
        (readDst q p.dst.family server).any fun n => n.contains p.dst := by
    intro server v
    rw [any_rules_dst p _ (.text server) rfl rfl]
    simp [Opt.apply, bareRule, Packet.sat, Dst.nets]
  rw [any_rulesOf]
  cases a with
  | allowDNS =>
    have hspecs : x.specs q p.dst.family .allowDNS =
        x.dnsServers.flatMap fun server => getDNSRules [server] := by
      simp only [Settings.specs, hv4 (.inl rfl), getDNSRules, flatMap_singleton]
    rw [hspecs, any_flatMap]
    simp only [any_getDNSRules, Settings.hits, Packet.isTo]
    induction x.dnsServers with
    | nil => simp
    | cons server l ih =>
      cases p.isTunnel <;> cases p.isDNS <;> simp
  | blockNets =>
    have hspecs : x.specs q p.dst.family .blockNets = getBlockRule x.blockedNets := by
      simp only [Settings.specs, hv4 (.inr rfl)]
    rw [hspecs, getBlockRule, List.any_map]
    exact congrArg _ (funext fun server => hdst server .reject)
  | allowNets =>
    rw [show x.specs q p.dst.family .allowNets = getAllowRule _ from rfl, getAllowRule,
      List.any_map]
    exact congrArg _ (funext fun server => hdst server .accept)
  | allowLAN =>
    rw [show x.specs q p.dst.family .allowLAN = (lanNets p.dst.family).map _ from rfl, List.any_map]
    refine congrArg _ (funext fun n => ?_)
    refine (any_rules_dst p _ (.lit n.1 n.2) rfl rfl).trans ?_
    rw [any_nets_lit]
    simp [Opt.apply, bareRule, Packet.sat]
  | allowDHCP =>
    have hone : ∀ text n sp dp, (RuleSpec.rules q p.dst.family
        [.proto .udp, .dst (.lit text n), .sport sp, .dport dp, .jump .accept]).any
          (fun r => p.sat r.cond) =
        (p.proto == .udp && (n.contains p.dst && p.sport == sp && p.dport == dp)) := by
      intro text n sp dp
      rw [any_rules_dst p _ (.lit text n) rfl rfl, any_nets_lit, BEq.comm (a := p.proto),
        BEq.comm (a := p.sport), BEq.comm (a := p.dport)]
      simp only [foldl_cons, foldl_nil, Opt.apply, bareRule, Packet.sat, all_none,
        all_some, all_nil, Bool.true_and, Bool.and_true]
      cases n.contains p.dst <;> simp [Bool.and_assoc]
    simp only [Settings.hits, Packet.isDHCP]
    cases hd : p.dst.family <;> rw [hd] at hone <;>
      simp only [Settings.specs, stdRules, any_cons, any_nil, hone, Bool.or_false]
  | transIp | tagPkts | vpnTunOnly | allowPIA =>
    exact absurd ha (by cases p.dst.family <;> decide)
  | allowLoopback =>
    simp only [Settings.specs, stdRules, any_cons, any_nil, any_rules_out, Bool.or_false]
    rfl
  | allowVPN =>
    simp only [Settings.specs, stdRules, any_cons, any_nil, any_rules_out]
    rfl
  | blockIPv6 =>
    simp only [Settings.specs, stdRules, any_cons, any_nil, Bool.or_false]
    rw [any_rules p _ rfl]
    simp [Opt.apply, bareRule, Packet.sat, Settings.hits, Packet.isLoopback]
  | blockDNS =>
    simp only [Settings.specs, stdRules, any_cons, any_nil, Bool.or_false]
    rw [any_rules p _ rfl, any_rules p _ rfl]
    simp only [foldl_cons, foldl_nil, Opt.apply, bareRule, Packet.sat, all_none,
      all_some, all_nil, Bool.true_and, Bool.and_true, Settings.hits, Packet.isDNS]
    rw [BEq.comm (a := p.proto), BEq.comm (a := p.proto), BEq.comm (a := p.dport),
      Bool.and_or_distrib_right]
  | blockAll =>
    exact sat_empty p

end Decides

/-! ## The verdict of a state -/

/-- What one anchor decides for a packet. -/
def Settings.decides (x : Settings) (p : Packet) (a : Anchor) : Option Verdict :=
  if x.enabled p.dst.family a && x.hits q p a then some a.action else none

/-- What the anchors decide for a packet: the first enabled one that the packet meets. -/
def Settings.verdict (x : Settings) (p : Packet) : Option Verdict :=
  (anchorsOf p.dst.family .filter).findSome? (x.decides q p)

/-- What the composed anchors decide for a packet that enters the root chain. -/
def FwState.anchorVerdict (st : FwState) (p : Packet) : Option Verdict :=
  (st.kernel p.dst.family .filter).verdict p.sat .root

/-- What the filter table decides for an outgoing packet. -/
def FwState.verdict (st : FwState) (p : Packet) : Option Verdict :=
  (st.kernel p.dst.family .filter).verdict p.sat .output

section StateVerdict

variable {q} {st : FwState} {x : Settings} (p : Packet) {a : Anchor}

theorem Settings.decides_eq_none (h : x.hits q p a = false) : x.decides q p a = none := by
  rw [Settings.decides, h, Bool.and_false]
  rfl

theorem Settings.decides_eq_none_of_disabled (h : x.enabled p.dst.family a = false) :
    x.decides q p a = none := by
  rw [Settings.decides, h, Bool.false_and]
  rfl

theorem Settings.decides_eq_some (he : x.enabled p.dst.family a = true)
    (hh : x.hits q p a = true) : x.decides q p a = some a.action := by
  rw [Settings.decides, he, hh]
  rfl

/-- A blocking anchor rejects, or leaves the packet to the next. -/
theorem Settings.decides_block (ha : a.action = .reject) :
    x.decides q p a = none ∨ x.decides q p a = some .reject := by
  rw [Settings.decides, ha]
  split
  · exact .inr rfl
  · exact .inl rfl

theorem findSome?_eq_foldr {α β : Type*} (g : α → Option β) (l : List α) :
    l.findSome? g = l.foldr (fun a r => (g a).or r) none := by
  induction l with
  | nil => rfl
  | cons a l ih =>
    rw [findSome?_cons, foldr_cons, ← ih]
    cases g a <;> rfl

/-- The anchors of IPv4, in order. -/
theorem Settings.verdict_v4 {p : Packet} (hf : p.dst.family = .IPv4) :
    x.verdict q p = (x.decides q p .allowLoopback).or ((x.decides q p .allowDNS).or
      ((x.decides q p .blockDNS).or ((x.decides q p .allowLAN).or ((x.decides q p .allowDHCP).or
        ((x.decides q p .allowVPN).or ((x.decides q p .blockNets).or ((x.decides q p .allowNets).or
          ((x.decides q p .blockAll).or none)))))))) := by
  rw [Settings.verdict, hf, findSome?_eq_foldr]
  rfl

/-- The anchors of IPv6, in order. -/
theorem Settings.verdict_v6 {p : Packet} (hf : p.dst.family = .IPv6) :
    x.verdict q p = (x.decides q p .allowLoopback).or ((x.decides q p .blockDNS).or
      ((x.decides q p .allowLAN).or ((x.decides q p .allowDHCP).or ((x.decides q p .blockIPv6).or
        ((x.decides q p .allowVPN).or ((x.decides q p .allowNets).or
          ((x.decides q p .blockAll).or none))))))) := by
  rw [Settings.verdict, hf, findSome?_eq_foldr]
  rfl

theorem Settings.flat (x : Settings) (f : Family) : (x.anchors q f).Flat (anchorsOf f .filter) := by
  intro a ha r hr c hc
  obtain ⟨spec, hspec, hr⟩ := mem_flatMap.mp hr
  rw [RuleSpec.target_eq hr, x.specs_target ha spec hspec] at hc
  cases hc

theorem Settings.decides_eq (ha : a ∈ anchorsOf p.dst.family .filter) :
    (x.anchors q p.dst.family).decides p a = x.decides q p a := by
  have htarget : ∀ r ∈ rulesOf q p.dst.family (x.specs q p.dst.family a),
      r.target = .verdict a.action := by
    intro r hr
    obtain ⟨spec, hspec, hr⟩ := mem_flatMap.mp hr
    rw [RuleSpec.target_eq hr, x.specs_target ha spec hspec]
  have heval := evalRules_const p.sat (fun _ => none) _ htarget
  rw [x.any_specs p ha] at heval
  simp only [AnchorState.decides, Settings.anchors, heval, Settings.decides]
  cases x.enabled p.dst.family a <;> simp

theorem Settings.anchors_verdict :
    (x.anchors q p.dst.family).verdict (anchorsOf p.dst.family .filter) p = x.verdict q p := by
  have hcongr : ∀ l : List Anchor, (∀ a ∈ l, a ∈ anchorsOf p.dst.family .filter) →
      l.findSome? ((x.anchors q p.dst.family).decides p) = l.findSome? (x.decides q p) := by
    intro l
    induction l with
    | nil => exact fun _ => rfl
    | cons a l ih =>
      intro hl
      rw [findSome?_cons, findSome?_cons,
        Settings.decides_eq p (hl a mem_cons_self),
        ih fun b hb => hl b (mem_cons_of_mem _ hb)]
  exact hcongr _ fun _ ha => ha

theorem anchorsOf_ne_nil (f : Family) : anchorsOf f .filter ≠ [] := by
  cases f <;> exact nofun

/-- The composed anchors decide as the settings say. -/
theorem Holds.anchorVerdict (hst : Holds q st (some x)) : st.anchorVerdict p = x.verdict q p := by
  obtain ⟨h, hk⟩ := hst.kernel p.dst.family
  rw [FwState.anchorVerdict, hk, verdict_root h p (x.flat _) (anchorsOf_ne_nil _),
    Settings.anchors_verdict]

/-- What the composed anchors decide, the filter table decides. -/
theorem Holds.verdict (hst : Holds q st (some x)) {v : Verdict} (hv : x.verdict q p = some v) :
    st.verdict p = some v := by
  obtain ⟨h, hk⟩ := hst.kernel p.dst.family
  rw [FwState.verdict, hk]
  refine verdict_installed h p (x.flat _) (anchorsOf_ne_nil _) ?_
  rw [Settings.anchors_verdict, hv]

end StateVerdict

end Dopamine.Linux
