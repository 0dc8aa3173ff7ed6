import Dopamine.Linux.KillSwitchFilter
import Dopamine.Trace.Runs
import Mathlib.Tactic.FinCases

/-!
# Strict mode

In strict mode the service is to block all traffic while no tunnel is up. Two calls get there:
`disableKillSwitch`, which switches every accepting anchor off, and `refresh`, which only adds the
blocking ones. Over every run of the service's methods, the first closes the filter, and the second
does so exactly when no accepting anchor is left from before (`strict_blocks_all_iff`).

The invariant of the runs is `Tidy`: the accepting anchors are all on or all off.
-/

namespace Dopamine.Linux

open Netfilter Shell LinuxFirewall KillSwitch List Option Settings

/-- The service after calls, from its start on tables `start`. -/
def serviceRun (q : Platform) (calls : List Call) (start : FwState) (strict : Bool) : Service :=
  Trace.run (Call.run q) (KillSwitch.init q ⟨start, strict, []⟩) calls

/-! ## The invariant of the runs -/

/-- The anchors that let traffic of a connection out, apart from `110.allowNets`. -/
def openAnchors : List (Family × Anchor) :=
  [(.IPv4, .allowLAN), (.IPv6, .allowLAN), (.IPv4, .allowDHCP), (.IPv6, .allowDHCP),
    (.IPv4, .allowVPN), (.IPv4, .allowDNS)]

/-- The accepting anchors are all on or all off; when they are off, so is `120.blockNets`. -/
structure Tidy (x : Settings) : Prop where
  same : ∀ e ∈ openAnchors, x.enabled e.1 e.2 = x.enabled .IPv4 .allowLAN
  nets : x.enabled .IPv4 .allowLAN = false → x.enabled .IPv4 .blockNets = false

/-- The firewall has tidy settings, and in strict mode it is installed. -/
def ServiceInv (q : Platform) (s : Service) : Prop :=
  ∃ o, Holds q s.fw o ∧ (s.strict = true → o.isSome = true) ∧ ∀ x ∈ o, Tidy x

section Inv

variable {q : Platform} {s : Service} {x : Settings} {e : Family × Anchor} {o : Option Settings}

theorem enabled_blockSettings (he : e ∈ openAnchors) :
    (blockSettings x).enabled e.1 e.2 = x.enabled e.1 e.2 := by
  fin_cases he <;> rfl

theorem enabled_rangeSettings (ranges : List String) (he : e ∈ openAnchors) :
    (rangeSettings ranges x).enabled e.1 e.2 = x.enabled e.1 e.2 := by
  fin_cases he <;> rfl

theorem enabled_strictSettings (he : e ∈ openAnchors) :
    (strictSettings x).enabled e.1 e.2 = false := by
  fin_cases he <;> rfl

theorem enabled_enableSettings (configStr : JsonObject) (he : e ∈ openAnchors) :
    (enableSettings configStr x).enabled e.1 e.2 = true := by
  fin_cases he <;> rfl

theorem tidy_initial : Tidy .initial := ⟨fun _ _ => rfl, fun _ => rfl⟩

theorem Tidy.block (h : Tidy x) : Tidy (blockSettings x) :=
  ⟨fun e he => (enabled_blockSettings he).trans (h.same e he), h.nets⟩

theorem Tidy.range (h : Tidy x) (ranges : List String) : Tidy (rangeSettings ranges x) :=
  ⟨fun e he => (enabled_rangeSettings ranges he).trans (h.same e he), h.nets⟩

theorem tidy_strict (x : Settings) : Tidy (strictSettings x) :=
  ⟨fun _ he => enabled_strictSettings he, fun _ => rfl⟩

theorem tidy_enable (configStr : JsonObject) (x : Settings) : Tidy (enableSettings configStr x) :=
  ⟨fun _ he => enabled_enableSettings configStr he, fun h => nomatch h⟩

theorem tidy_getD (ho : ∀ x ∈ o, Tidy x) : Tidy (o.getD .initial) := by
  cases o with
  | none => exact tidy_initial
  | some x => exact ho x rfl

/-- `disableAllTraffic` installs the firewall, whatever the stored mode. -/
theorem serviceInv_disableAllTraffic (ho : Holds q s.fw o) (htidy : ∀ x ∈ o, Tidy x) :
    ServiceInv q (KillSwitch.disableAllTraffic q s) := by
  refine ⟨_, holds_disableAllTraffic ho, fun _ => rfl, fun x hx => ?_⟩
  rw [← some.inj hx]
  exact (tidy_getD htidy).block

theorem ServiceInv.disableKillSwitch (h : ServiceInv q s) :
    ServiceInv q (KillSwitch.disableKillSwitch q s) := by
  obtain ⟨o, ho, hstrict, htidy⟩ := h
  refine ⟨_, holds_disableKillSwitch ho, fun hs => ?_, fun x hx => ?_⟩
  · have hs : s.strict = true := hs
    rw [hs, if_pos rfl, isSome_map]
    exact hstrict hs
  · split at hx
    · obtain ⟨y, _, rfl⟩ := map_eq_some_iff.mp hx
      exact tidy_strict y
    · cases hx

/-- New ranges change neither the strict mode nor the anchors that count. -/
theorem ServiceInv.resetAllowedRange (h : ServiceInv q s) (ranges : List String) :
    ServiceInv q (KillSwitch.resetAllowedRange q ranges s) := by
  obtain ⟨o, ho, hstrict, htidy⟩ := h
  refine ⟨_, holds_resetAllowedRange ho ranges, fun hs => ?_, fun x hx => ?_⟩
  · rw [isSome_map]
    exact hstrict hs
  · obtain ⟨y, hy, rfl⟩ := map_eq_some_iff.mp hx
    exact (htidy y hy).range ranges

/-- One call keeps the invariant. -/
theorem ServiceInv.call (h : ServiceInv q s) (c : Call) : ServiceInv q (c.run q s) := by
  cases c with
  | enableKillSwitch configStr =>
    obtain ⟨o, ho, _, _⟩ := h
    refine ⟨_, holds_enableKillSwitch ho configStr, fun _ => rfl, fun x hx => ?_⟩
    rw [← some.inj hx]
    exact tidy_enable configStr _
  | disableKillSwitch => exact h.disableKillSwitch
  | refresh enabled =>
    obtain ⟨o, ho, _, htidy⟩ := h
    cases enabled with
    | true => exact serviceInv_disableAllTraffic (s := { s with strict := true }) ho htidy
    | false =>
      have h' : ServiceInv q { s with strict := false } :=
        ⟨o, ho, fun hs => Bool.noConfusion hs, htidy⟩
      exact h'.disableKillSwitch
  | resetAllowedRange ranges => exact h.resetAllowedRange ranges
  | addAllowedRange ranges =>
    have h' : ServiceInv q { s with allowedRanges := addRanges ranges s.allowedRanges } := h
    exact h'.resetAllowedRange _

/-- The invariant holds after every run. -/
theorem serviceInv_run (host : Family → (t : Table) → Host t) {start : FwState}
    (hstart : ∀ f, start.kernel f .filter = (host f .filter).rs) (calls : List Call)
    (strict : Bool) : ServiceInv q (serviceRun q calls start strict) := by
  have hinit : ServiceInv q (KillSwitch.init q ⟨start, strict, []⟩) := by
    have hnone := holds_none (q := q) host hstart
    have htidy : ∀ x ∈ (none : Option Settings), Tidy x :=
      fun x hx => nomatch hx
    cases strict with
    | true => exact serviceInv_disableAllTraffic hnone htidy
    | false => exact ⟨none, hnone, fun hs => Bool.noConfusion hs, htidy⟩
  exact Trace.run_invariant (fun s c h => h.call c) hinit calls

end Inv

/-! ## A closed filter -/

/-- Nothing is accepted apart from loopback and `110.allowNets`. -/
structure Closed (x : Settings) : Prop where
  off : ∀ e ∈ openAnchors, x.enabled e.1 e.2 = false
  blockAll : ∀ f, x.enabled f .blockAll = true
  blockIPv6 : x.enabled .IPv6 .blockIPv6 = true

/-- Every IPv4 packet that meets an enabled `110.allowNets` goes to one of the ranges. -/
def AllowsOnly (q : Platform) (ranges : List String) (x : Settings) : Prop :=
  x.enabled .IPv4 .allowNets = true → ∀ p : Packet, p.dst.family = .IPv4 →
    p.isTo q (allowNetsFor q .IPv4 x.allowedNets) = true → p.isTo q ranges = true

section Closed

variable {q : Platform} {s : Service} {x : Settings} {p : Packet} {ranges known : List String}

/-- A closed filter rejects every packet that is not loopback, apart from what `110.allowNets` lets
out over IPv4. -/
theorem Closed.verdict (h : Closed x) (ha : AllowsOnly q ranges x) (hlo : p.isLoopback = false) :
    x.verdict q p = some .reject ∨ p.dst.family = .IPv4 ∧ p.isTo q ranges = true := by
  have hoff : ∀ a, (p.dst.family, a) ∈ openAnchors → x.decides q p a = none :=
    fun a he => decides_eq_none_of_disabled p (h.off _ he)
  have hall : x.decides q p .blockAll = some .reject :=
    decides_eq_some p (h.blockAll _) rfl
  cases hf : p.dst.family with
  | IPv6 =>
    have hv6 : x.decides q p .blockIPv6 = some .reject :=
      decides_eq_some p (by rw [hf]; exact h.blockIPv6)
        (by simp only [Settings.hits, hlo, Bool.not_false])
    rw [hf] at hoff
    rw [verdict_v6 hf, decides_eq_none p (a := .allowLoopback) hlo,
      hoff .allowLAN (by decide), hoff .allowDHCP (by decide), hv6]
    left
    rcases decides_block (q := q) (x := x) p (a := .blockDNS) rfl with hd | hd <;>
      rw [hd] <;> rfl
  | IPv4 =>
    rw [hf] at hoff
    rw [verdict_v4 hf, decides_eq_none p (a := .allowLoopback) hlo,
      hoff .allowDNS (by decide), hoff .allowLAN (by decide), hoff .allowDHCP (by decide),
      hoff .allowVPN (by decide), hall]
    by_cases hnets : x.enabled .IPv4 .allowNets = true ∧
        p.isTo q (allowNetsFor q .IPv4 x.allowedNets) = true
    · exact .inr ⟨rfl, ha hnets.1 p hf hnets.2⟩
    · left
      have hno : x.decides q p .allowNets = none := by
        rw [Settings.decides, hf, Settings.hits, hf, if_neg]
        rwa [Bool.and_eq_true]
      rw [hno]
      rcases decides_block (q := q) (x := x) p (a := .blockDNS) rfl with hd | hd <;>
        rcases decides_block (q := q) (x := x) p (a := .blockNets) rfl with hn | hn <;>
          rw [hd, hn] <;> rfl

theorem Closed.range (h : Closed x) (ranges : List String) : Closed (rangeSettings ranges x) := by
  refine ⟨fun e he => (enabled_rangeSettings ranges he).trans (h.off e he), fun f => ?_,
    h.blockIPv6⟩
  have hall := h.blockAll f
  cases f <;> exact hall

theorem isTo_mono {l l' : List String} (hl : ∀ r ∈ l, r ∈ l') (h : p.isTo q l = true) :
    p.isTo q l' = true := by
  obtain ⟨r, hr, hto⟩ := any_eq_true.mp h
  exact any_eq_true.mpr ⟨r, hl r hr, hto⟩

theorem mem_of_mem_addRanges {r : String} (h : r ∈ addRanges ranges known) :
    r ∈ known ∨ r ∈ ranges := by
  induction ranges generalizing known with
  | nil => exact .inl h
  | cons range ranges ih =>
    rcases ih h with h | h
    · dsimp only at h
      split at h
      · rcases mem_append.mp h with h | h
        · exact .inl h
        · exact .inr (mem_singleton.mp h ▸ mem_cons_self)
      · exact .inl h
    · exact .inr (mem_cons_of_mem _ h)

/-- Ranges that are added to a closed filter are the only ones it lets out. -/
theorem closed_addAllowedRanges (lists : List (List String)) (hst : Holds q s.fw (some x))
    (hc : Closed x) (ha : AllowsOnly q known x) (hknown : ∀ r ∈ s.allowedRanges, r ∈ known) :
    ∃ y, Holds q (addAllowedRanges q lists s).fw (some y) ∧ Closed y ∧
      AllowsOnly q (known ++ lists.flatten) y := by
  induction lists generalizing s x known with
  | nil =>
    rw [flatten_nil, append_nil]
    exact ⟨x, hst, hc, ha⟩
  | cons ranges lists ih =>
    have hmem : ∀ r ∈ addRanges ranges s.allowedRanges, r ∈ known ++ ranges := by
      intro r hr
      rcases mem_of_mem_addRanges hr with hr | hr
      · exact mem_append_left _ (hknown r hr)
      · exact mem_append_right _ hr
    have hallow : AllowsOnly q (known ++ ranges)
        (rangeSettings (addRanges ranges s.allowedRanges) x) :=
      fun _ p _ hto => isTo_mono (fun r hr => hmem r (mem_filter.mp hr).1) hto
    have hrest := ih (s := addAllowedRange q ranges s) (holds_addAllowedRange hst ranges)
      (hc.range _) hallow hmem
    rw [flatten_cons, ← append_assoc]
    exact hrest

end Closed

/-! ## The two ways into strict mode -/

/-- Every packet that is not loopback is rejected, and still is after `addAllowedRange` calls, apart
from IPv4 packets to the ranges of these calls. -/
def StrictlyBlocks (q : Platform) (s : Service) : Prop :=
  ∀ (lists : List (List String)) (p : Packet), p.isLoopback = false →
    (addAllowedRanges q lists s).fw.anchorVerdict p = some .reject ∨
      p.dst.family = .IPv4 ∧ p.isTo q lists.flatten = true

section Strict

variable {q : Platform} {s : Service} {x : Settings}

theorem strictlyBlocks_of_closed (hst : Holds q s.fw (some x)) (hc : Closed x)
    (ha : AllowsOnly q [] x) (hr : s.allowedRanges = []) : StrictlyBlocks q s := by
  intro lists p hlo
  obtain ⟨y, hy, hclosed, hallow⟩ := closed_addAllowedRanges lists hst hc ha
    (by rw [hr]; exact fun r h => h)
  rw [hy.anchorVerdict p]
  exact hclosed.verdict hallow hlo

theorem closed_strict (x : Settings) : Closed (strictSettings x) :=
  ⟨fun _ he => enabled_strictSettings he, fun f => by cases f <;> rfl, rfl⟩

theorem Tidy.closed_block (h : Tidy x) (hlan : x.enabled .IPv4 .allowLAN = false) :
    Closed (blockSettings x) := by
  refine ⟨fun e he => ?_, fun f => by cases f <;> rfl, rfl⟩
  rw [h.block.same e he]
  exact hlan

/-- Without rules in `110.allowNets`, or with the anchor off, no range is let out. -/
theorem allowsOnly_nil (h : x.enabled .IPv4 .allowNets = false ∨
    rulesOf q .IPv4 (x.specs q .IPv4 .allowNets) = []) : AllowsOnly q [] x := by
  intro hen p hf hto
  rcases h with h | h
  · rw [h] at hen
    cases hen
  · have hany := x.any_specs (q := q) p (a := .allowNets) (by rw [hf]; decide)
    rw [Settings.hits, hf, hto, h] at hany
    cases hany

/-- With `300.allowLAN` on, a packet to the local network is accepted. -/
theorem verdict_lan (hlan : x.enabled .IPv4 .allowLAN = true) :
    x.verdict q (samplePacket (.v4 0xc0a80101#32)) = some .accept := by
  have hadns : x.decides q (samplePacket (.v4 0xc0a80101#32)) .allowDNS = none :=
    decides_eq_none _ (by simp only [Settings.hits, sample_isTunnel, Bool.false_and])
  have haccept : x.decides q (samplePacket (.v4 0xc0a80101#32)) .allowLAN = some .accept :=
    decides_eq_some _ hlan (show (samplePacket (.v4 0xc0a80101#32)).inLAN = true by decide)
  rw [verdict_v4 rfl,
    decides_eq_none _ (a := .allowLoopback) (sample_isLoopback _), hadns,
    decides_eq_none _ (a := .blockDNS) rfl, haccept]
  rfl

/-- With only `110.allowNets` on, a packet to one of its ranges is accepted. -/
theorem verdict_allowNets (h : Closed x) (hnets : x.enabled .IPv4 .blockNets = false)
    (hen : x.enabled .IPv4 .allowNets = true) {d : BitVec 32}
    (hto : (samplePacket (.v4 d)).isTo q (allowNetsFor q .IPv4 x.allowedNets) = true) :
    x.verdict q (samplePacket (.v4 d)) = some .accept := by
  have hoff : ∀ a, (Family.IPv4, a) ∈ openAnchors → x.decides q (samplePacket (.v4 d)) a = none :=
    fun a he => decides_eq_none_of_disabled _ (h.off _ he)
  have hallow : x.decides q (samplePacket (.v4 d)) .allowNets = some .accept :=
    decides_eq_some _ hen hto
  rw [verdict_v4 rfl,
    decides_eq_none _ (a := .allowLoopback) (sample_isLoopback _),
    hoff .allowDNS (by decide), decides_eq_none _ (a := .blockDNS) rfl,
    hoff .allowLAN (by decide), hoff .allowDHCP (by decide), hoff .allowVPN (by decide),
    decides_eq_none_of_disabled _ (a := .blockNets) hnets, hallow]
  rfl

/-- A rule of `110.allowNets` matches a packet. -/
theorem exists_isTo_of_rules (h : rulesOf q .IPv4 (x.specs q .IPv4 .allowNets) ≠ []) :
    ∃ d : BitVec 32,
      (samplePacket (.v4 d)).isTo q (allowNetsFor q .IPv4 x.allowedNets) = true := by
  obtain ⟨r, hr⟩ := exists_mem_of_ne_nil _ h
  obtain ⟨spec, hspec, hr⟩ := mem_flatMap.mp hr
  obtain ⟨server, hserver, rfl⟩ := mem_map.mp hspec
  obtain ⟨n, hn, -⟩ : ∃ n ∈ readDst q .IPv4 server, _ = r := mem_map.mp hr
  have hfam := readDst_family q hn
  cases hb : n.base with
  | v4 d =>
    have hd := n.contains_base
    rw [hb] at hd
    exact ⟨d, any_eq_true.mpr ⟨server, hserver, any_eq_true.mpr ⟨n, hn, hd⟩⟩⟩
  | v6 d =>
    rw [hb] at hfam
    cases hfam

/-- Over every run of the service's methods: while strict mode is stored, `disableKillSwitch` blocks
everything; and `refresh(true)` does exactly when the firewall is not installed yet, or
`300.allowLAN` is off and `110.allowNets` is off or empty for IPv4. -/
theorem strict_blocks_all_iff (host : Family → (t : Table) → Host t) {start : FwState}
    (hstart : ∀ f, start.kernel f .filter = (host f .filter).rs) (strict : Bool)
    (calls : List Call) :
    let s := serviceRun q calls start strict
    (s.strict = true → StrictlyBlocks q (KillSwitch.disableKillSwitch q s)) ∧
    (StrictlyBlocks q (KillSwitch.refresh q true s) ↔
      isInstalled s.fw = false ∨
        isAnchorEnabled .IPv4 .allowLAN .filter s.fw = false ∧
          (isAnchorEnabled .IPv4 .allowNets .filter s.fw = false ∨
            (s.fw.kernel .IPv4 .filter).rules (.actual .allowNets) = [])) := by
  intro s
  obtain ⟨o, ho, hstrict, htidy⟩ := serviceInv_run (q := q) host hstart calls strict
  constructor
  · intro hs
    obtain ⟨x, rfl⟩ := isSome_iff_exists.mp (hstrict hs)
    have hx := holds_disableKillSwitch ho
    rw [if_pos hs] at hx
    exact strictlyBlocks_of_closed hx (closed_strict x) (allowsOnly_nil (.inl rfl)) rfl
  · have hx : Holds q (KillSwitch.refresh q true s).fw (some (blockSettings (o.getD .initial))) :=
      holds_disableAllTraffic (s := { s with strict := true }) ho
    cases o with
    | none =>
      -- a new installation has all anchors off
      refine iff_of_true ?_ (.inl ho.isInstalled)
      exact strictlyBlocks_of_closed hx (tidy_initial.closed_block rfl)
        (allowsOnly_nil (.inl rfl)) rfl
    | some x =>
      have hlan := ho.isAnchorEnabled .IPv4 (a := .allowLAN) (by decide)
      have hnets := ho.isAnchorEnabled .IPv4 (a := .allowNets) (by decide)
      rw [if_neg (by decide)] at hlan hnets
      rw [ho.isInstalled, hlan, hnets, ho.rules_actual .IPv4 (by decide)]
      constructor
      · intro h
        refine .inr ?_
        -- without later calls, no packet may be accepted
        have hnone : ∀ d, (blockSettings x).verdict q (samplePacket (.v4 d)) ≠ some .accept := by
          intro d hacc
          rcases h [] _ (sample_isLoopback (.v4 d)) with hrej | hto
          · have hrej : (KillSwitch.refresh q true s).fw.anchorVerdict _ = some .reject := hrej
            rw [hx.anchorVerdict] at hrej
            cases some.inj (hacc.symm.trans hrej)
          · cases hto.2
        have hoff : x.enabled .IPv4 .allowLAN = false :=
          Bool.eq_false_iff.mpr fun hon => hnone _ (verdict_lan (x := blockSettings x) hon)
        refine ⟨hoff, ?_⟩
        by_contra hopen
        obtain ⟨hen, hrules⟩ := not_or.mp hopen
        obtain ⟨d, hto⟩ := exists_isTo_of_rules hrules
        exact hnone d (verdict_allowNets ((htidy x rfl).closed_block hoff) ((htidy x rfl).nets hoff)
          (Bool.not_eq_false _ ▸ hen) hto)
      · rintro (h | ⟨hoff, hopen⟩)
        · cases h
        · exact strictlyBlocks_of_closed hx ((htidy x rfl).closed_block hoff)
            (allowsOnly_nil hopen) rfl

end Strict

/-- Strict mode from a fresh start, and again after a connection that went down in strict mode. -/
theorem strict_blocks_all_sample :
    StrictlyBlocks .plain
      (KillSwitch.refresh .plain true (serviceRun .plain [] sampleTables false)) ∧
    StrictlyBlocks .plain (KillSwitch.disableKillSwitch .plain
      (serviceRun .plain [.refresh true, .enableKillSwitch []] sampleTables false)) :=
  ⟨(strict_blocks_all_iff (fun f t => (sampleTables_pristine f t).host) (fun _ => rfl) false
      []).2.mpr (.inl (by decide +kernel)),
    (strict_blocks_all_iff (fun f t => (sampleTables_pristine f t).host) (fun _ => rfl) false
      [.refresh true, .enableKillSwitch []]).1 (by decide +kernel)⟩

/-- `refresh(true)` leaves the anchors of a connection on, so a packet to the local network is
accepted; and ranges that were added before it stay in `110.allowNets`. -/
theorem refresh_leaves_anchors_open :
    (samplePacket (.v4 0xc0a80101#32)).isLoopback = false ∧
    (KillSwitch.refresh .plain true (serviceRun .plain [.enableKillSwitch []] sampleTables
      false)).fw.anchorVerdict (samplePacket (.v4 0xc0a80101#32)) = some .accept ∧
    (KillSwitch.refresh .plain true (serviceRun .plain [.refresh true, .addAllowedRange ["8.8.8.8"]]
      sampleTables false)).fw.anchorVerdict (samplePacket (.v4 0x08080808#32)) = some .accept := by
  exact ⟨by decide, by decide +kernel, by decide +kernel⟩

end Dopamine.Linux
