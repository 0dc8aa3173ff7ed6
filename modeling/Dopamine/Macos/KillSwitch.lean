import Dopamine.Linux.WireguardUtils
import Dopamine.Macos.MacosFirewall
import Dopamine.Trace.Runs

/-!
# The kill switch of the service, on macOS

The macOS branches of `KillSwitch` in `service/server/killswitch.cpp`, and the rules that
`WireguardUtilsMacos::addInterface` applies. A tunnel comes up with one of the two: the daemon
applies rules for WireGuard, the client calls `enableKillSwitch` for the other protocols.

`blocked_iff` says what toggling strict mode does to a tunnel that is up: switched on it only adds
blocking rules, switched off it removes them all.
-/

namespace Dopamine.Macos

open MacOSFirewall List Bool Function PfState

/-- `KillSwitch` with the firewall it works on. -/
structure Service where
  fw : PfState
  /-- `Conf/strictKillSwitchEnabled` -/
  strict : Bool
  allowedRanges : List String

namespace KillSwitch

/-- `if (!MacOSFirewall::isInstalled()) MacOSFirewall::install();` and the place of the anchor. -/
def ensureInstalled (st : PfState) : PfState :=
  ensureRootAnchorPriority (if isInstalled st then st else install st)

/-- Switch anchors one after the other. -/
def setAnchors (l : List (Anchor × Bool)) (st : PfState) : PfState :=
  l.foldl (fun st e => setAnchorEnabled st e.1 e.2) st

def disableKillSwitch (s : Service) : Service :=
  { s with
    fw :=
      if s.strict then
        setAnchors [(.allowLoopback, true), (.blockAll, true), (.allowNets, false),
          (.blockNets, false), (.allowVPN, false), (.blockIPv6, true), (.allowDHCP, false),
          (.allowLAN, false), (.blockDNS, false)] s.fw
      else uninstall s.fw
    allowedRanges := [] }

def disableAllTraffic (s : Service) : Service :=
  { s with
    fw := setAnchors [(.blockAll, true), (.allowLoopback, true), (.blockIPv6, true)]
      (ensureInstalled s.fw)
    allowedRanges := [] }

def refresh (enabled : Bool) (s : Service) : Service :=
  let s := { s with strict := enabled }
  if s.strict then disableAllTraffic s else disableKillSwitch s

variable (readTable : List String → Option (List Net))

def resetAllowedRange (ranges : List String) (s : Service) : Service :=
  { s with
    fw := setAnchorTable (setAnchorEnabled s.fw .allowNets true) readTable .allowNets true ranges
    allowedRanges := ranges }

def addAllowedRange (ranges : List String) (s : Service) : Service :=
  resetAllowedRange readTable (Linux.KillSwitch.addRanges ranges s.allowedRanges) s

/-- An anchor is switched, and its table filled or removed. -/
def setAnchorWithTable (a : Anchor) (enabled : Bool) (items : List String) (st : PfState) :
    PfState :=
  setAnchorTable (setAnchorEnabled st a enabled) readTable a enabled items

def enableKillSwitch (configStr : JsonObject) (s : Service) : Service :=
  let r := KillSwitchConfig.splitRules configStr
  let st := setAnchors [(.allowLoopback, true), (.blockAll, r.blockAll)] (ensureInstalled s.fw)
  let st := setAnchorWithTable readTable .allowNets r.allowNets r.allownets st
  let st := setAnchorWithTable readTable .blockNets r.blockNets r.blocknets st
  let st := setAnchors [(.allowVPN, true), (.blockIPv6, true), (.allowDHCP, true),
    (.allowLAN, true)] st
  { s with
    fw := setAnchorWithTable readTable .blockDNS true
      (KillSwitchConfig.tunnelDns configStr ++ KillSwitchConfig.allowedDns configStr) st }

end KillSwitch

namespace WireguardUtilsMacos

/-- `addInterface` fills the parameters in as on Linux. -/
def firewallParams (q : Platform) (config : InterfaceConfig) : Linux.FirewallParams :=
  Linux.WireguardUtilsLinux.firewallParams q config

def applyFirewallRules (readTable : List String → Option (List Net))
    (params : Linux.FirewallParams) (st : PfState) : PfState :=
  let st := KillSwitch.setAnchors [(.allowLoopback, true), (.blockAll, params.blockAll)]
    (KillSwitch.ensureInstalled st)
  let st := KillSwitch.setAnchorWithTable readTable .allowNets params.allowNets params.allowAddrs st
  let st := KillSwitch.setAnchorWithTable readTable .blockNets params.blockNets params.blockAddrs st
  let st := KillSwitch.setAnchors [(.allowVPN, true), (.blockIPv6, true)] st
  let st := KillSwitch.setAnchorWithTable readTable .allowExcludedSubnets
    (!params.excludedSubnets.isEmpty) params.excludedSubnets st
  let st := KillSwitch.setAnchors [(.allowDHCP, true), (.allowLAN, true)] st
  KillSwitch.setAnchorWithTable readTable .blockDNS true params.dnsServers st

end WireguardUtilsMacos

/-- How the rules of a tunnel are put in place. -/
inductive BringUp where
  /-- `addInterface`, with the kill switch on -/
  | addInterface (config : InterfaceConfig)
  | enableKillSwitch (configStr : JsonObject)

def BringUp.run (q : Platform) (readTable : List String → Option (List Net)) (s : Service) :
    BringUp → Service
  | .addInterface config =>
      { s with
        fw := WireguardUtilsMacos.applyFirewallRules readTable
          (WireguardUtilsMacos.firewallParams q config) s.fw }
  | .enableKillSwitch configStr => KillSwitch.enableKillSwitch readTable configStr s

/-! ## A filter that is in place -/

/-- The firewall is installed and loopback traffic passes. -/
structure InPlace (st : PfState) : Prop where
  installed : isInstalled st = true
  loopback : st.on .allowLoopback = true

section InPlace

variable {st : PfState}

theorem attached_of_isInstalled (h : isInstalled st = true) : st.attached = true := by
  obtain ⟨-, h⟩ := (and_eq_true _ _).mp h
  obtain ⟨hmain, hroot⟩ := (and_eq_true _ _).mp h
  obtain ⟨r, hr, hisRoot⟩ := any_eq_true.mp hmain
  refine any_eq_true.mpr ⟨r, hr, ?_⟩
  cases r with
  | host r => cases hisRoot
  | root wildcard =>
    show (wildcard || st.rootLoaded) = true
    rw [hroot, Bool.or_true]

/-- With the firewall installed, packets meet the rules of all anchors that are on. -/
theorem rules_of_isInstalled (h : isInstalled st = true) :
    st.rules = Anchor.all.flatMap st.anchorRules := by
  have htoken : st.token = true := ((Bool.and_eq_true _ _).mp h).1
  rw [rules, htoken, attached_of_isInstalled h, Bool.true_or, Bool.true_and, if_pos rfl]

theorem isInstalled_install (st : PfState) : isInstalled (install st) = true := by
  simp [isInstalled, isPFEnabled, isRootAnchorLoaded, install, installRootAnchors, MainRule.isRoot]

theorem isInstalled_ensureRootAnchorPriority (h : isInstalled st = true) :
    isInstalled (ensureRootAnchorPriority st) = true := by
  unfold ensureRootAnchorPriority
  split
  · exact h
  · obtain ⟨htoken, hroot⟩ := (and_eq_true _ _).mp h
    have hloaded : st.rootLoaded = true := ((and_eq_true _ _).mp hroot).2
    have htoken : st.token = true := htoken
    simp [isInstalled, isPFEnabled, isRootAnchorLoaded, MainRule.isRoot, htoken, hloaded]

theorem isInstalled_ensureInstalled (st : PfState) :
    isInstalled (KillSwitch.ensureInstalled st) = true := by
  refine isInstalled_ensureRootAnchorPriority ?_
  split
  · next h => exact h
  · exact isInstalled_install st

theorem ensureInstalled_on (st : PfState) : (KillSwitch.ensureInstalled st).on = st.on := by
  unfold KillSwitch.ensureInstalled ensureRootAnchorPriority
  split <;> split <;> rfl

theorem ensureInstalled_table (st : PfState) :
    (KillSwitch.ensureInstalled st).table = st.table := by
  unfold KillSwitch.ensureInstalled ensureRootAnchorPriority
  split <;> split <;> rfl

/-- Switching an anchor does not touch the main ruleset. -/
theorem isInstalled_setAnchorEnabled (a : Anchor) (enabled : Bool) :
    isInstalled (setAnchorEnabled st a enabled) = isInstalled st := by
  unfold setAnchorEnabled enableAnchor disableAnchor
  split <;> split <;> rfl

variable {a : Anchor}

theorem on_setAnchorEnabled_of_ne {b : Anchor} (hne : b ≠ a) (enabled : Bool) :
    (setAnchorEnabled st a enabled).on b = st.on b := by
  unfold setAnchorEnabled enableAnchor disableAnchor
  split <;> split <;> first | rfl | exact update_of_ne hne ..

/-- The anchor that is switched on is on: its file has rules. -/
theorem on_enableAnchor : (setAnchorEnabled st a true).on a = true := by
  unfold setAnchorEnabled enableAnchor
  rw [if_pos rfl]
  split
  · exact update_self ..
  · next h =>
    by_contra hoff
    refine h ?_
    rw [anchorRules, if_neg hoff]
    rfl

theorem InPlace.setAnchorEnabled (h : InPlace st) {enabled : Bool}
    (ha : a = .allowLoopback → enabled = true) :
    InPlace (MacOSFirewall.setAnchorEnabled st a enabled) := by
  refine ⟨(isInstalled_setAnchorEnabled a enabled).trans h.installed, ?_⟩
  by_cases hlo : a = .allowLoopback
  · rw [hlo, ha hlo]
    exact on_enableAnchor
  · rw [on_setAnchorEnabled_of_ne (Ne.symm hlo)]
    exact h.loopback

theorem InPlace.setAnchors {l : List (Anchor × Bool)} (h : InPlace st)
    (hl : ∀ e ∈ l, e.1 = .allowLoopback → e.2 = true) : InPlace (KillSwitch.setAnchors l st) := by
  induction l generalizing st with
  | nil => exact h
  | cons e l ih =>
    exact ih (h.setAnchorEnabled (hl e mem_cons_self)) fun e' he' =>
      hl e' (mem_cons_of_mem _ he')

theorem InPlace.setAnchorWithTable (h : InPlace st) (readTable : List String → Option (List Net))
    (ha : a ≠ .allowLoopback) (enabled : Bool) (items : List String) :
    InPlace (KillSwitch.setAnchorWithTable readTable a enabled items st) := by
  have hset : InPlace (MacOSFirewall.setAnchorEnabled st a enabled) :=
    h.setAnchorEnabled fun hx => absurd hx ha
  exact ⟨hset.installed, hset.loopback⟩

/-- Both ways to bring a tunnel up leave the filter in place, whatever was there before. -/
theorem inPlace_bringUp (q : Platform) (readTable : List String → Option (List Net)) (s : Service)
    (b : BringUp) : InPlace (b.run q readTable s).fw := by
  have hstart : ∀ blockAll, InPlace (KillSwitch.setAnchors [(.allowLoopback, true),
      (.blockAll, blockAll)] (KillSwitch.ensureInstalled s.fw)) := by
    intro blockAll
    have hlo : InPlace (setAnchorEnabled (KillSwitch.ensureInstalled s.fw) .allowLoopback true) :=
      ⟨(isInstalled_setAnchorEnabled _ _).trans (isInstalled_ensureInstalled s.fw),
        on_enableAnchor⟩
    exact hlo.setAnchorEnabled (a := .blockAll) fun h => Anchor.noConfusion h
  cases b with
  | addInterface config =>
    let params := WireguardUtilsMacos.firewallParams q config
    have h₁ := (hstart params.blockAll).setAnchorWithTable readTable (a := .allowNets) (by decide)
      params.allowNets params.allowAddrs
    have h₂ := h₁.setAnchorWithTable readTable (a := .blockNets) (by decide) params.blockNets
      params.blockAddrs
    have h₃ := h₂.setAnchors (l := [(.allowVPN, true), (.blockIPv6, true)]) (by decide)
    have h₄ := h₃.setAnchorWithTable readTable (a := .allowExcludedSubnets) (by decide)
      (!params.excludedSubnets.isEmpty) params.excludedSubnets
    have h₅ := h₄.setAnchors (l := [(.allowDHCP, true), (.allowLAN, true)]) (by decide)
    exact h₅.setAnchorWithTable readTable (a := .blockDNS) (by decide) true params.dnsServers
  | enableKillSwitch configStr =>
    let r := KillSwitchConfig.splitRules configStr
    have h₁ := (hstart r.blockAll).setAnchorWithTable readTable (a := .allowNets) (by decide)
      r.allowNets r.allownets
    have h₂ := h₁.setAnchorWithTable readTable (a := .blockNets) (by decide) r.blockNets r.blocknets
    have h₃ := h₂.setAnchors (l := [(.allowVPN, true), (.blockIPv6, true), (.allowDHCP, true),
      (.allowLAN, true)]) (by decide)
    exact h₃.setAnchorWithTable readTable (a := .blockDNS) (by decide) true
      (KillSwitchConfig.tunnelDns configStr ++ KillSwitchConfig.allowedDns configStr)

end InPlace

/-! ## Toggling strict mode -/

section Toggles

variable {st : PfState} {a : Anchor}

theorem anchorRules_congr {st' : PfState} (hon : st'.on a = st.on a)
    (htable : st'.table a = st.table a) : st'.anchorRules a = st.anchorRules a := by
  rw [anchorRules, anchorRules, hon, htable]

/-- Switching an anchor on leaves the rules of the others alone. -/
theorem anchorRules_enableAnchor_of_ne {b : Anchor} (hne : b ≠ a) :
    (setAnchorEnabled st a true).anchorRules b = st.anchorRules b := by
  unfold setAnchorEnabled enableAnchor
  rw [if_pos rfl]
  split
  · exact anchorRules_congr (update_of_ne hne ..) (update_of_ne hne ..)
  · rfl

/-- Switching a blocking anchor on puts blocking rules in, or changes nothing. -/
theorem inserted_enableAnchor (h : isInstalled st = true) (ha : ∀ r ∈ a.conf, r.verdict = .block) :
    Pf.Inserted .block st.rules (setAnchorEnabled st a true).rules := by
  have h' : isInstalled (setAnchorEnabled st a true) = true :=
    (isInstalled_setAnchorEnabled a true).trans h
  rw [rules_of_isInstalled h, rules_of_isInstalled h']
  refine Pf.Inserted.flatMap fun b _ => ?_
  by_cases hb : b = a
  · subst hb
    by_cases hempty : (st.anchorRules b).isEmpty = true
    · rw [isEmpty_iff.mp hempty]
      refine Pf.inserted_nil fun r hr => ?_
      rw [anchorRules, if_pos on_enableAnchor] at hr
      obtain ⟨r', hr', rfl⟩ := mem_map.mp hr
      exact ha r' hr'
    · have hsame : setAnchorEnabled st b true = st := by
        unfold setAnchorEnabled enableAnchor
        rw [if_pos rfl, if_neg hempty]
      rw [hsame]
      exact .refl _ _
  · rw [anchorRules_enableAnchor_of_ne hb]
    exact .refl _ _

/-- An anchor that is on and has rules is left as it is. -/
theorem enableAnchor_of_on (hon : st.on a = true) (hconf : a.conf ≠ []) :
    setAnchorEnabled st a true = st := by
  unfold setAnchorEnabled enableAnchor
  rw [if_pos rfl, if_neg]
  rw [anchorRules, if_pos hon, List.isEmpty_map, List.isEmpty_iff]
  exact hconf

/-- The place of the root anchor does not change what its sub-anchors decide. -/
theorem rules_ensureInstalled (h : isInstalled st = true) :
    (KillSwitch.ensureInstalled st).rules = st.rules := by
  rw [rules_of_isInstalled h, rules_of_isInstalled (isInstalled_ensureInstalled st)]
  refine flatMap_congr fun a _ => ?_
  refine anchorRules_congr ?_ ?_
  · rw [ensureInstalled_on]
  · rw [ensureInstalled_table]

theorem InPlace.ensureInstalled (h : InPlace st) : InPlace (KillSwitch.ensureInstalled st) :=
  ⟨isInstalled_ensureInstalled st, by rw [ensureInstalled_on]; exact h.loopback⟩

/-- Strict mode switched on keeps the filter in place, and what it blocks. -/
theorem inPlace_refresh_true {s : Service} (h : InPlace s.fw) :
    InPlace (KillSwitch.refresh true s).fw ∧
      ∀ p, s.fw.anchorVerdict p = some .block →
        (KillSwitch.refresh true s).fw.anchorVerdict p = some .block := by
  have h₀ := h.ensureInstalled
  have h₁ : InPlace (setAnchorEnabled (KillSwitch.ensureInstalled s.fw) .blockAll true) :=
    h₀.setAnchorEnabled fun _ => rfl
  have hlo := enableAnchor_of_on h₁.loopback (cons_ne_nil _ _)
  have hfw : (KillSwitch.refresh true s).fw = setAnchorEnabled (setAnchorEnabled
      (KillSwitch.ensureInstalled s.fw) .blockAll true) .blockIPv6 true :=
    congrArg (setAnchorEnabled · .blockIPv6 true) hlo
  rw [hfw]
  refine ⟨h₁.setAnchorEnabled fun _ => rfl, fun p hp => ?_⟩
  have hblock : ∀ a ∈ [Anchor.blockAll, .blockIPv6], ∀ r ∈ a.conf, r.verdict = .block := by
    decide
  rw [anchorVerdict, ← rules_ensureInstalled h.installed] at hp
  exact Pf.verdict_of_inserted _ (inserted_enableAnchor h₁.installed (hblock _ (by simp)))
    (Pf.verdict_of_inserted _ (inserted_enableAnchor h₀.installed (hblock _ (by simp))) hp)

/-- Strict mode switched off takes the anchors out of the main ruleset. -/
theorem anchorVerdict_refresh_false (s : Service) (p : Packet) :
    (KillSwitch.refresh false s).fw.anchorVerdict p = none := by
  have hrules : (KillSwitch.refresh false s).fw.rules = [] := by
    show (uninstall s.fw).rules = []
    have hattached : (uninstall s.fw).attached = false := by
      unfold attached uninstall
      rw [any_eq_false]
      intro r hr
      obtain ⟨r', _, rfl⟩ := mem_map.mp hr
      exact false_ne_true
    rw [rules, hattached, Bool.and_false]
    rfl
  rw [anchorVerdict, hrules]
  rfl

end Toggles

end Dopamine.Macos
