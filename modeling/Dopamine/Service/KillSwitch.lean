import Dopamine.Daemon.InterfaceConfig
import Dopamine.Linux.Settings
import Mathlib.Data.List.Infix

/-!
# The kill switch of the service, on Linux

`KillSwitch` of `service/server/killswitch.cpp`: the methods the client calls over IPC and the
daemon calls when it takes a tunnel down. Its state is the list `m_allowedRanges` and the stored
strict mode; the rest is the firewall.

The lemmas say what a method does to the settings of the firewall, whatever they were before.
-/

namespace Dopamine

/-! ## The configuration of `enableKillSwitch` -/

namespace KillSwitchConfig

/-- The rules `enableKillSwitch` wants, by split tunnel type. -/
structure SplitRules where
  blockAll : Bool := false
  allowNets : Bool := false
  blockNets : Bool := false
  allownets : List String := []
  blocknets : List String := []

variable (configStr : JsonObject)

def splitRules : SplitRules :=
  let splitTunnelType := Json.intValue (configStr.lookup "splitTunnelType")
  let sites := (Json.arrayValue (configStr.lookup "splitTunnelSites")).map fun v =>
    Json.text (some v)
  let vpnServer := Json.text (configStr.lookup "vpnServer")
  if splitTunnelType = 0 then
    { blockAll := true, allowNets := true, allownets := [vpnServer] }
  else if splitTunnelType = 1 then
    { blockNets := true, blocknets := sites }
  else if splitTunnelType = 2 then
    { blockAll := true, allowNets := true, allownets := vpnServer :: sites }
  else {}

def amneziaDnsIp : String := "172.29.172.254"

/-- `dns1`, and `dns2` unless `dns1` is the AmneziaDNS. -/
def tunnelDns : List String :=
  let dns1 := Json.text (configStr.lookup "dns1")
  if amneziaDnsIp.toList <:+: dns1.toList then [dns1]
  else [dns1, Json.text (configStr.lookup "dns2")]

/-- The entries of `allowedDnsServers` up to the first that is no string. -/
def allowedDns : List String :=
  ((Json.arrayValue (configStr.lookup "allowedDnsServers")).map fun v =>
    Json.str? (some v)).takeWhile Option.isSome |>.filterMap id

end KillSwitchConfig

namespace Linux

open Netfilter Shell LinuxFirewall

/-- `KillSwitch` with the firewall it works on. -/
structure Service where
  fw : FwState
  /-- `Conf/strictKillSwitchEnabled` -/
  strict : Bool
  allowedRanges : List String

namespace KillSwitch

/-- The calls of `disableKillSwitch` in strict mode. -/
def strictCalls : List Op :=
  [.setAnchorEnabled .Both .allowLoopback true,
    .setAnchorEnabled .Both .blockAll true,
    .setAnchorEnabled .IPv4 .allowNets false,
    .setAnchorEnabled .IPv4 .blockNets false,
    .setAnchorEnabled .IPv4 .allowVPN false,
    .setAnchorEnabled .IPv6 .blockIPv6 true,
    .setAnchorEnabled .Both .allowDHCP false,
    .setAnchorEnabled .Both .allowLAN false,
    .setAnchorEnabled .IPv4 .blockDNS false,
    .setAnchorEnabled .IPv4 .allowDNS false,
    .setAnchorEnabled .Both .allowPIA false]

/-- The calls of `disableKillSwitch` otherwise. -/
def relaxedCalls : List Op :=
  [.setAnchorEnabled .Both .allowLoopback true,
    .setAnchorEnabled .Both .blockAll false,
    .setAnchorEnabled .IPv4 .allowNets false,
    .setAnchorEnabled .IPv4 .blockNets false,
    .setAnchorEnabled .IPv4 .allowVPN false,
    .setAnchorEnabled .IPv6 .blockIPv6 false,
    .setAnchorEnabled .Both .allowDHCP true,
    .setAnchorEnabled .Both .allowLAN true,
    .setAnchorEnabled .IPv4 .blockDNS false,
    .setAnchorEnabled .IPv4 .allowDNS true,
    .setAnchorEnabled .Both .allowPIA false,
    .uninstall]

/-- The calls of `disableAllTraffic`, after the firewall is installed. -/
def blockCalls : List Op :=
  [.setAnchorEnabled .Both .blockAll true,
    .setAnchorEnabled .Both .allowLoopback true,
    .setAnchorEnabled .IPv6 .blockIPv6 true]

/-- The calls of `resetAllowedRange`. -/
def rangeCalls (ranges : List String) : List Op :=
  [.setAnchorEnabled .IPv4 .allowNets true, .updateAllowNets ranges]

/-- The calls of `enableKillSwitch`, after the firewall is installed. `120.blockNets` is enabled
with `blockAll`. -/
def enableCalls (configStr : JsonObject) : List Op :=
  let r := KillSwitchConfig.splitRules configStr
  [.setAnchorEnabled .Both .allowLoopback true,
    .setAnchorEnabled .Both .blockAll r.blockAll,
    .setAnchorEnabled .IPv4 .allowNets r.allowNets,
    .updateAllowNets r.allownets,
    .setAnchorEnabled .IPv4 .blockNets r.blockAll,
    .updateBlockNets r.blocknets,
    .setAnchorEnabled .IPv4 .allowVPN true,
    .setAnchorEnabled .IPv6 .blockIPv6 true,
    .setAnchorEnabled .Both .allowDHCP true,
    .setAnchorEnabled .Both .allowLAN true,
    .setAnchorEnabled .IPv4 .blockDNS true,
    .updateDNSServers (KillSwitchConfig.tunnelDns configStr ++ ["127.0.0.1", "127.0.0.53"] ++
      KillSwitchConfig.allowedDns configStr),
    .setAnchorEnabled .IPv4 .allowDNS true,
    .setAnchorEnabled .Both .allowPIA true]

variable (q : Platform)

def disableKillSwitch (s : Service) : Service :=
  { s with
    fw := runOps q (if s.strict then strictCalls else relaxedCalls) s.fw
    allowedRanges := [] }

def disableAllTraffic (s : Service) : Service :=
  { s with
    fw := runOps q (installIfNeeded (isInstalled s.fw) ++ blockCalls) s.fw
    allowedRanges := [] }

def init (s : Service) : Service := if s.strict then disableAllTraffic q s else s

def refresh (enabled : Bool) (s : Service) : Service :=
  let s := { s with strict := enabled }
  if s.strict then disableAllTraffic q s else disableKillSwitch q s

def resetAllowedRange (ranges : List String) (s : Service) : Service :=
  { s with fw := runOps q (rangeCalls ranges) s.fw, allowedRanges := ranges }

/-- The list of `addAllowedRange`: the new entries that are neither empty nor known. -/
def addRanges (ranges known : List String) : List String :=
  ranges.foldl (fun l range => if range ≠ "" ∧ range ∉ l then l ++ [range] else l) known

def addAllowedRange (ranges : List String) (s : Service) : Service :=
  let s := { s with allowedRanges := addRanges ranges s.allowedRanges }
  resetAllowedRange q s.allowedRanges s

/-- Calls of `addAllowedRange` one after the other. -/
def addAllowedRanges (lists : List (List String)) (s : Service) : Service :=
  lists.foldl (fun s ranges => addAllowedRange q ranges s) s

def enableKillSwitch (configStr : JsonObject) (s : Service) : Service :=
  { s with fw := runOps q (installIfNeeded (isInstalled s.fw) ++ enableCalls configStr) s.fw }

/-! ## The settings that are left -/

/-- The settings after `disableKillSwitch` in strict mode. -/
def strictSettings (x : Settings) : Settings :=
  { x with
    enabled := fun f a =>
      match f, a with
      | _, .allowLoopback | _, .blockAll | .IPv6, .blockIPv6 => true
      | .IPv4, .allowNets | .IPv4, .blockNets | .IPv4, .allowVPN => false
      | _, .allowDHCP | _, .allowLAN | _, .allowPIA => false
      | .IPv4, .blockDNS | .IPv4, .allowDNS => false
      | f, a => x.enabled f a }

/-- The settings after `disableAllTraffic`. -/
def blockSettings (x : Settings) : Settings :=
  { x with
    enabled := fun f a =>
      match f, a with
      | _, .allowLoopback | _, .blockAll | .IPv6, .blockIPv6 => true
      | f, a => x.enabled f a }

/-- The settings after `resetAllowedRange`. -/
def rangeSettings (ranges : List String) (x : Settings) : Settings :=
  { x with
    enabled := fun f a =>
      match f, a with
      | .IPv4, .allowNets => true
      | f, a => x.enabled f a
    allowedNets := ranges }

/-- The settings after `enableKillSwitch`. -/
def enableSettings (configStr : JsonObject) (x : Settings) : Settings where
  enabled f a :=
    match f, a with
    | _, .allowLoopback | _, .allowDHCP | _, .allowLAN | _, .allowPIA => true
    | _, .blockAll => (KillSwitchConfig.splitRules configStr).blockAll
    | .IPv4, .allowNets => (KillSwitchConfig.splitRules configStr).allowNets
    | .IPv4, .blockNets => (KillSwitchConfig.splitRules configStr).blockAll
    | .IPv4, .allowVPN | .IPv4, .blockDNS | .IPv4, .allowDNS => true
    | .IPv6, .blockIPv6 => true
    | f, a => x.enabled f a
  dnsServers := KillSwitchConfig.tunnelDns configStr ++ ["127.0.0.1", "127.0.0.53"] ++
    KillSwitchConfig.allowedDns configStr
  allowedNets := (KillSwitchConfig.splitRules configStr).allownets
  blockedNets := (KillSwitchConfig.splitRules configStr).blocknets

section Holds

variable {q} {s : Service} {o : Option Settings}

theorem holds_disableKillSwitch (hst : Holds q s.fw o) :
    Holds q (disableKillSwitch q s).fw (if s.strict then o.map strictSettings else none) := by
  simp only [disableKillSwitch]
  cases s.strict with
  | true =>
    have hfold : (fun x => strictCalls.foldl Op.set x) = strictSettings :=
      funext fun x => Settings.ext (funext₂ fun f a => by cases f <;> cases a <;> rfl) rfl rfl rfl
    have hsets : ∀ op ∈ strictCalls, op.Sets = true := by simp [strictCalls, Op.Sets]
    have h := hst.sets hsets
    rw [hfold] at h
    exact h
  | false => exact holds_runOps relaxedCalls (by simp [relaxedCalls, Op.KeepsRules]) hst

theorem holds_disableAllTraffic (hst : Holds q s.fw o) :
    Holds q (disableAllTraffic q s).fw (some (blockSettings (o.getD .initial))) := by
  have hfold : blockCalls.foldl Op.set (o.getD .initial) = blockSettings (o.getD .initial) :=
    Settings.ext (funext₂ fun f a => by cases f <;> cases a <;> rfl) rfl rfl rfl
  rw [← hfold]
  exact hst.installIfNeeded (by simp [blockCalls, Op.Sets])

theorem holds_resetAllowedRange (hst : Holds q s.fw o) (ranges : List String) :
    Holds q (resetAllowedRange q ranges s).fw (o.map (rangeSettings ranges)) := by
  have hfold : (fun x => (rangeCalls ranges).foldl Op.set x) = rangeSettings ranges :=
    funext fun x => Settings.ext (funext₂ fun f a => by cases f <;> cases a <;> rfl) rfl rfl rfl
  have hsets : ∀ op ∈ rangeCalls ranges, op.Sets = true := by simp [rangeCalls, Op.Sets]
  have h := hst.sets hsets
  rw [hfold] at h
  exact h

theorem holds_addAllowedRange (hst : Holds q s.fw o) (ranges : List String) :
    Holds q (addAllowedRange q ranges s).fw
      (o.map (rangeSettings (addRanges ranges s.allowedRanges))) :=
  holds_resetAllowedRange (s := { s with allowedRanges := addRanges ranges s.allowedRanges }) hst _

theorem holds_enableKillSwitch (hst : Holds q s.fw o) (configStr : JsonObject) :
    Holds q (enableKillSwitch q configStr s).fw
      (some (enableSettings configStr (o.getD .initial))) := by
  have hfold : (enableCalls configStr).foldl Op.set (o.getD .initial) =
      enableSettings configStr (o.getD .initial) :=
    Settings.ext (funext₂ fun f a => by cases f <;> cases a <;> rfl) rfl rfl rfl
  rw [← hfold]
  exact hst.installIfNeeded (by simp [enableCalls, Op.Sets])

/-- What new ranges do not change holds after every sequence of `addAllowedRange` calls. -/
theorem holds_addAllowedRanges {P : Settings → Prop}
    (hP : ∀ ranges x, P x → P (rangeSettings ranges x)) (lists : List (List String)) {x : Settings}
    (hst : Holds q s.fw (some x)) (hx : P x) :
    ∃ y, Holds q (addAllowedRanges q lists s).fw (some y) ∧ P y := by
  induction lists generalizing s x with
  | nil => exact ⟨x, hst, hx⟩
  | cons ranges lists ih => exact ih (holds_addAllowedRange hst ranges) (hP _ _ hx)

end Holds

end KillSwitch

/-- The calls the client makes. -/
inductive Call where
  | enableKillSwitch (configStr : JsonObject)
  | disableKillSwitch
  | refresh (enabled : Bool)
  | resetAllowedRange (ranges : List String)
  | addAllowedRange (ranges : List String)

def Call.run (q : Platform) (s : Service) : Call → Service
  | .enableKillSwitch configStr => KillSwitch.enableKillSwitch q configStr s
  | .disableKillSwitch => KillSwitch.disableKillSwitch q s
  | .refresh enabled => KillSwitch.refresh q enabled s
  | .resetAllowedRange ranges => KillSwitch.resetAllowedRange q ranges s
  | .addAllowedRange ranges => KillSwitch.addAllowedRange q ranges s

variable {q : Platform} {o : Option Settings}

/-- A call leaves the tables as some settings say. -/
theorem Call.exists_holds {s : Service} (ho : Holds q s.fw o) (c : Call) :
    ∃ o', Holds q (c.run q s).fw o' := by
  cases c with
  | enableKillSwitch configStr => exact ⟨_, KillSwitch.holds_enableKillSwitch ho configStr⟩
  | disableKillSwitch => exact ⟨_, KillSwitch.holds_disableKillSwitch ho⟩
  | refresh enabled =>
    cases enabled with
    | true => exact ⟨_, KillSwitch.holds_disableAllTraffic (s := { s with strict := true }) ho⟩
    | false => exact ⟨_, KillSwitch.holds_disableKillSwitch (s := { s with strict := false }) ho⟩
  | resetAllowedRange ranges => exact ⟨_, KillSwitch.holds_resetAllowedRange ho ranges⟩
  | addAllowedRange ranges => exact ⟨_, KillSwitch.holds_addAllowedRange ho ranges⟩

/-- The service starts with the tables in order. -/
theorem KillSwitch.exists_holds_init {start : FwState} (ho : Holds q start o) (strict : Bool) :
    ∃ o', Holds q (KillSwitch.init q ⟨start, strict, []⟩).fw o' := by
  cases strict with
  | true => exact ⟨_, KillSwitch.holds_disableAllTraffic (s := ⟨start, true, []⟩) ho⟩
  | false => exact ⟨o, ho⟩

end Linux

end Dopamine
