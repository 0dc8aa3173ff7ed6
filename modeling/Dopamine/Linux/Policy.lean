import Dopamine.Linux.StrictMode

/-!
# What the service stands for

A policy is the service of `service/server/killswitch.cpp` without the tables of the kernel: the
settings of the firewall if it is installed, the strict mode and the allowed ranges. Over every run
of calls the service does to packets what its policy says (`hostRun_refines`), and what it does
once the kill switch is enabled does not depend on the calls before (`enable_forgets`).
-/

namespace Dopamine.Linux

open LinuxFirewall KillSwitch List

/-- What the kill switch is to do; no settings if it is not installed. -/
structure Policy where
  settings : Option Settings
  strict : Bool
  allowedRanges : List String

namespace Policy

def init (strict : Bool) : Policy :=
  ⟨if strict then some (blockSettings .initial) else none, strict, []⟩

def setRanges (x : Policy) (ranges : List String) : Policy :=
  { x with settings := x.settings.map (rangeSettings ranges), allowedRanges := ranges }

def call (x : Policy) : Call → Policy
  | .enableKillSwitch configStr =>
    { x with settings := some (enableSettings configStr (x.settings.getD .initial)) }
  | .disableKillSwitch => ⟨if x.strict then x.settings.map strictSettings else none, x.strict, []⟩
  | .refresh true => ⟨some (blockSettings (x.settings.getD .initial)), true, []⟩
  | .refresh false => ⟨none, false, []⟩
  | .resetAllowedRange ranges => x.setRanges ranges
  | .addAllowedRange ranges => x.setRanges (addRanges ranges x.allowedRanges)

def run (calls : List Call) (strict : Bool) : Policy := Trace.run call (init strict) calls

end Policy

variable {q : Platform} {s : Service} {x : Policy}

/-- The service is in the state its policy says. -/
def Realizes (q : Platform) (s : Service) (x : Policy) : Prop :=
  Holds q s.fw x.settings ∧ s.strict = x.strict ∧ s.allowedRanges = x.allowedRanges

theorem Realizes.call (h : Realizes q s x) (c : Call) : Realizes q (c.run q s) (x.call c) := by
  obtain ⟨o, strict, ranges⟩ := x
  obtain ⟨ho, rfl, rfl⟩ : Holds q s.fw o ∧ s.strict = strict ∧ s.allowedRanges = ranges := h
  cases c with
  | enableKillSwitch configStr => exact ⟨holds_enableKillSwitch ho configStr, rfl, rfl⟩
  | disableKillSwitch => exact ⟨holds_disableKillSwitch ho, rfl, rfl⟩
  | refresh enabled =>
    cases enabled with
    | true => exact ⟨holds_disableAllTraffic (s := { s with strict := true }) ho, rfl, rfl⟩
    | false => exact ⟨holds_disableKillSwitch (s := { s with strict := false }) ho, rfl, rfl⟩
  | resetAllowedRange ranges => exact ⟨holds_resetAllowedRange ho ranges, rfl, rfl⟩
  | addAllowedRange ranges => exact ⟨holds_addAllowedRange ho ranges, rfl, rfl⟩

/-- The service after calls, from its start on tables without chains of the program. -/
def hostRun (q : Platform) (host : Family → (t : Table) → Host t) (calls : List Call)
    (strict : Bool) : Service :=
  serviceRun q calls ⟨fun f t => (host f t).rs, []⟩ strict

variable (host : Family → (t : Table) → Host t) (calls : List Call) (strict : Bool)

theorem realizes_hostRun : Realizes q (hostRun q host calls strict) (Policy.run calls strict) := by
  induction calls using reverseRecOn with
  | nil =>
    have hnone : Holds q ⟨fun f t => (host f t).rs, []⟩ none := holds_none host fun _ => rfl
    cases strict with
    | true => exact ⟨holds_disableAllTraffic (s := ⟨_, true, []⟩) hnone, rfl, rfl⟩
    | false => exact ⟨hnone, rfl, rfl⟩
  | append_singleton calls c ih =>
    rw [hostRun, serviceRun, Policy.run, Trace.run_concat, Trace.run_concat]
    exact ih.call c

/-- Every packet gets the verdict of the settings, and none while the firewall is not installed. -/
structure Follows (q : Platform) (s : Service) (x : Policy) : Prop where
  strict : s.strict = x.strict
  allowedRanges : s.allowedRanges = x.allowedRanges
  installed : isInstalled s.fw = x.settings.isSome
  verdict : ∀ p, s.fw.anchorVerdict p = x.settings.bind fun x => x.verdict q p

/-- **The service refines its policy.** -/
theorem hostRun_refines : Follows q (hostRun q host calls strict) (Policy.run calls strict) := by
  obtain ⟨ho, hstrict, hranges⟩ := realizes_hostRun (q := q) host calls strict
  refine ⟨hstrict, hranges, ho.isInstalled, fun p => ?_⟩
  cases hx : (Policy.run calls strict).settings with
  | none =>
    rw [hx] at ho
    rw [FwState.anchorVerdict, Netfilter.Ruleset.verdict, Netfilter.evalChain,
      ho.rules_eq_nil _ rfl, Netfilter.evalRules_nil]
    rfl
  | some x =>
    rw [hx] at ho
    exact ho.anchorVerdict p

/-- No call enables these anchors of IPv6. -/
def Untouched (x : Settings) : Prop :=
  x.enabled .IPv6 .blockDNS = false ∧ x.enabled .IPv6 .allowVPN = false ∧
    x.enabled .IPv6 .allowNets = false

theorem untouched_run : Untouched ((Policy.run calls strict).settings.getD .initial) := by
  have hinitial : Untouched .initial := ⟨rfl, rfl, rfl⟩
  have hmap (f : Settings → Settings) (hf : ∀ x, Untouched x → Untouched (f x))
      (o : Option Settings) (h : Untouched (o.getD .initial)) :
      Untouched ((o.map f).getD .initial) := by
    cases o with
    | none => exact h
    | some x => exact hf x h
  have hstep (x : Policy) (c : Call) (h : Untouched (x.settings.getD .initial)) :
      Untouched ((x.call c).settings.getD .initial) := by
    cases c with
    | enableKillSwitch configStr => exact h
    | disableKillSwitch =>
      rw [Policy.call]
      split
      · exact hmap strictSettings (fun _ h => h) _ h
      · exact hinitial
    | refresh enabled =>
      cases enabled with
      | true => exact h
      | false => exact hinitial
    | resetAllowedRange ranges => exact hmap (rangeSettings ranges) (fun _ h => h) _ h
    | addAllowedRange ranges => exact hmap (rangeSettings _) (fun _ h => h) _ h
  refine Trace.run_invariant hstep ?_ calls
  cases strict <;> exact hinitial

theorem Untouched.verdict_enable {x : Settings} (h : Untouched x) (configStr : JsonObject)
    (p : Packet) :
    (enableSettings configStr x).verdict q p = (enableSettings configStr .initial).verdict q p := by
  obtain ⟨hdns, hvpn, hnets⟩ := h
  cases hf : p.dst.family with
  | IPv4 =>
    rw [Settings.verdict_v4 hf, Settings.verdict_v4 hf]
    simp only [Settings.decides, hf]
    rfl
  | IPv6 =>
    rw [Settings.verdict_v6 hf, Settings.verdict_v6 hf]
    simp only [Settings.decides, hf, enableSettings, hdns, hvpn, hnets]
    rfl

/-- **Enabling forgets**: after all calls, `enableKillSwitch` leaves every packet the verdict it has
when it is the first call. -/
theorem enable_forgets (configStr : JsonObject) (p : Packet) :
    (hostRun q host (calls ++ [.enableKillSwitch configStr]) strict).fw.anchorVerdict p =
      (hostRun q host [.enableKillSwitch configStr] false).fw.anchorVerdict p := by
  have hverdict (calls : List Call) (strict : Bool) :
      (hostRun q host (calls ++ [.enableKillSwitch configStr]) strict).fw.anchorVerdict p =
        (enableSettings configStr .initial).verdict q p := by
    have h := realizes_hostRun (q := q) host calls strict
    rw [hostRun, serviceRun, Trace.run_concat, ← (untouched_run calls strict).verdict_enable]
    exact (holds_enableKillSwitch h.1 configStr).anchorVerdict p
  exact (hverdict calls strict).trans (hverdict [] false).symm

end Dopamine.Linux
