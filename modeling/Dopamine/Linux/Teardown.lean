import Dopamine.Linux.LinuxDaemon
import Dopamine.Linux.TunnelFilter

/-!
# What a deactivation leaves

`Daemon::deactivate` is to leave the machine with its network, unless strict mode is on. It does so
through `deleteInterface`, which lifts the kill switch only when there is a process to stop, and it
returns at once while another deactivation is under way. So over every run, the block is gone when
it returns exactly when one of these did not get in the way, or there was no block before
(`deactivate_unblocks_iff`). A block that is gone stays away until an event asks for one.
-/

namespace Dopamine.Linux

open Netfilter Shell LinuxFirewall LinuxDaemon WireguardUtilsLinux List Bool KillSwitch Option

/-- No blocking anchor is enabled. -/
def FwState.Unblocked (st : FwState) : Prop :=
  ∀ ip a, a.action = .reject → isAnchorEnabled ip a .filter st = false

/-- How a call of `deactivate` returns. -/
inductive Return where
  /-- at once: another one is under way -/
  | early
  /-- after `deleteInterface` -/
  | torndown
deriving DecidableEq

/-- How `deactivate` returns in this event, if it does. -/
def deactivateReturn (s : DaemonState) : Event → Option Return
  | .deactivate _ =>
      if s.deactivating then some .early else if isConnected s then none else some .torndown
  | .activate config _ =>
      match s.connections config.hopType with
      | some current =>
          if !Daemon.supportServerSwitching current config && s.deactivating then some .early else none
      | none => none
  | .answer _ =>
      match s.waiting with
      | .deactivate _ :: _ => some .torndown
      | _ => none
  | _ => none

/-- An event that asks for blocking rules. -/
def asksBlock (s : DaemonState) : Event → Bool
  | .call (.enableKillSwitch _) | .call (.refresh true) => true
  | e => (appliedConfig s e).isSome

/-! ## Settings without a block -/

/-- No blocking anchor of the table of its family is enabled. -/
def Settings.Unblocked (x : Settings) : Prop :=
  ∀ f, ∀ a ∈ anchorsOf f .filter, a.action = .reject → x.enabled f a = false

section Unblocked

variable {q : Platform} {st : FwState} {o : Option Settings}

theorem Holds.unblocked_none (hst : Holds q st none) : st.Unblocked := by
  intro ip a _
  rw [LinuxFirewall.isAnchorEnabled]
  refine check_jumpTo_eq_false fun hx => ?_
  have hm := hx.2
  rw [hst.rules_eq_nil _ rfl] at hm
  cases hm

theorem Holds.unblocked_iff (hst : Holds q st o) : st.Unblocked ↔ ∀ x ∈ o, x.Unblocked := by
  cases o with
  | none => exact ⟨fun _ x hx => (nomatch hx), fun _ => hst.unblocked_none⟩
  | some x =>
    have hx : ∀ f a, x.enabled f a = false ∧ a ∈ anchorsOf f .filter ∨ a ∉ anchorsOf f .filter →
        LinuxFirewall.isAnchorEnabled (if f = .IPv6 then .IPv6 else .IPv4) a .filter st
          = false := by
      rintro f a (⟨hen, ha⟩ | ha)
      · rw [hst.isAnchorEnabled f ha, hen]
      · exact hst.isAnchorEnabled_of_not_mem f ha
    constructor
    · intro h y hy f a ha hact
      rw [← some.inj hy, ← hst.isAnchorEnabled f ha]
      exact h _ a hact
    · intro h ip a hact
      have hfam : LinuxFirewall.isAnchorEnabled ip a .filter st =
          LinuxFirewall.isAnchorEnabled (if (if ip = .IPv6 then Family.IPv6 else .IPv4) = .IPv6
            then .IPv6 else .IPv4) a .filter st := by cases ip <;> rfl
      rw [hfam]
      by_cases ha : a ∈ anchorsOf (if ip = .IPv6 then .IPv6 else .IPv4) .filter
      · exact hx _ a (.inl ⟨h x rfl _ a ha hact, ha⟩)
      · exact hx _ a (.inr ha)

/-- Without an enabled blocking anchor no packet is rejected. -/
theorem Holds.anchorVerdict_ne_reject (hst : Holds q st o) (h : st.Unblocked) (p : Packet) :
    st.anchorVerdict p ≠ some .reject := by
  cases o with
  | none =>
    have hnone : st.anchorVerdict p = none := by
      rw [FwState.anchorVerdict, Ruleset.verdict, evalChain, hst.rules_eq_nil _ rfl, evalRules_nil]
    rw [hnone]
    exact (some_ne_none _).symm
  | some x =>
    intro hv
    rw [hst.anchorVerdict] at hv
    obtain ⟨a, ha, hdec⟩ := exists_of_findSome?_eq_some hv
    have hen := hst.unblocked_iff.mp h x rfl p.dst.family a ha
    rw [Settings.decides] at hdec
    split at hdec
    · next hhit =>
      rw [hen (some.inj hdec), Bool.false_and] at hhit
      cases hhit
    · cases hdec

end Unblocked

/-! ## The return, and what follows -/

section Return

variable {q : Platform} {s : DaemonState} {e : Event}

/-- The kill switch is lifted when `deleteInterface` is reached with a process to stop. -/
theorem service_of_return {r : Return} (hr : deactivateReturn s e = some r) :
    (step q s e).wg.service =
      if r = .torndown ∧ s.wg.tunnel ≠ .NotRunning then
        KillSwitch.disableKillSwitch q s.wg.service
      else s.wg.service := by
  have hearly : s.wg.service = if Return.early = .torndown ∧ s.wg.tunnel ≠ .NotRunning then
      KillSwitch.disableKillSwitch q s.wg.service else s.wg.service :=
    (if_neg fun h => Return.noConfusion h.1).symm
  have htorn : (deleteInterface q s.wg).2.service =
      if Return.torndown = .torndown ∧ s.wg.tunnel ≠ .NotRunning then
        KillSwitch.disableKillSwitch q s.wg.service else s.wg.service := by
    rw [deleteInterface_service]
    by_cases h : s.wg.tunnel = .NotRunning
    · rw [if_pos h, if_neg fun hx => hx.2 h]
    · rw [if_neg h, if_pos ⟨rfl, h⟩]
  unfold deactivateReturn at hr
  cases e with
  | deactivate ans =>
    dsimp only at hr
    unfold step deactivate
    dsimp only
    split at hr
    · next h =>
      rw [← some.inj hr, if_pos h]
      exact hearly
    split at hr
    · cases hr
    · next h h' =>
      rw [← some.inj hr, if_neg h, if_neg h', finishDeactivate_service]
      exact htorn
  | activate config ans =>
    unfold step activate
    dsimp only at hr ⊢
    cases hcurrent : s.connections config.hopType with
    | none =>
      rw [hcurrent] at hr
      cases hr
    | some current =>
      rw [hcurrent] at hr
      dsimp only at hr ⊢
      split at hr
      · next h =>
        obtain ⟨hswitch, hdeact⟩ := (and_eq_true _ _).mp h
        rw [not_eq_true'] at hswitch
        rw [← some.inj hr, if_neg (eq_false_iff.mp hswitch)]
        unfold deactivate
        rw [if_pos hdeact]
        exact hearly
      · cases hr
  | answer ans =>
    dsimp only at hr
    unfold step answer
    split at hr
    · next next waiting hwaiting =>
      rw [← some.inj hr, hwaiting]
      exact (finishDeactivate_service q ans { s with waiting := waiting } next).trans htorn
    · cases hr
  | exit | call c => cases hr

/-- Strict mode is off and nothing is blocked. -/
structure Lifted (q : Platform) (s : DaemonState) : Prop where
  relaxed : s.wg.service.strict = false
  unblocked : ∃ o, Holds q s.wg.service.fw o ∧ ∀ x ∈ o, x.Unblocked

/-- The uninstalled firewall blocks nothing. -/
theorem exists_unblocked_disableKillSwitch {v : Service} {o : Option Settings}
    (ho : Holds q v.fw o) (hstrict : v.strict = false) :
    ∃ o', Holds q (KillSwitch.disableKillSwitch q v).fw o' ∧ ∀ x ∈ o', x.Unblocked := by
  have h := holds_disableKillSwitch ho
  rw [hstrict] at h
  exact ⟨none, h, fun x hx => nomatch hx⟩

/-- New ranges enable no blocking anchor. -/
theorem Settings.Unblocked.range {x : Settings} (h : x.Unblocked) (ranges : List String) :
    (KillSwitch.rangeSettings ranges x).Unblocked := by
  intro f a ha hact
  have hsame : (KillSwitch.rangeSettings ranges x).enabled f a = x.enabled f a := by
    cases a with
    | allowNets => cases hact
    | _ => cases f <;> rfl
  rw [hsame]
  exact h f a ha hact

/-- Only an event that asks for a block brings one back. -/
theorem Lifted.step (h : Lifted q s) (he : asksBlock s e = false) :
    Lifted q (LinuxDaemon.step q s e) := by
  obtain ⟨hstrict, o, ho, hun⟩ := h
  rcases step_service q s e with ⟨config, happ, -⟩ | ⟨c, rfl, hs⟩ | ⟨-, -, hs | ⟨-, hs⟩⟩
  · -- rules are only applied by an event that asks for them
    have hask : asksBlock s e = true := by
      cases e with
      | answer ans => exact congrArg isSome happ
      | _ => cases happ
    rw [hask] at he
    cases he
  · have hranges : ∀ ranges, ∃ o', Holds q (KillSwitch.resetAllowedRange q ranges s.wg.service).fw
        o' ∧ ∀ x ∈ o', x.Unblocked := by
      intro ranges
      refine ⟨_, holds_resetAllowedRange ho ranges, fun x hx => ?_⟩
      obtain ⟨y, hy, rfl⟩ := map_eq_some_iff.mp hx
      exact (hun y hy).range ranges
    cases c with
    | enableKillSwitch configStr => cases he
    | disableKillSwitch => exact ⟨hstrict, exists_unblocked_disableKillSwitch ho hstrict⟩
    | refresh enabled =>
      cases enabled with
      | true => cases he
      | false =>
        exact ⟨rfl,
          exists_unblocked_disableKillSwitch (v := { s.wg.service with strict := false }) ho rfl⟩
    | resetAllowedRange ranges => exact ⟨hstrict, hranges ranges⟩
    | addAllowedRange ranges =>
      exact ⟨hstrict, hranges (KillSwitch.addRanges ranges s.wg.service.allowedRanges)⟩
  · exact ⟨by rw [hs, hstrict], by rw [hs]; exact ⟨o, ho, hun⟩⟩
  · refine ⟨by rw [hs]; exact hstrict, ?_⟩
    rw [hs]
    exact exists_unblocked_disableKillSwitch ho hstrict

end Return

/-- In every run with strict mode off, nothing is blocked when `deactivate` returns exactly when
nothing was blocked before, or `deleteInterface` was reached and found a process to stop. From then
on no packet is rejected, until an event asks for a block. -/
theorem deactivate_unblocks_iff {q : Platform} (host : Family → (t : Table) → Host t)
    {start : FwState} (hstart : ∀ f, start.kernel f .filter = (host f .filter).rs) (strict : Bool)
    (es : List Event) (e : Event) {r : Return}
    (hr : deactivateReturn (runEvents q start strict es) e = some r)
    (hstrict : (runEvents q start strict es).wg.service.strict = false) :
    ((runEvents q start strict (es ++ [e])).wg.service.fw.Unblocked ↔
      (runEvents q start strict es).wg.service.fw.Unblocked ∨
        r = .torndown ∧ (runEvents q start strict es).wg.tunnel ≠ .NotRunning) ∧
    ((runEvents q start strict (es ++ [e])).wg.service.fw.Unblocked →
      ∀ later, Trace.Meets (step q) (fun s e' => asksBlock s e' = false)
          (runEvents q start strict (es ++ [e])) later →
        ∀ reached, reached <+: later →
          (runEvents q start strict (es ++ e :: reached)).wg.service.fw.Unblocked ∧
          ∀ p, (runEvents q start strict (es ++ e :: reached)).wg.service.fw.anchorVerdict p ≠
            some .reject) := by
  obtain ⟨o, ho⟩ := inOrder_runEvents (q := q) host hstart strict es
  have hnext : runEvents q start strict (es ++ [e]) = step q (runEvents q start strict es) e :=
    Trace.run_concat ..
  have hservice := service_of_return (q := q) hr
  rw [← hnext] at hservice
  refine ⟨?_, fun hun later hmeets reached hreached => ?_⟩
  · rw [hservice]
    by_cases h : r = .torndown ∧ (runEvents q start strict es).wg.tunnel ≠ .NotRunning
    · obtain ⟨o', ho', hun⟩ := exists_unblocked_disableKillSwitch ho hstrict
      rw [if_pos h]
      exact ⟨fun _ => .inr h, fun _ => ho'.unblocked_iff.mpr hun⟩
    · rw [if_neg h]
      exact ⟨.inl, fun h' => h'.resolve_right h⟩
  · have hrelaxed : (runEvents q start strict (es ++ [e])).wg.service.strict = false := by
      rw [hservice]
      split <;> exact hstrict
    obtain ⟨o', ho'⟩ := inOrder_runEvents (q := q) host hstart strict (es ++ [e])
    have hlifted : Lifted q (runEvents q start strict (es ++ [e])) :=
      ⟨hrelaxed, o', ho', ho'.unblocked_iff.mp hun⟩
    have hstep : ∀ s e', asksBlock s e' = false → Lifted q s → Lifted q (step q s e') :=
      fun _ _ he' hs => hs.step he'
    obtain ⟨-, o'', ho'', hun''⟩ := hmeets.invariant hstep hlifted hreached
    have hrun : runEvents q start strict (es ++ e :: reached) =
        Trace.run (step q) (runEvents q start strict (es ++ [e])) reached := by
      simp only [runEvents, Trace.run, foldl_append, foldl_cons, foldl_nil]
    rw [hrun]
    have hopen := ho''.unblocked_iff.mpr hun''
    exact ⟨hopen, ho''.anchorVerdict_ne_reject hopen⟩

/-- Everything goes well. -/
def sampleAnswer : Answer := ⟨sampleOutcome, true, true⟩

/-- A full tunnel comes up. -/
def sampleUp : List Event :=
  [.activate (sampleConfig [.any4] []) sampleAnswer, .answer sampleAnswer, .answer sampleAnswer]

/-- With the process still there, a deactivation opens the way again. -/
theorem deactivate_unblocks_sample :
    (runEvents .plain sampleTables false (sampleUp ++ [.deactivate sampleAnswer] ++
      [.answer sampleAnswer])).wg.service.fw.Unblocked := by
  refine (deactivate_unblocks_iff (r := .torndown) (fun f t => (sampleTables_pristine f t).host)
    (fun _ => rfl) false _ _ ?_ ?_).1.mpr (.inr ⟨rfl, ?_⟩)
  · decide +kernel
  · decide +kernel
  · decide +kernel

/-- When the process ends before the deactivation, all traffic stays blocked. -/
theorem deactivate_leaves_block :
    let s := runEvents .plain sampleTables false (sampleUp ++ [.exit, .deactivate sampleAnswer])
    let later := (step .plain s (.answer sampleAnswer)).wg.service
    deactivateReturn s (.answer sampleAnswer) = some .torndown ∧ later.strict = false ∧
      isAnchorEnabled .IPv4 .blockAll .filter later.fw = true ∧
      later.fw.verdict (samplePacket (.v4 0x08080808#32)) = some .reject := by
  refine ⟨?_, ?_, ?_, ?_⟩ <;> decide +kernel

end Dopamine.Linux
