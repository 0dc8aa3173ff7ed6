import Dopamine.Windows.WindowsFirewall

/-!
# The kill switch that calls itself

When a part of `enableInterface` fails it calls `disableKillSwitch`. With the strict kill switch
that is `disableAllTraffic`, and that calls `enableInterface(-1)`, which may fail the same way.
Nothing stops this but an attempt that ends otherwise: everything is enabled, the filters that block
everything cannot be added, or a commit fails.

The calls an attempt makes as long as they succeed are always the same (`interfaceCalls`), and which
of them is the first to fail decides how the attempt ends and with which call the next one begins
(`outcome`). So with the strict kill switch it is the pattern of failing calls alone that decides
whether the three functions return (`returns_iff`). Without it they are nested three deep at most.
-/

namespace Dopamine.Windows.WindowsFirewall

open List

/-! ## The calls of an attempt -/

/-- The calls of `FW_OK` for a rule, each with what follows if it fails: the kill switch is
disabled, at once or after the call that aborts the transaction, or, after the commit, nothing. -/
def ruleCalls (rule : List WfpCall) : List (WfpCall × Option ℕ) :=
  (.transactionBegin, some 0) :: (rule.map (·, some 1) ++ [(.transactionCommit, none)])

/-- The calls of `enableInterface`: for a negative index four filters outside of a transaction, and
then the rules of the adapter, DHCP, Hyper-V, the application, port 53 and the loopbacks. -/
def interfaceCalls (host : WindowsHost) (vpnAdapterIndex : ℤ) : List (WfpCall × Option ℕ) :=
  (if vpnAdapterIndex < 0 then replicate 4 (.filterAdd, none)
    else ruleCalls (replicate 4 .filterAdd)) ++
  [replicate 4 .filterAdd, replicate 2 .filterAdd, .getAppId :: replicate 2 .filterAdd,
    replicate 4 .filterAdd, replicate (4 * host.loopbacks.length) .filterAdd].flatMap ruleCalls

variable {host : WindowsHost} {ok : ℕ → WfpCall → Bool}

/-- How the calls end when they are made from call `n` on, and the number of the call after them. -/
def outcome (ok : ℕ → WfpCall → Bool) : List (WfpCall × Option ℕ) → ℕ → Exit × ℕ
  | [], n => (.next, n)
  | (c, after) :: calls, n =>
      if ok n c then outcome ok calls (n + 1)
      else match after with
        | none => (.failed, n + 1)
        | some aborts => (.fallback, n + 1 + aborts)

/-- Of the attempts from call `n` on, one ends without another. -/
inductive Ends (ok : ℕ → WfpCall → Bool) (calls : List (WfpCall × Option ℕ)) : ℕ → Prop where
  | last {n : ℕ} (h : (outcome ok calls n).1 ≠ .fallback) : Ends ok calls n
  | again {n : ℕ} (h : Ends ok calls (outcome ok calls n).2) : Ends ok calls n

theorem outcome_append (calls calls' : List (WfpCall × Option ℕ)) (n : ℕ) :
    outcome ok (calls ++ calls') n =
      match outcome ok calls n with
      | (.next, n) => outcome ok calls' n
      | r => r := by
  induction calls generalizing n with
  | nil => rfl
  | cons c calls ih =>
    obtain ⟨c, after⟩ := c
    simp only [cons_append, outcome]
    split
    · exact ih (n + 1)
    · cases after <;> rfl

variable {stage : Firewall → Exit × Firewall} {rest : List (Firewall → Exit × Firewall)}
  {calls calls' : List (WfpCall × Option ℕ)} {rule : Firewall → Bool × Firewall}

/-- The part makes the calls. -/
def Makes (ok : ℕ → WfpCall → Bool) (stage : Firewall → Exit × Firewall)
    (calls : List (WfpCall × Option ℕ)) : Prop :=
  ∀ fw, ((stage fw).1, (stage fw).2.calls) = outcome ok calls fw.calls

/-- The rule makes the calls, up to the first that fails. -/
def MakesRule (ok : ℕ → WfpCall → Bool) (rule : Firewall → Bool × Firewall)
    (calls : List WfpCall) : Prop :=
  ∀ fw, ((if (rule fw).1 then .next else .failed), (rule fw).2.calls) =
    outcome ok (calls.map (·, none)) fw.calls

@[simp]
theorem addFilter_calls (peer : String) (filter : WfpFilter) (fw : Firewall) :
    (addFilter peer filter fw).calls = fw.calls := by
  unfold addFilter
  split <;> rfl

theorem makesRule_enableFilters (peer : String) (filters : List WfpFilter) :
    MakesRule ok (enableFilters ok peer filters) (replicate filters.length .filterAdd) := by
  induction filters with
  | nil => exact fun fw => rfl
  | cons filter filters ih =>
    intro fw
    rw [length_cons, replicate_succ, map_cons, outcome, enableFilters]
    cases hok : ok fw.calls .filterAdd with
    | false => simp [enableFilter, ask, hok]
    | true =>
      have hcalls : (enableFilter ok peer filter fw).2.calls = fw.calls + 1 := by
        simp [enableFilter, ask, hok]
      have hadded : (enableFilter ok peer filter fw).1 = true := hok
      rw [if_pos rfl, ← hcalls, ← ih]
      simp only [hadded, if_true]

theorem makesRule_allowTrafficForAppOnAll (path : String) (weight : ℕ) :
    MakesRule ok (allowTrafficForAppOnAll ok path weight)
      (.getAppId :: replicate 2 .filterAdd) := by
  intro fw
  rw [map_cons, outcome, allowTrafficForAppOnAll]
  cases hok : ok fw.calls .getAppId with
  | false => simp [ask, hok]
  | true =>
    have hasked : (ask ok .getAppId fw).1 = true := hok
    rw [if_pos hasked, if_pos rfl]
    exact makesRule_enableFilters "" (appFilters path weight) (ask ok .getAppId fw).2

/-- Within a transaction a failing call is followed by the one that aborts it. -/
theorem outcome_map_some (calls : List WfpCall) (n : ℕ) :
    outcome ok (calls.map (·, some 1)) n =
      match outcome ok (calls.map (·, none)) n with
      | (.next, n) => (.next, n)
      | (_, n) => (.fallback, n + 1) := by
  induction calls generalizing n with
  | nil => rfl
  | cons c calls ih =>
    rw [map_cons, map_cons]
    unfold outcome
    split
    · exact ih (n + 1)
    · rfl

@[simp]
theorem rollback_calls (fw : Firewall) : (rollback fw).calls = fw.calls := by
  unfold rollback
  split <;> rfl

@[simp]
theorem transactionAbort_calls (fw : Firewall) : (transactionAbort ok fw).calls = fw.calls + 1 := by
  unfold transactionAbort
  cases hok : ok fw.calls .transactionAbort <;> simp [ask, hok]

theorem MakesRule.fwOk {calls : List WfpCall} (h : MakesRule ok rule calls) :
    Makes ok (fwOk ok rule) (ruleCalls calls) := by
  intro fw
  rw [ruleCalls, outcome, WindowsFirewall.fwOk]
  cases hbegin : ok fw.calls .transactionBegin with
  | false => simp [transactionBegin, ask, hbegin]
  | true =>
    have hcalls : (transactionBegin ok fw).2.calls = fw.calls + 1 := by
      simp [transactionBegin, ask, hbegin]
    have hbegun : (transactionBegin ok fw).1 = true := hbegin
    have hrule := h (transactionBegin ok fw).2
    rw [hcalls] at hrule
    rw [if_pos rfl, outcome_append, outcome_map_some, ← hrule]
    simp only [hbegun, if_true]
    cases hdone : (rule (transactionBegin ok fw).2).1 with
    | false => simp
    | true =>
      simp only [if_true, outcome]
      cases hcommit : ok (rule (transactionBegin ok fw).2).2.calls .transactionCommit with
      | false => simp [transactionCommit, ask, hcommit]
      | true => simp [transactionCommit, ask, hcommit, endTransaction]

theorem Makes.cons (h : Makes ok stage calls) (hrest : Makes ok (stages rest) calls') :
    Makes ok (stages (stage :: rest)) (calls ++ calls') := by
  intro fw
  rw [outcome_append, ← h fw, stages]
  obtain ⟨exit, fw'⟩ := stage fw
  cases exit with
  | next => exact hrest fw'
  | failed => rfl
  | fallback => rfl

/-- An attempt makes the calls of `interfaceCalls`. -/
theorem makes_attempt (host : WindowsHost) (vpnAdapterIndex : ℤ) :
    Makes ok (attempt host ok vpnAdapterIndex) (interfaceCalls host vpnAdapterIndex) := by
  have hfilters : ∀ (peer : String) (filters : List WfpFilter) {n : ℕ}, filters.length = n →
      MakesRule ok (enableFilters ok peer filters) (replicate n .filterAdd) :=
    fun peer filters _ hlength => hlength ▸ makesRule_enableFilters peer filters
  have hloopbacks : (host.loopbacks.flatMap (adapterFilters · medWeight)).length =
      4 * host.loopbacks.length := by
    simp [length_flatMap, adapterFilters, mul_comm]
  have hnil : Makes ok (stages []) [] := fun _ => rfl
  have hrules := (hfilters "" (dhcpFilters medWeight) rfl).fwOk.cons
    ((hfilters "" (hyperVFilters maxWeight) rfl).fwOk.cons
      ((makesRule_allowTrafficForAppOnAll host.currentPath maxWeight).fwOk.cons
        ((hfilters "" (blockPortFilters 53 medWeight) rfl).fwOk.cons
          ((hfilters "" _ hloopbacks).fwOk.cons hnil))))
  unfold attempt interfaceStages interfaceCalls
  split
  · have hblock : ∀ addr, Makes ok (plain (enableFilters ok "killswitch"
        (rangeFilters .block medWeight addr))) (replicate 2 (.filterAdd, none)) := fun addr =>
      hfilters "killswitch" (n := 2) (rangeFilters .block medWeight addr)
        (by unfold rangeFilters; cases addr.address <;> rfl)
    exact (hblock _).cons ((hblock _).cons hrules)
  · exact (hfilters "" (adapterFilters vpnAdapterIndex.toNat medWeight) rfl).fwOk.cons hrules

theorem Makes.exit (h : Makes ok stage calls) (fw : Firewall) :
    (stage fw).1 = (outcome ok calls fw.calls).1 :=
  congrArg Prod.fst (h fw)

theorem Makes.next (h : Makes ok stage calls) (fw : Firewall) :
    (stage fw).2.calls = (outcome ok calls fw.calls).2 :=
  congrArg Prod.snd (h fw)

/-! ## One level -/

variable (depth : ℕ)

theorem isSome_enableInterface (vpnAdapterIndex : ℤ) (fw : Firewall) :
    (enableInterface host ok (depth + 1) vpnAdapterIndex fw).isSome = true ↔
      (attempt host ok vpnAdapterIndex fw).1 ≠ .fallback ∨
        (disableKillSwitch host ok depth (attempt host ok vpnAdapterIndex fw).2).isSome = true := by
  rw [enableInterface]
  obtain ⟨exit, fw'⟩ := attempt host ok vpnAdapterIndex fw
  cases exit with
  | next => simp
  | failed => simp
  | fallback => simp

theorem isSome_disableKillSwitch (fw : Firewall) :
    (disableKillSwitch host ok (depth + 1) fw).isSome = true ↔
      host.strict = false ∨ (disableAllTraffic host ok depth fw).isSome = true := by
  rw [disableKillSwitch]
  cases host.strict <;> simp

theorem isSome_disableAllTraffic (fw : Firewall) :
    (disableAllTraffic host ok (depth + 1) fw).isSome = true ↔
      (enableInterface host ok depth (-1) fw).isSome = true := by
  rw [disableAllTraffic, Option.isSome_map]

/-! ## All levels -/

/-- Without the strict kill switch three levels are enough. -/
theorem returns_of_not_strict (hstrict : host.strict = false) (vpnAdapterIndex : ℤ)
    (fw : Firewall) :
    (enableInterface host ok 2 vpnAdapterIndex fw).isSome = true ∧
      (disableKillSwitch host ok 1 fw).isSome = true ∧
      (disableAllTraffic host ok 3 fw).isSome = true := by
  have hdisable : ∀ fw, (disableKillSwitch host ok 1 fw).isSome = true := fun fw =>
    (isSome_disableKillSwitch 0 fw).mpr (.inl hstrict)
  have henable : ∀ i fw, (enableInterface host ok 2 i fw).isSome = true := fun i fw =>
    (isSome_enableInterface 1 i fw).mpr (.inr (hdisable _))
  exact ⟨henable vpnAdapterIndex fw, hdisable fw, (isSome_disableAllTraffic 2 fw).mpr (henable _ _)⟩

variable {fw : Firewall}

/-- With the strict kill switch a result comes from an attempt that does not fall back. -/
theorem ends_of_isSome (hstrict : host.strict = true) {depth : ℕ}
    (h : (disableAllTraffic host ok depth fw).isSome = true) :
    Ends ok (interfaceCalls host (-1)) fw.calls := by
  -- the next call of `disableAllTraffic` is three levels down
  induction depth using Nat.strong_induction_on generalizing fw with
  | _ depth ih =>
    match depth with
    | 0 => cases h
    | 1 => cases h
    | depth + 2 =>
      rw [isSome_disableAllTraffic, isSome_enableInterface] at h
      rcases h with h | h
      · exact .last ((makes_attempt host (-1)).exit fw ▸ h)
      · cases depth with
        | zero => cases h
        | succ depth =>
          rw [isSome_disableKillSwitch] at h
          have h := h.resolve_left fun hfalse => nomatch (hstrict.symm.trans hfalse)
          exact .again ((makes_attempt host (-1)).next fw ▸ ih depth (by omega) h)

/-- An attempt that does not fall back ends the calls. -/
theorem exists_isSome_of_ends {n : ℕ} (h : Ends ok (interfaceCalls host (-1)) n)
    (hn : fw.calls = n) : ∃ depth, (disableAllTraffic host ok depth fw).isSome = true := by
  induction h generalizing fw with
  | last h =>
    rw [← hn, ← (makes_attempt host (-1)).exit] at h
    exact ⟨2, (isSome_disableAllTraffic 1 fw).mpr ((isSome_enableInterface 0 (-1) fw).mpr (.inl h))⟩
  | again h ih =>
    rw [← hn, ← (makes_attempt host (-1)).next] at ih
    obtain ⟨depth, hdepth⟩ := ih rfl
    refine ⟨depth + 3, ?_⟩
    rw [isSome_disableAllTraffic, isSome_enableInterface, isSome_disableKillSwitch]
    exact .inr (.inr hdepth)

theorem disableAllTraffic_returns_iff (fw : Firewall) :
    (∃ depth, (disableAllTraffic host ok depth fw).isSome = true) ↔
      host.strict = false ∨ Ends ok (interfaceCalls host (-1)) fw.calls := by
  cases hstrict : host.strict with
  | false => exact ⟨fun _ => .inl rfl, fun _ => ⟨3, (returns_of_not_strict hstrict 0 fw).2.2⟩⟩
  | true =>
    refine ⟨fun ⟨_, h⟩ => .inr (ends_of_isSome hstrict h), fun h => ?_⟩
    exact exists_isSome_of_ends (h.resolve_left fun h => nomatch h) rfl

theorem disableKillSwitch_returns_iff (fw : Firewall) :
    (∃ depth, (disableKillSwitch host ok depth fw).isSome = true) ↔
      host.strict = false ∨ Ends ok (interfaceCalls host (-1)) fw.calls := by
  rw [← disableAllTraffic_returns_iff]
  constructor
  · rintro ⟨depth, h⟩
    cases depth with
    | zero => cases h
    | succ depth =>
      rcases (isSome_disableKillSwitch depth fw).mp h with hstrict | h
      · exact ⟨3, (returns_of_not_strict hstrict 0 fw).2.2⟩
      · exact ⟨depth, h⟩
  · rintro ⟨depth, h⟩
    exact ⟨depth + 1, (isSome_disableKillSwitch depth fw).mpr (.inr h)⟩

theorem enableInterface_returns_iff (vpnAdapterIndex : ℤ) (fw : Firewall) :
    (∃ depth, (enableInterface host ok depth vpnAdapterIndex fw).isSome = true) ↔
      (attempt host ok vpnAdapterIndex fw).1 ≠ .fallback ∨
        ∃ depth, (disableKillSwitch host ok depth
          (attempt host ok vpnAdapterIndex fw).2).isSome = true := by
  constructor
  · rintro ⟨depth, h⟩
    cases depth with
    | zero => cases h
    | succ depth =>
      exact ((isSome_enableInterface depth vpnAdapterIndex fw).mp h).imp_right fun h => ⟨depth, h⟩
  · rintro (h | ⟨depth, h⟩)
    · exact ⟨1, (isSome_enableInterface 0 vpnAdapterIndex fw).mpr (.inl h)⟩
    · exact ⟨depth + 1, (isSome_enableInterface depth vpnAdapterIndex fw).mpr (.inr h)⟩

/-- Whatever calls of the platform fail, the three functions return exactly if the kill switch is
not strict or, of the attempts that the failing calls lead to, one ends without another. If it is
not strict, three nested calls are enough. -/
theorem returns_iff (host : WindowsHost) (ok : ℕ → WfpCall → Bool) (vpnAdapterIndex : ℤ)
    (fw : Firewall) :
    ((∃ depth, (enableInterface host ok depth vpnAdapterIndex fw).isSome = true) ↔
      host.strict = false ∨
        (outcome ok (interfaceCalls host vpnAdapterIndex) fw.calls).1 ≠ .fallback ∨
        Ends ok (interfaceCalls host (-1))
          (outcome ok (interfaceCalls host vpnAdapterIndex) fw.calls).2) ∧
    ((∃ depth, (disableKillSwitch host ok depth fw).isSome = true) ↔
      host.strict = false ∨ Ends ok (interfaceCalls host (-1)) fw.calls) ∧
    ((∃ depth, (disableAllTraffic host ok depth fw).isSome = true) ↔
      host.strict = false ∨ Ends ok (interfaceCalls host (-1)) fw.calls) ∧
    (host.strict = true ∨ (enableInterface host ok 2 vpnAdapterIndex fw).isSome = true ∧
      (disableKillSwitch host ok 1 fw).isSome = true ∧
      (disableAllTraffic host ok 3 fw).isSome = true) := by
  refine ⟨?_, disableKillSwitch_returns_iff fw, disableAllTraffic_returns_iff fw, ?_⟩
  · have hattempt : Makes ok _ (interfaceCalls host vpnAdapterIndex) :=
      makes_attempt host vpnAdapterIndex
    rw [enableInterface_returns_iff, disableKillSwitch_returns_iff, hattempt.exit, hattempt.next]
    exact or_left_comm
  · cases hstrict : host.strict with
    | false => exact .inr (returns_of_not_strict hstrict vpnAdapterIndex fw)
    | true => exact .inl rfl

/-- A host with the strict kill switch. -/
def strictHost : WindowsHost := ⟨true, "", []⟩

/-- No transaction can begin. -/
def noTransaction (_ : ℕ) (c : WfpCall) : Bool := c ≠ .transactionBegin

/-- If no transaction can begin, there is always another attempt. -/
theorem not_ends_noTransaction {n : ℕ} :
    ¬Ends noTransaction (interfaceCalls strictHost (-1)) n := by
  intro h
  induction h with
  | last h => exact h rfl
  | again _ ih => exact ih

/-- With the strict kill switch, and no transaction that can begin, blocking all traffic never
returns. -/
theorem disableAllTraffic_diverges :
    ¬∃ depth, (disableAllTraffic strictHost noTransaction depth create).isSome = true := by
  rw [disableAllTraffic_returns_iff]
  rintro (hstrict | hends)
  · cases hstrict
  · exact not_ends_noTransaction hends

end Dopamine.Windows.WindowsFirewall
