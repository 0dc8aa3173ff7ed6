import Dopamine.Netfilter.Ruleset

/-!
# Two owners of one ruleset

A table is shared by a program, which owns the chains that satisfy `mine`, and by everybody else.
`overlay mine h own` is the table made of the others' part `h` and the program's part `own`. A
command on a chain of the program acts on `own` alone, which is the frame rule the lemmas below
state for each command.
-/

namespace Netfilter.Ruleset

open List

variable {M V N : Type*} (mine : N → Bool)

/-- The table with the others' part `h` and the program's part `own`. -/
def overlay (h own : Ruleset M V N) : Ruleset M V N where
  chains := h.chains ++ own.chains
  rules c := if mine c then own.rules c else h.rules c
  rules_eq_nil c hc := by
    rw [mem_append, not_or] at hc
    split
    · exact own.rules_eq_nil c hc.2
    · exact h.rules_eq_nil c hc.1

/-- No chain of the ruleset is the program's. -/
def Foreign (h : Ruleset M V N) : Prop := ∀ c ∈ h.chains, mine c = false

/-- Every chain of the ruleset is the program's. -/
def Owned (own : Ruleset M V N) : Prop := ∀ c ∈ own.chains, mine c = true

variable {mine} {h own : Ruleset M V N} {c : N} {r : Rule M V N} {rs : Ruleset M V N}

theorem overlay_rules_mine (hc : mine c = true) : (overlay mine h own).rules c = own.rules c := by
  simp only [overlay, hc, if_true]

theorem overlay_rules_foreign (hc : mine c = false) : (overlay mine h own).rules c = h.rules c := by
  simp only [overlay, hc, Bool.false_eq_true, if_false]

theorem mem_overlay_mine (hh : Foreign mine h) (hc : mine c = true) :
    c ∈ (overlay mine h own).chains ↔ c ∈ own.chains := by
  have hnot : c ∉ h.chains := fun hm => by
    rw [hh c hm] at hc
    cases hc
  simp only [overlay, mem_append, hnot, false_or]

theorem mem_overlay_foreign (ho : Owned mine own) (hc : mine c = false) :
    c ∈ (overlay mine h own).chains ↔ c ∈ h.chains := by
  have hnot : c ∉ own.chains := fun hm => by
    rw [ho c hm] at hc
    cases hc
  simp only [overlay, mem_append, hnot, or_false]

variable [DecidableEq N]

/-- Rewriting a chain of the others rewrites theirs. -/
theorem modify_overlay_foreign (ho : Owned mine own) (hc : mine c = false) (f) :
    (overlay mine h own).modify c f = overlay mine (h.modify c f) own := by
  refine Ruleset.ext' rfl fun d => ?_
  by_cases hd : mine d = true
  · have hdc : d ≠ c := fun e => by
      rw [e, hc] at hd
      cases hd
    simp only [modify, hdc, false_and, if_false]
    rw [overlay_rules_mine hd, overlay_rules_mine hd]
  · have hd' : mine d = false := Bool.eq_false_iff.mpr hd
    rw [overlay_rules_foreign hd']
    simp only [modify, mem_overlay_foreign ho hc, overlay_rules_foreign hd']

section

variable (hh : Foreign mine h) (hc : mine c = true)
include hh hc

/-- Rewriting a chain of the program rewrites its part. -/
theorem modify_overlay_mine (f) :
    (overlay mine h own).modify c f = overlay mine h (own.modify c f) := by
  refine Ruleset.ext' rfl fun d => ?_
  by_cases hd : mine d = true
  · rw [overlay_rules_mine hd]
    simp only [modify, mem_overlay_mine hh hc, overlay_rules_mine hd]
  · have hdc : d ≠ c := fun e => hd (e ▸ hc)
    simp only [modify, hdc, false_and, if_false]
    rw [overlay_rules_foreign (Bool.eq_false_iff.mpr hd),
      overlay_rules_foreign (Bool.eq_false_iff.mpr hd)]

theorem newChain_overlay : newChain c (overlay mine h own) =
    ((newChain c own).1, overlay mine h (newChain c own).2) := by
  simp only [newChain, mem_overlay_mine hh hc]
  split
  · rfl
  · refine Prod.ext rfl (Ruleset.ext' ?_ fun d => rfl)
    simp only [overlay, append_assoc]

theorem flush_overlay :
    flush c (overlay mine h own) = ((flush c own).1, overlay mine h (flush c own).2) := by
  simp only [flush, mem_overlay_mine hh hc, modify_overlay_mine hh hc]
  split <;> rfl

/-- A rule whose target, if it is a chain, is the program's can be added to a chain of the program
exactly when the program's part takes it. -/
theorem accepts_overlay (hr : ∀ d, r.target = .jump d → mine d = true) :
    (overlay mine h own).accepts c r = own.accepts c r := by
  have hmem : decide (c ∈ (overlay mine h own).chains) = decide (c ∈ own.chains) :=
    decide_eq_decide.mpr (mem_overlay_mine hh hc)
  have htgt : (overlay mine h own).targetExists r = own.targetExists r := by
    simp only [targetExists]
    split
    · next d hd => exact decide_eq_decide.mpr (mem_overlay_mine hh (hr d hd))
    · rfl
  rw [accepts, accepts, hmem, htgt]

theorem appendAll_overlay {rl : List (Rule M V N)}
    (hr : ∀ r ∈ rl, ∀ d, r.target = .jump d → mine d = true) :
    appendAll c rl (overlay mine h own) =
      ((appendAll c rl own).1, overlay mine h (appendAll c rl own).2) := by
  have hall : rl.all ((overlay mine h own).accepts c) = rl.all (own.accepts c) := by
    rw [Bool.eq_iff_iff, all_eq_true, all_eq_true]
    refine forall₂_congr fun r hm => ?_
    rw [accepts_overlay hh hc (hr r hm)]
  simp only [appendAll, hall, modify_overlay_mine hh hc]
  split <;> rfl

end

variable [DecidableEq V]

/-- A chain that no foreign rule jumps to is referenced only from the program's part. -/
theorem referenced_overlay (hh : Foreign mine h) (ho : Owned mine own)
    (hj : ∀ d, ∀ r ∈ h.rules d, r.target ≠ .jump c) :
    (overlay mine h own).referenced c = own.referenced c := by
  have hleft : (h.chains.any fun d => ((overlay mine h own).rules d).any
      fun r => decide (r.target = .jump c)) = false := by
    rw [any_eq_false]
    intro d hd hany
    rw [overlay_rules_foreign (hh d hd)] at hany
    obtain ⟨r, hr, hrc⟩ := any_eq_true.mp hany
    exact hj d r hr (of_decide_eq_true hrc)
  have hright : (own.chains.any fun d => ((overlay mine h own).rules d).any
      fun r => decide (r.target = .jump c)) = own.referenced c := by
    rw [referenced, Bool.eq_iff_iff, any_eq_true, any_eq_true]
    refine exists_congr fun d => and_congr_right fun hd => ?_
    rw [overlay_rules_mine (ho d hd)]
  rw [referenced, overlay, any_append]
  exact (congrArg₂ or hleft hright).trans (Bool.false_or _)

/-- A chain that no foreign rule jumps to is deleted from the program's part. -/
theorem deleteChain_overlay (hh : Foreign mine h) (ho : Owned mine own) (hc : mine c = true)
    (hj : ∀ d, ∀ r ∈ h.rules d, r.target ≠ .jump c) :
    deleteChain c (overlay mine h own) =
      ((deleteChain c own).1, overlay mine h (deleteChain c own).2) := by
  have hcond : (c ∈ (overlay mine h own).chains ∧ (overlay mine h own).rules c = [] ∧
      (overlay mine h own).referenced c = false) ↔
      (c ∈ own.chains ∧ own.rules c = [] ∧ own.referenced c = false) := by
    rw [mem_overlay_mine hh hc, overlay_rules_mine hc, referenced_overlay hh ho hj]
  by_cases hdel : c ∈ own.chains ∧ own.rules c = [] ∧ own.referenced c = false
  · rw [deleteChain, if_pos (hcond.mpr hdel), deleteChain, if_pos hdel]
    refine Prod.ext rfl (Ruleset.ext' ?_ fun d => ?_)
    · -- the filter leaves the foreign chains alone
      have hkeep : h.chains.filter (· ≠ c) = h.chains := by
        refine filter_eq_self.mpr fun d hd => decide_eq_true fun e => ?_
        rw [e] at hd
        rw [hh c hd] at hc
        cases hc
      simp only [overlay, filter_append]
      rw [hkeep]
    · by_cases hd : d = c
      · subst hd
        simp only [overlay, hc, if_true]
      · simp only [overlay, hd, if_false]
  · rw [deleteChain, if_neg (fun hx => hdel (hcond.mp hx)), deleteChain, if_neg hdel]

variable [DecidableEq M]

theorem check_overlay (hh : Foreign mine h) (hc : mine c = true)
    (hr : ∀ d, r.target = .jump d → mine d = true) :
    check c r (overlay mine h own) = ((check c r own).1, overlay mine h own) := by
  rw [check, accepts_overlay hh hc hr, overlay_rules_mine hc, check]

theorem delete_overlay (hh : Foreign mine h) (hc : mine c = true)
    (hr : ∀ d, r.target = .jump d → mine d = true) :
    delete c r (overlay mine h own) = ((delete c r own).1, overlay mine h (delete c r own).2) := by
  simp only [delete, accepts_overlay hh hc hr, overlay_rules_mine hc, modify_overlay_mine hh hc]
  split <;> rfl

/-! ## Any command of the program leaves the others' part alone -/

variable (mine) in
/-- The table has the others' part `h`, and the chains of the program that `h` jumps to exist. -/
def Guest (h rs : Ruleset M V N) : Prop :=
  ∃ own, Owned mine own ∧ rs = overlay mine h own ∧
    ∀ d, ∀ r ∈ h.rules d, ∀ c, mine c = true → r.target = .jump c → c ∈ own.chains

variable (hh : Foreign mine h) (hg : Guest mine h rs) (hc : mine c = true)
include hh hg hc

omit [DecidableEq V] [DecidableEq M] in
theorem Guest.modify (f) : Guest mine h (rs.modify c f) := by
  obtain ⟨own, ho, rfl, hj⟩ := hg
  exact ⟨own.modify c f, ho, modify_overlay_mine hh hc f, hj⟩

omit [DecidableEq V] [DecidableEq M] in
theorem Guest.newChain : Guest mine h (rs.newChain c).2 := by
  obtain ⟨own, ho, rfl, hj⟩ := hg
  rw [newChain_overlay hh hc]
  by_cases hm : c ∈ own.chains
  · rw [Ruleset.newChain, if_pos hm]
    exact ⟨own, ho, rfl, hj⟩
  · refine ⟨_, fun d hd => ?_, rfl, fun d r hr c' hc' ht => ?_⟩
    · rw [newChain_chains hm] at hd
      rcases mem_append.mp hd with hd | hd
      · exact ho d hd
      · rw [mem_singleton.mp hd]
        exact hc
    · rw [newChain_chains hm]
      exact mem_append_left _ (hj d r hr c' hc' ht)

omit [DecidableEq M] in
/-- A chain that the others jump to is not deleted. -/
theorem Guest.deleteChain : Guest mine h (rs.deleteChain c).2 := by
  by_cases hdel : c ∈ rs.chains ∧ rs.rules c = [] ∧ rs.referenced c = false
  · obtain ⟨own, ho, rfl, hj⟩ := hg
    have hnone : ∀ d, ∀ r ∈ h.rules d, r.target ≠ .jump c := by
      intro d r hr ht
      have hd : d ∈ h.chains := by
        by_contra hd
        rw [h.rules_eq_nil d hd] at hr
        cases hr
      have href : (overlay mine h own).referenced c = true := by
        refine any_eq_true.mpr ⟨d, mem_append_left _ hd, any_eq_true.mpr ⟨r, ?_, ?_⟩⟩
        · rw [overlay_rules_foreign (hh d hd)]
          exact hr
        · exact decide_eq_true ht
      rw [hdel.2.2] at href
      cases href
    rw [deleteChain_overlay hh ho hc hnone]
    refine ⟨_, ?_, rfl, fun d r hr c' hc' ht => ?_⟩
    · simp only [Ruleset.deleteChain]
      split
      · exact fun d hd => ho d (mem_filter.mp hd).1
      · exact ho
    · have hne : c' ≠ c := fun e => hnone d r hr (e ▸ ht)
      simp only [Ruleset.deleteChain]
      split
      · exact mem_filter.mpr ⟨hj d r hr c' hc' ht, decide_eq_true hne⟩
      · exact hj d r hr c' hc' ht
  · rw [Ruleset.deleteChain, if_neg hdel]
    exact hg

end Netfilter.Ruleset
