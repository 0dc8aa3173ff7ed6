import Mathlib.Logic.Function.Basic

/-!
# Control structure of shell scripts

A script is built from commands by the connectives a `sh -c` one-liner uses. The commands are a
parameter: `run` says what one command does to a state and whether it exits with status zero, and
`Sh.exec` extends it to whole scripts. Only the exit status decides which branch is taken.
-/

namespace Shell

variable {κ σ : Type*}

/-- A shell script over the commands `κ`. -/
inductive Sh (κ : Type*) where
  /-- a single command -/
  | run (c : κ)
  /-- a command that only prints, such as `echo` -/
  | echo
  /-- `a && b` -/
  | andThen (a b : Sh κ)
  /-- `a || b` -/
  | orElse (a b : Sh κ)
  /-- `a ; b` -/
  | seq (a b : Sh κ)
  /-- `if a ; then b ; else c ; fi` -/
  | ite (a b c : Sh κ)
  /-- `if ! a ; then b ; else c ; fi` -/
  | iteNot (a b c : Sh κ)

/-- Run a script: its exit status (`true` is zero) and the state it leaves. -/
def Sh.exec (run : κ → σ → Bool × σ) : Sh κ → σ → Bool × σ
  | .run c, s => run c s
  | .echo, s => (true, s)
  | .andThen a b, s =>
      let r := a.exec run s
      if r.1 then b.exec run r.2 else r
  | .orElse a b, s =>
      let r := a.exec run s
      if r.1 then r else b.exec run r.2
  | .seq a b, s => b.exec run (a.exec run s).2
  | .ite a b c, s =>
      let r := a.exec run s
      if r.1 then b.exec run r.2 else c.exec run r.2
  | .iteNot a b c, s =>
      let r := a.exec run s
      if r.1 then c.exec run r.2 else b.exec run r.2

/-- Every command of the script satisfies `P`. -/
def Sh.All (P : κ → Prop) : Sh κ → Prop
  | .run c => P c
  | .echo => True
  | .andThen a b | .orElse a b | .seq a b => a.All P ∧ b.All P
  | .ite a b c | .iteNot a b c => a.All P ∧ b.All P ∧ c.All P

variable {run : κ → σ → Bool × σ} {P : κ → Prop} {s : σ}

/-- A property of the state that the commands of a script keep is kept by the script. -/
theorem Sh.exec_invariant {I : σ → Prop} (hrun : ∀ c, P c → ∀ s, I s → I (run c s).2) (sc : Sh κ)
    (hsc : sc.All P) (hs : I s) : I (sc.exec run s).2 := by
  induction sc generalizing s with
  | run c => exact hrun c hsc s hs
  | echo => exact hs
  | andThen a b iha ihb =>
    simp only [Sh.exec]
    split
    · exact ihb hsc.2 (iha hsc.1 hs)
    · exact iha hsc.1 hs
  | orElse a b iha ihb =>
    simp only [Sh.exec]
    split
    · exact iha hsc.1 hs
    · exact ihb hsc.2 (iha hsc.1 hs)
  | seq a b iha ihb => exact ihb hsc.2 (iha hsc.1 hs)
  | ite a b c iha ihb ihc =>
    simp only [Sh.exec]
    split
    · exact ihb hsc.2.1 (iha hsc.1 hs)
    · exact ihc hsc.2.2 (iha hsc.1 hs)
  | iteNot a b c iha ihb ihc =>
    simp only [Sh.exec]
    split
    · exact ihc hsc.2.2 (iha hsc.1 hs)
    · exact ihb hsc.2.1 (iha hsc.1 hs)

/-- If every command of a script exits alike on related states and keeps them related, so does the
script: the two executions take the same branches. -/
theorem Sh.exec_sim {τ : Type*} {run' : κ → τ → Bool × τ} {R : σ → τ → Prop}
    (hrun : ∀ c, P c → ∀ s t, R s t → (run c s).1 = (run' c t).1 ∧ R (run c s).2 (run' c t).2)
    (sc : Sh κ) (hsc : sc.All P) {t : τ} (hst : R s t) :
    (sc.exec run s).1 = (sc.exec run' t).1 ∧ R (sc.exec run s).2 (sc.exec run' t).2 := by
  induction sc generalizing s t with
  | run c => exact hrun c hsc s t hst
  | echo => exact ⟨rfl, hst⟩
  | andThen a b iha ihb =>
    obtain ⟨heq, hrel⟩ := iha hsc.1 hst
    simp only [Sh.exec, heq]
    split
    · exact ihb hsc.2 hrel
    · exact ⟨heq, hrel⟩
  | orElse a b iha ihb =>
    obtain ⟨heq, hrel⟩ := iha hsc.1 hst
    simp only [Sh.exec, heq]
    split
    · exact ⟨heq, hrel⟩
    · exact ihb hsc.2 hrel
  | seq a b iha ihb => exact ihb hsc.2 (iha hsc.1 hst).2
  | ite a b c iha ihb ihc =>
    obtain ⟨heq, hrel⟩ := iha hsc.1 hst
    simp only [Sh.exec, heq]
    split
    · exact ihb hsc.2.1 hrel
    · exact ihc hsc.2.2 hrel
  | iteNot a b c iha ihb ihc =>
    obtain ⟨heq, hrel⟩ := iha hsc.1 hst
    simp only [Sh.exec, heq]
    split
    · exact ihc hsc.2.2 hrel
    · exact ihb hsc.2.1 hrel

end Shell
