import Mathlib.Data.List.Basic

/-!
# Runs of a step function

A system is a step function on states and events, and `run` is the state after a list of events.
`Meets` says that every step of a run meets a condition on its event and on the state before it.
`Meets.invariant` carries what such steps keep to every state of the run.
-/

namespace Trace

open List

universe u v

variable {σ : Type u} {ε : Type v} (step : σ → ε → σ)

/-- The state after the events. -/
def run (s : σ) (es : List ε) : σ := es.foldl step s

/-- Every step from `s` on meets the condition. -/
def Meets (cond : σ → ε → Prop) : σ → List ε → Prop
  | _, [] => True
  | s, e :: es => cond s e ∧ Meets cond (step s e) es

variable {step}

theorem run_concat (s : σ) (es : List ε) (e : ε) :
    run step s (es ++ [e]) = step (run step s es) e :=
  foldl_concat ..

variable {cond : σ → ε → Prop} {Inv Good : σ → Prop} {s : σ} {es : List ε} {scope : ε → Prop}
  {R : σ → σ → Prop}

/-- What every step keeps holds in every state of a run. -/
theorem Meets.invariant (hstep : ∀ s e, cond s e → Inv s → Inv (step s e))
    (hmeets : Meets step cond s es) (hs : Inv s) {reached : List ε} (hreached : reached <+: es) :
    Inv (run step s reached) := by
  induction reached generalizing s es with
  | nil => exact hs
  | cons e reached ih =>
    obtain ⟨rest, rfl⟩ := hreached
    exact ih hmeets.2 (hstep s e hmeets.1 hs) ⟨rest, rfl⟩

/-- What every event of a kind keeps holds after events of that kind. -/
theorem run_invariant_of_mem (hstep : ∀ s e, scope e → Inv s → Inv (step s e)) (hs : Inv s)
    (hes : ∀ e ∈ es, scope e) : Inv (run step s es) := by
  induction es generalizing s with
  | nil => exact hs
  | cons e es ih =>
    exact ih (hstep s e (hes e mem_cons_self) hs) fun e' h =>
      hes e' (mem_cons_of_mem _ h)

/-- What every step keeps, without a condition. -/
theorem run_invariant (hstep : ∀ s e, Inv s → Inv (step s e)) (hs : Inv s) (es : List ε) :
    Inv (run step s es) :=
  run_invariant_of_mem (fun s e (_ : True) h => hstep s e h) hs fun _ _ => trivial

/-- When the condition on a step in some scope says exactly what keeps a good state good, every state
of a run is good exactly when every step of it meets the condition. -/
theorem forall_good_iff_meets {scope : σ → ε → Prop}
    (hgood : ∀ s e, scope s e → Good s → (Good (step s e) ↔ cond s e))
    (hscope : Meets step scope s es) :
    (∀ reached, reached <+: es → Good (run step s reached)) ↔ Good s ∧ Meets step cond s es := by
  induction es generalizing s with
  | nil =>
    refine ⟨fun h => ⟨h [] nil_prefix, trivial⟩, fun h reached hreached => ?_⟩
    rw [prefix_nil.mp hreached]
    exact h.1
  | cons e es ih =>
    constructor
    · intro h
      have hs : Good s := h [] nil_prefix
      have hnext := (ih hscope.2).mp fun reached hreached =>
        h (e :: reached) (cons_prefix_cons.mpr ⟨rfl, hreached⟩)
      exact ⟨hs, (hgood s e hscope.1 hs).mp hnext.1, hnext.2⟩
    · rintro ⟨hs, hcond, hmeets⟩ reached hreached
      cases reached with
      | nil => exact hs
      | cons e' reached =>
        obtain ⟨rfl, htail⟩ := cons_prefix_cons.mp hreached
        have hone : Good (step s e') := (hgood s e' hscope.1 hs).mpr hcond
        exact (ih hscope.2).mpr ⟨hone, hmeets⟩ reached htail

/-- A transitive relation that every step is in, or that every step with a condition is in, relates
any two states of a run in their order. -/
theorem Meets.pair (hrefl : ∀ s, R s s) (htrans : ∀ a b c, R a b → R b c → R a c)
    (hstep : ∀ s e, cond s e → R s (step s e)) (hmeets : Meets step cond s es)
    {earlier later : List ε} (hearlier : earlier <+: later) (hlater : later <+: es) :
    R (run step s earlier) (run step s later) := by
  have hstart : ∀ {s : σ} {es later : List ε}, Meets step cond s es → later <+: es →
      R s (run step s later) := by
    intro s es later hmeets hlater
    induction later generalizing s es with
    | nil => exact hrefl s
    | cons e later ih =>
      obtain ⟨rest, rfl⟩ := hlater
      exact htrans _ _ _ (hstep s e hmeets.1) (ih hmeets.2 ⟨rest, rfl⟩)
  induction earlier generalizing s es later with
  | nil => exact hstart hmeets hlater
  | cons e earlier ih =>
    obtain ⟨mid, rfl⟩ := hearlier
    obtain ⟨rest, rfl⟩ := hlater
    exact ih hmeets.2 ⟨mid, rfl⟩ ⟨rest, rfl⟩

/-- If the condition says exactly which steps are in a transitive relation, it holds at every step
of a run exactly when any two states of it are related in their order. -/
theorem forall_pair_iff_meets (hrefl : ∀ s, R s s) (htrans : ∀ a b c, R a b → R b c → R a c)
    (hstep : ∀ s e, R s (step s e) ↔ cond s e) :
    (∀ earlier later, earlier <+: later → later <+: es →
      R (run step s earlier) (run step s later)) ↔ Meets step cond s es := by
  constructor
  · intro h
    induction es generalizing s with
    | nil => trivial
    | cons e es ih =>
      refine ⟨(hstep s e).mp (h [] [e] nil_prefix ⟨es, rfl⟩), ih fun earlier later he hl => ?_⟩
      exact h (e :: earlier) (e :: later) (cons_prefix_cons.mpr ⟨rfl, he⟩)
        (cons_prefix_cons.mpr ⟨rfl, hl⟩)
  · intro hmeets earlier later he hl
    exact hmeets.pair hrefl htrans (fun s e => (hstep s e).mpr) he hl

theorem meets_of_forall (h : ∀ s e, cond s e) (s : σ) (es : List ε) : Meets step cond s es := by
  induction es generalizing s with
  | nil => trivial
  | cons e es ih => exact ⟨h s e, ih _⟩

/-- A condition is met if it holds at the state before every event. -/
theorem meets_iff_forall_before :
    Meets step cond s es ↔ ∀ before e, before ++ [e] <+: es → cond (run step s before) e := by
  induction es generalizing s with
  | nil =>
    refine iff_of_true trivial fun before e h => ?_
    exact absurd (prefix_nil.mp h) (by simp)
  | cons e es ih =>
    constructor
    · rintro ⟨hcond, hmeets⟩ before e' h
      cases before with
      | nil =>
        obtain ⟨rfl, -⟩ := cons_prefix_cons.mp h
        exact hcond
      | cons e'' before =>
        obtain ⟨rfl, htail⟩ := cons_prefix_cons.mp h
        exact ih.mp hmeets before e' htail
    · intro h
      refine ⟨h [] e ⟨es, rfl⟩, ih.mpr fun before e' hprefix => ?_⟩
      exact h (e :: before) e' (cons_prefix_cons.mpr ⟨rfl, hprefix⟩)

/-! ## Observers -/

/-- The step of a system together with an observer, who sees every event and the state before it. -/
def watch {γ : Type*} (step : σ → ε → σ) (observe : σ → ε → γ → γ) (p : σ × γ) (e : ε) : σ × γ :=
  (step p.1 e, observe p.1 e p.2)

instance Meets.decidable {cond : σ → ε → Prop} [∀ s e, Decidable (cond s e)] :
    ∀ (s : σ) (es : List ε), Decidable (Meets step cond s es)
  | _, [] => .isTrue trivial
  | s, e :: es => @instDecidableAnd _ _ inferInstance (Meets.decidable (step s e) es)

end Trace
