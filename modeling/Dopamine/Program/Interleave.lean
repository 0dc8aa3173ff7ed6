import Mathlib.Data.List.ReduceOption
import Dopamine.Program.Prog
import Dopamine.Trace.Runs

/-!
# Requests that are delivered inside one another

Some calls wait for their reply and let other requests in meanwhile. A program at such a call is
kept on a stack, as nested event loops keep their callers: a request that comes in runs first, and
the innermost program goes on first. Each program gets its own replies, whatever runs in between,
and keeps the request it is for.

`finish` is the state after everything that waits has gone on. An answer does not change it
(`finish_answer`). A request that comes when nothing waits is executed after what came before
(`finish_enter`), and one that changes nothing might have been (`finish_enter_of_inert`). If every
request does one or the other, in states with what all steps keep, they behave as if executed one
after another (`finish_run`).
-/

namespace Prog

variable {κ δ ρ σ α : Type}

/-- A program for a request, with the replies it gets. -/
structure Job (κ δ ρ α : Type) where
  request : α
  prog : Prog κ δ Bool
  replies : List ρ

/-- The state, and the programs that wait at a call, innermost first. -/
structure Machine (κ δ ρ σ α : Type) where
  sys : Sys δ σ
  waiting : List (Job κ δ ρ α)

section

variable [Inhabited ρ] (exec : κ → ρ → σ → Bool × σ) (waits : κ → Bool)

/-- The state after a program has run. -/
def Job.after (job : Job κ δ ρ α) (s : Sys δ σ) : Sys δ σ := (run exec job.prog job.replies s).2.2

/-- Run a program up to a call that waits. -/
def advance (request : α) : Prog κ δ Bool → List ρ → Sys δ σ → Option (Job κ δ ρ α) × Sys δ σ
  | .done _, _, s => (none, s)
  | .call c next, rs, s =>
      if waits c then (some ⟨request, .call c next, rs⟩, s)
      else
        let r := exec c rs.headI s.env
        advance request (next r.1) rs.tail { s with env := r.2 }
  | .get next, rs, s => advance request (next s.vars) rs s
  | .set d next, rs, s => advance request next rs { s with vars := d }

namespace Machine

/-- A program starts. -/
def enter (job : Job κ δ ρ α) (m : Machine κ δ ρ σ α) : Machine κ δ ρ σ α :=
  let r := advance exec waits job.request job.prog job.replies m.sys
  ⟨r.2, r.1.toList ++ m.waiting⟩

/-- The reply to the innermost call that waits. -/
def answer (m : Machine κ δ ρ σ α) : Machine κ δ ρ σ α :=
  match m.waiting with
  | [] => m
  | ⟨request, .call c next, rs⟩ :: waiting =>
      let r := exec c rs.headI m.sys.env
      enter exec waits ⟨request, next r.1, rs.tail⟩ ⟨{ m.sys with env := r.2 }, waiting⟩
  | job :: waiting => enter exec waits job { m with waiting := waiting }

/-- A request arrives, or the reply to the innermost call. -/
def step (job : α → Job κ δ ρ α) (m : Machine κ δ ρ σ α) : Option α → Machine κ δ ρ σ α
  | some a => m.enter exec waits (job a)
  | none => m.answer exec waits

/-- The state after all that waits has gone on. -/
def finish (m : Machine κ δ ρ σ α) : Sys δ σ :=
  m.waiting.foldl (fun s job => job.after exec s) m.sys

end Machine

variable {exec waits} (request : α)

/-- What is left of a program, run to its end, is the program run to its end. -/
theorem foldl_advance (p : Prog κ δ Bool) (rs : List ρ) (s : Sys δ σ) :
    (advance exec waits request p rs s).1.toList.foldl (fun s job => job.after exec s)
        (advance exec waits request p rs s).2 =
      Job.after exec ⟨request, p, rs⟩ s := by
  induction p generalizing rs s with
  | done a => rfl
  | call c next ih =>
    unfold advance
    split
    · rfl
    · exact ih _ _ _
  | get next ih => exact ih _ _ _
  | set d next ih => exact ih _ _

/-- What is left of a program is for the same request. -/
theorem request_of_mem_advance (p : Prog κ δ Bool) (rs : List ρ) (s : Sys δ σ) {job : Job κ δ ρ α}
    (h : job ∈ (advance exec waits request p rs s).1) : job.request = request := by
  induction p generalizing rs s with
  | done a => cases h
  | call c next ih =>
    unfold advance at h
    split at h
    · rw [← Option.some.inj h]
    · exact ih _ _ _ h
  | get next ih => exact ih _ _ _ h
  | set d next ih => exact ih _ _ h

namespace Machine

variable (job : Job κ δ ρ α)

/-- A program that waits waited before, or it is the one that starts. -/
theorem mem_waiting_enter {m : Machine κ δ ρ σ α} {j : Job κ δ ρ α}
    (h : j ∈ (m.enter exec waits job).waiting) : j.request = job.request ∨ j ∈ m.waiting :=
  (List.mem_append.mp h).imp_left fun h =>
    request_of_mem_advance _ _ _ _ (Option.mem_toList.mp h)

/-- After an answer nothing waits that is for another request. -/
theorem mem_waiting_answer {m : Machine κ δ ρ σ α} {j : Job κ δ ρ α}
    (h : j ∈ (m.answer exec waits).waiting) : ∃ j' ∈ m.waiting, j'.request = j.request := by
  obtain ⟨sys, waiting⟩ := m
  cases waiting with
  | nil => cases h
  | cons job waiting =>
    obtain ⟨request, p, rs⟩ := job
    cases p <;> rcases mem_waiting_enter _ h with h | h
    all_goals first
      | exact ⟨_, List.mem_cons_self, h.symm⟩
      | exact ⟨j, List.mem_cons_of_mem _ h, rfl⟩

/-- A program that starts runs before what waits goes on. -/
theorem finish_enter_eq (m : Machine κ δ ρ σ α) :
    finish exec (m.enter exec waits job) =
      finish exec { m with sys := job.after exec m.sys } := by
  unfold finish enter
  rw [List.foldl_append, foldl_advance]

/-- An answer changes nothing about how things end. -/
theorem finish_answer (m : Machine κ δ ρ σ α) :
    finish exec (m.answer exec waits) = finish exec m := by
  obtain ⟨sys, waiting⟩ := m
  cases waiting with
  | nil => rfl
  | cons job waiting =>
    obtain ⟨request, p, rs⟩ := job
    cases p <;> exact finish_enter_eq _ _

variable {m : Machine κ δ ρ σ α}

/-- A request that comes when nothing waits is executed after what came before. -/
theorem finish_enter (hm : m.waiting = []) :
    finish exec (m.enter exec waits job) = job.after exec (finish exec m) := by
  rw [finish_enter_eq]
  unfold finish
  rw [hm]
  rfl

/-- A request that changes nothing, neither now nor at the end, might as well come at the end. -/
theorem finish_enter_of_inert {job : Job κ δ ρ α} (hnow : job.after exec m.sys = m.sys)
    (hend : job.after exec (finish exec m) = finish exec m) :
    finish exec (m.enter exec waits job) = job.after exec (finish exec m) := by
  rw [finish_enter_eq, hnow, hend]

/-- Requests that might each have come at the end are executed one after another. -/
theorem finish_run {job : α → Job κ δ ρ α} {cond : Machine κ δ ρ σ α → Option α → Prop}
    {Inv : Machine κ δ ρ σ α → Prop}
    (hinv : ∀ m e, cond m e → Inv m → Inv (step exec waits job m e))
    (hcond : ∀ m a, cond m (some a) → Inv m →
      finish exec (m.enter exec waits (job a)) = (job a).after exec (finish exec m))
    {m : Machine κ δ ρ σ α} {es : List (Option α)}
    (hmeets : Trace.Meets (step exec waits job) cond m es) (hm : Inv m) :
    finish exec (Trace.run (step exec waits job) m es) =
      Trace.run (fun s a => (job a).after exec s) (finish exec m) es.reduceOption := by
  induction es generalizing m with
  | nil => rfl
  | cons e es ih =>
    have hrest := ih hmeets.2 (hinv m e hmeets.1 hm)
    cases e with
    | some a =>
      rw [List.reduceOption_cons_of_some]
      exact hrest.trans (by rw [step, hcond m a hmeets.1 hm]; rfl)
    | none =>
      rw [List.reduceOption_cons_of_none]
      exact hrest.trans (by rw [step, finish_answer])

end Machine

end

end Prog
