import Mathlib.Data.List.Basic

/-!
# Programs that make calls

A `Prog` reads and writes variables of its own and makes calls, each of which returns a `Bool`. What
a call does is up to an environment, `exec`, which also sees one reply of the outside world for each
call.

`run` executes a program on a list of replies; a reply that is missing is the default one. `Runs` is
the same without the list: each reply is any one that satisfies a predicate. `Triple` is partial
correctness over `Runs`, and since a program is a finite tree, `triple_run` makes it total: every
run ends and satisfies the postcondition.
-/

/-- A program with calls `κ` and variables `δ`. -/
inductive Prog (κ δ α : Type) where
  | done (a : α)
  | call (c : κ) (next : Bool → Prog κ δ α)
  | get (next : δ → Prog κ δ α)
  | set (d : δ) (next : Prog κ δ α)

/-- The variables of a program and the environment of its calls. -/
structure Sys (δ σ : Type) where
  vars : δ
  env : σ

namespace Prog

open List

variable {κ δ α β ρ σ : Type}

/-- Run the first program and go on with its result. -/
protected def bind : Prog κ δ α → (α → Prog κ δ β) → Prog κ δ β
  | .done a, f => f a
  | .call c next, f => .call c fun b => (next b).bind f
  | .get next, f => .get fun d => (next d).bind f
  | .set d next, f => .set d (next.bind f)

instance : Monad (Prog κ δ) where
  pure := .done
  bind := Prog.bind

/-- Make a call and return its result. -/
def perform (c : κ) : Prog κ δ Bool := .call c .done

/-- The variables. -/
def read : Prog κ δ δ := .get .done

/-- Change the variables. -/
def modify (f : δ → δ) : Prog κ δ Unit := .get fun d => .set (f d) (.done ())

/-- Run a program for each entry and ignore the results. -/
def each (f : α → Prog κ δ Bool) : List α → Prog κ δ Unit
  | [] => .done ()
  | a :: l => do
      discard (f a)
      each f l

/-- Run a program for each entry up to the first that fails. -/
def every (f : α → Prog κ δ Bool) : List α → Prog κ δ Bool
  | [] => return true
  | a :: l => do
      if !(← f a) then
        return false
      every f l

/-! ## Runs -/

/-- The result, the replies that are left, and the state. -/
def run [Inhabited ρ] (exec : κ → ρ → σ → Bool × σ) :
    Prog κ δ α → List ρ → Sys δ σ → α × List ρ × Sys δ σ
  | .done a, rs, s => (a, rs, s)
  | .call c next, rs, s =>
      let r := exec c rs.headI s.env
      run exec (next r.1) rs.tail { s with env := r.2 }
  | .get next, rs, s => run exec (next s.vars) rs s
  | .set d next, rs, s => run exec next rs { s with vars := d }

/-- The program can return `b` in the state `t` when each reply satisfies `R`. -/
def Runs (exec : κ → ρ → σ → Bool × σ) (R : ρ → Prop) : Prog κ δ α → Sys δ σ → α → Sys δ σ → Prop
  | .done a, s, b, t => b = a ∧ t = s
  | .call c next, s, b, t =>
      ∃ r, R r ∧ Runs exec R (next (exec c r s.env).1) { s with env := (exec c r s.env).2 } b t
  | .get next, s, b, t => Runs exec R (next s.vars) s b t
  | .set d next, s, b, t => Runs exec R next { s with vars := d } b t

variable {exec : κ → ρ → σ → Bool × σ} {R : ρ → Prop} {rs : List ρ} {s : Sys δ σ}

/-- A program that is run after another one. -/
theorem runs_bind (p : Prog κ δ α) (f : α → Prog κ δ β) (s : Sys δ σ) (b : β) (t : Sys δ σ) :
    Runs exec R (p >>= f) s b t ↔ ∃ a u, Runs exec R p s a u ∧ Runs exec R (f a) u b t := by
  induction p generalizing s with
  | done a =>
    refine ⟨fun h => ⟨a, s, ⟨rfl, rfl⟩, h⟩, ?_⟩
    rintro ⟨a', u, ⟨rfl, rfl⟩, h⟩
    exact h
  | call c next ih =>
    constructor
    · rintro ⟨r, hr, h⟩
      obtain ⟨a, u, hp, hf⟩ := (ih _ _).mp h
      exact ⟨a, u, ⟨r, hr, hp⟩, hf⟩
    · rintro ⟨a, u, ⟨r, hr, hp⟩, hf⟩
      exact ⟨r, hr, (ih _ _).mpr ⟨a, u, hp, hf⟩⟩
  | get next ih => exact ih _ s
  | set d next ih => exact ih _

section Executions

variable [Inhabited ρ] {p rest : Prog κ δ Bool} {c : κ} {e : σ}

/-- A run on replies that satisfy a predicate, as the default does. -/
theorem runs_run (hdefault : R default) (p : Prog κ δ α) (hrs : ∀ r ∈ rs, R r)
    (s : Sys δ σ) : Runs exec R p s (run exec p rs s).1 (run exec p rs s).2.2 := by
  induction p generalizing rs s with
  | done a => exact ⟨rfl, rfl⟩
  | call c next ih =>
    -- the reply is the head of the list, or the default when the list has run out
    have hhead : R rs.headI := by
      cases rs with
      | nil => exact hdefault
      | cons r rs => exact hrs r mem_cons_self
    exact ⟨rs.headI, hhead, ih _ (fun r hr => hrs r (mem_of_mem_tail hr)) _⟩
  | get next ih => exact ih _ hrs s
  | set d next ih => exact ih hrs _

/-- An execution of two programs, one after the other. -/
theorem run_bind (exec : κ → ρ → σ → Bool × σ) (p : Prog κ δ α) (f : α → Prog κ δ β)
    (rs : List ρ) (s : Sys δ σ) :
    run exec (p >>= f) rs s =
      run exec (f (run exec p rs s).1) (run exec p rs s).2.1 (run exec p rs s).2.2 := by
  induction p generalizing rs s with
  | done a => rfl
  | call c next ih => exact ih _ _ _
  | get next ih => exact ih _ _ _
  | set d next ih => exact ih _ _

/-- `if (!p) return false;`, and the rest, when `p` fails. -/
theorem run_guard_of_false (h : (run exec p rs s).1 = false) :
    run exec (p >>= fun a => if (!a) = true then pure false else rest) rs s = run exec p rs s := by
  rw [run_bind, h]
  exact Prod.ext h.symm rfl

/-- `if (!p) return false;`, and the rest, when `p` succeeds. -/
theorem run_guard_of_true (h : (run exec p rs s).1 = true) :
    run exec (p >>= fun a => if (!a) = true then pure false else rest) rs s =
      run exec rest (run exec p rs s).2.1 (run exec p rs s).2.2 := by
  rw [run_bind, h]
  rfl

/-- The same for a call. -/
theorem run_call_of_false (h : exec c rs.headI s.env = (false, e)) :
    run exec (perform c >>= fun a => if (!a) = true then pure false else rest) rs s =
      (false, rs.tail, { s with env := e }) := by
  rw [run_bind, perform, run, h]
  rfl

theorem run_call_of_true (h : exec c rs.headI s.env = (true, e)) :
    run exec (perform c >>= fun a => if (!a) = true then pure false else rest) rs s =
      run exec rest rs.tail { s with env := e } := by
  rw [run_bind, perform, run, h]
  rfl

end Executions

/-! ## Pre- and postconditions -/

section Triple

/-- From a state with `P`, every run that ends does so with `Q`. -/
def Triple (exec : κ → ρ → σ → Bool × σ) (R : ρ → Prop) (P : Sys δ σ → Prop) (p : Prog κ δ α)
    (Q : α → Sys δ σ → Prop) : Prop :=
  ∀ s b t, P s → Runs exec R p s b t → Q b t

variable {exec : κ → ρ → σ → Bool × σ} {R : ρ → Prop} {P P' I : Sys δ σ → Prop}
  {p : Prog κ δ α} {Q Q' : α → Sys δ σ → Prop}

/-- What a triple says about an execution. -/
theorem triple_run [Inhabited ρ] (h : Triple exec R P p Q) (hdefault : R default) (rs : List ρ)
    (hrs : ∀ r ∈ rs, R r) (s : Sys δ σ) (hs : P s) : Q (run exec p rs s).1 (run exec p rs s).2.2 :=
  h s _ _ hs (runs_run hdefault p hrs s)

theorem Triple.run_any [Inhabited ρ] (h : Triple exec (fun _ => True) P p Q) (rs : List ρ)
    {s : Sys δ σ} (hs : P s) : Q (run exec p rs s).1 (run exec p rs s).2.2 :=
  triple_run h trivial rs (fun _ _ => trivial) s hs

theorem Triple.post (h : Triple exec R P p Q) (hQ : ∀ a s, Q a s → Q' a s) : Triple exec R P p Q' :=
  fun s b t hs hr => hQ b t (h s b t hs hr)

theorem Triple.pre (h : Triple exec R P p Q) (hP : ∀ s, P' s → P s) : Triple exec R P' p Q :=
  fun s b t hs hr => h s b t (hP s hs) hr

theorem Triple.return {a : α} (h : ∀ s, P s → Q a s) : Triple exec R P (pure a) Q := by
  rintro s b t hs ⟨rfl, rfl⟩
  exact h t hs

theorem Triple.skip {a : α} (h : ∀ s, P s → Q a s := by exact fun _ h => h) :
    Triple exec R P (pure a) Q :=
  .return h

/-- Nothing is said about the end. -/
theorem Triple.any : Triple exec R P p fun _ _ => True := fun _ _ _ _ _ => trivial

theorem Triple.bind {M : β → Sys δ σ → Prop} {p : Prog κ δ β} {f : β → Prog κ δ α}
    (hp : Triple exec R P p M) (hf : ∀ b, Triple exec R (M b) (f b) Q) :
    Triple exec R P (p >>= f) Q := by
  intro s b t hs hr
  obtain ⟨a, u, hpu, hft⟩ := (runs_bind p f s b t).mp hr
  exact hf a u b t (hp s a u hs hpu) hft

/-- `if (!p) return false;`, and the rest. -/
theorem Triple.guard {M : Bool → Sys δ σ → Prop} {p rest : Prog κ δ Bool}
    {Q : Bool → Sys δ σ → Prop} (hp : Triple exec R P p M) (hfail : ∀ s, M false s → Q false s)
    (hrest : Triple exec R (M true) rest Q) :
    Triple exec R P (p >>= fun a => if (!a) = true then pure false else rest) Q := by
  refine hp.bind fun a => ?_
  cases a with
  | false => exact .return hfail
  | true => exact hrest

/-- `S` after a success and `F` after a failure. -/
def Post (S F : Sys δ σ → Prop) : Bool → Sys δ σ → Prop
  | true => S
  | false => F

variable {f : δ → δ} {S F : Sys δ σ → Prop} {b : Bool} {s : Sys δ σ}

theorem Post.elim {C : Prop} (h : Post S F b s) (hS : S s → C) (hF : F s → C) : C := by
  cases b with
  | true => exact hS h
  | false => exact hF h

theorem Post.of_true (h : Post S F b s) (hb : b = true) : S s := by
  subst hb
  exact h

theorem Post.same (h : Post I I b s) : I s := h.elim (fun h => h) fun h => h

theorem post_same (h : I s) : Post I I b s := by
  cases b <;> exact h

theorem Triple.mono {S' F' : Sys δ σ → Prop} {p : Prog κ δ Bool}
    (h : Triple exec R P p (Post S F)) (hS : ∀ s, S s → S' s) (hF : ∀ s, F s → F' s) :
    Triple exec R P p (Post S' F') :=
  h.post fun b s hs => by
    cases b with
    | true => exact hS s hs
    | false => exact hF s hs

/-- A call that keeps an assertion may fail. -/
theorem Triple.keep {p : Prog κ δ Bool} (h : Triple exec R P p fun _ => I)
    (hfail : ∀ s, I s → F s) : Triple exec R P p (Post I F) :=
  h.post fun b s hs => by
    cases b with
    | true => exact hs
    | false => exact hfail s hs

/-- A stage of a program that ends at a failure. -/
theorem Triple.stage {M : Sys δ σ → Prop} {p rest : Prog κ δ Bool}
    (hp : Triple exec R P p (Post M F)) (hrest : Triple exec R M rest (Post S F)) :
    Triple exec R P (p >>= fun a => if (!a) = true then pure false else rest) (Post S F) :=
  hp.guard (fun _ h => h) hrest

/-- The end of a program that succeeds. -/
theorem Triple.success (h : ∀ s, P s → S { s with vars := f s.vars }) :
    Triple exec R P (do modify f; return true) (Post S F) := by
  rintro s b t hs ⟨rfl, rfl⟩
  exact h s hs

theorem Triple.ignore {M : Unit → Sys δ σ → Prop} (hp : Triple exec R P p fun _ => M ()) :
    Triple exec R P (discard p) M :=
  hp.bind fun _ => .skip

/-- A program whose result is ignored, and the rest. -/
theorem Triple.ignore_bind {M : Sys δ σ → Prop} {p : Prog κ δ β} {rest : Prog κ δ α}
    (hp : Triple exec R P p fun _ => M) (hrest : Triple exec R M rest Q) :
    Triple exec R P (do discard p; rest) Q :=
  (Triple.ignore (M := fun _ => M) hp).bind fun _ => hrest

theorem Triple.ite {c : Prop} [Decidable c] {q : Prog κ δ α} (hp : c → Triple exec R P p Q)
    (hq : ¬c → Triple exec R P q Q) : Triple exec R P (if c then p else q) Q := by
  split
  · exact hp ‹_›
  · exact hq ‹_›

theorem Triple.perform {c : κ} {Q : Bool → Sys δ σ → Prop}
    (h : ∀ s r, R r → P s → Q (exec c r s.env).1 { s with env := (exec c r s.env).2 }) :
    Triple exec R P (perform c) Q := by
  rintro s b t hs ⟨r, hr, rfl, rfl⟩
  exact h s r hr hs

theorem Triple.read {Q : δ → Sys δ σ → Prop} (h : ∀ s, P s → Q s.vars s) :
    Triple exec R P read Q := by
  rintro s b t hs ⟨rfl, rfl⟩
  exact h t hs

/-- What is read are the variables. -/
theorem Triple.read_bind {f : δ → Prog κ δ α}
    (h : ∀ d, Triple exec R (fun s => P s ∧ d = s.vars) (f d) Q) :
    Triple exec R P (Prog.read >>= f) Q :=
  fun s b t hs hr => h s.vars s b t ⟨hs, rfl⟩ hr

theorem Triple.modify_bind {M : Sys δ σ → Prop} (h : ∀ s, P s → M { s with vars := f s.vars })
    (hp : Triple exec R M p Q) : Triple exec R P (do modify f; p) Q :=
  fun s b t hs hr => hp _ b t (h s hs) hr

section Loops

variable {γ : Type} {J : γ → Sys δ σ → Prop} {f : β → Prog κ δ Bool} {l : List β}

/-- A loop that ignores results adds up what each round does. -/
theorem Triple.each_foldl (step : γ → β → γ)
    (h : ∀ c, ∀ a ∈ l, Triple exec R (J c) (f a) fun _ => J (step c a)) (c : γ) :
    Triple exec R (J c) (each f l) fun _ => J (l.foldl step c) := by
  induction l generalizing c with
  | nil => exact .skip
  | cons a l ih =>
    exact (h c a mem_cons_self).ignore_bind (ih (fun c' a' ha' => h c' a' (mem_cons_of_mem _ ha')) _)

variable {F : Sys δ σ → Prop} {g : β → List γ}

/-- A loop that stops at a failure adds up what each round does. -/
theorem Triple.every_foldl (step : γ → β → γ)
    (h : ∀ c, ∀ a ∈ l, Triple exec R (J c) (f a) (Post (J (step c a)) F)) (c : γ) :
    Triple exec R (J c) (every f l) (Post (J (l.foldl step c)) F) := by
  induction l generalizing c with
  | nil => exact .skip
  | cons a l ih =>
    exact (h c a mem_cons_self).stage
      (ih (fun c' a' ha' => h c' a' (mem_cons_of_mem _ ha')) _)

theorem mem_foldl_filter (p : γ → β → Bool) {a : β} {is : List γ} :
    a ∈ is.foldl (fun l i => l.filter (p i)) l ↔ a ∈ l ∧ ∀ i ∈ is, p i a = true := by
  induction is generalizing l with
  | nil => simp
  | cons i is ih => rw [foldl_cons, ih, mem_filter, forall_mem_cons, and_assoc]

/-- A loop that stops at a failure, with a list of what has been done. -/
theorem Triple.every_append {J : List γ → Sys δ σ → Prop}
    (h : ∀ c, ∀ a ∈ l, Triple exec R (J c) (f a) (Post (J (c ++ g a)) F)) (c : List γ) :
    Triple exec R (J c) (every f l) (Post (J (c ++ l.flatMap g)) F) := by
  rw [flatMap_def, ← foldl_append_eq_append]
  exact .every_foldl _ h c

/-- A loop that ignores results keeps what each round keeps. -/
theorem Triple.each (h : ∀ a ∈ l, Triple exec R I (f a) fun _ => I) :
    Triple exec R I (each f l) fun _ => I :=
  .each_foldl (J := fun _ : Unit => I) (fun c _ => c) (fun _ => h) ()

/-- A loop that stops at a failure keeps what each round keeps. -/
theorem Triple.every (h : ∀ a ∈ l, Triple exec R I (f a) (Post I F)) :
    Triple exec R I (every f l) (Post I F) :=
  .every_foldl (J := fun _ : Unit => I) (fun c _ => c) (fun _ => h) ()

/-- What each round keeps, also if one of them fails. -/
theorem Triple.every_keep (h : ∀ a ∈ l, Triple exec R I (f a) fun _ => I) :
    Triple exec R I (Prog.every f l) fun _ => I :=
  (Triple.every fun a ha => (h a ha).keep fun _ h => h).post fun _ _ h => h.same

end Loops

end Triple

/-! ## Frames -/

section Keeps

variable {τ : Type}

/-- No run of the program changes what `view` sees. -/
def Keeps (exec : κ → ρ → σ → Bool × σ) (R : ρ → Prop) (view : Sys δ σ → τ) (p : Prog κ δ α) :
    Prop :=
  ∀ s b t, Runs exec R p s b t → view t = view s

variable {exec : κ → ρ → σ → Bool × σ} {R : ρ → Prop} {view : Sys δ σ → τ} {p q : Prog κ δ α}

/-- What only depends on the view is kept. -/
theorem Keeps.triple (h : Keeps exec R view p) (I : τ → Prop) :
    Triple exec R (fun s => I (view s)) p fun _ s => I (view s) := by
  intro s b t hs hr
  rw [h s b t hr]
  exact hs

/-- A call that keeps a view keeps what depends on it, and may fail. -/
theorem Keeps.post {p : Prog κ δ Bool} (h : Keeps exec R view p) {I : τ → Prop}
    {F : Sys δ σ → Prop} (hfail : ∀ s, I (view s) → F s) :
    Triple exec R (fun s => I (view s)) p (Post (fun s => I (view s)) F) :=
  (h.triple I).keep hfail

/-- A view is kept if every assertion of its value is. -/
theorem keeps_of_triple (h : ∀ v, Triple exec R (fun s => view s = v) p fun _ s => view s = v) :
    Keeps exec R view p :=
  fun s b t hr => h (view s) s b t rfl hr

theorem Keeps.return (a : α) : Keeps exec R view (pure a) := by
  rintro s b t ⟨rfl, rfl⟩
  rfl

theorem Keeps.bind {p : Prog κ δ β} {f : β → Prog κ δ α} (hp : Keeps exec R view p)
    (hf : ∀ b, Keeps exec R view (f b)) : Keeps exec R view (p >>= f) :=
  keeps_of_triple fun v => (hp.triple (· = v)).bind fun b => (hf b).triple (· = v)

theorem Keeps.ignore (hp : Keeps exec R view p) : Keeps exec R view (discard p) :=
  hp.bind fun _ => .return _

theorem Keeps.ite {c : Prop} [Decidable c] (hp : Keeps exec R view p) (hq : Keeps exec R view q) :
    Keeps exec R view (if c then p else q) := by
  split
  · exact hp
  · exact hq

theorem Keeps.perform {c : κ} (h : ∀ s r, view { s with env := (exec c r s.env).2 } = view s) :
    Keeps exec R view (perform c) := by
  rintro s b t ⟨r, -, -, rfl⟩
  exact h s r

theorem Keeps.read : Keeps exec R view (read (κ := κ)) := by
  rintro s b t ⟨-, rfl⟩
  rfl

theorem Keeps.modify {f : δ → δ} (h : ∀ s, view { s with vars := f s.vars } = view s) :
    Keeps exec R view (modify (κ := κ) f) := by
  rintro s b t ⟨-, rfl⟩
  exact h s

variable {f : β → Prog κ δ Bool} {l : List β}

theorem Keeps.each (h : ∀ a ∈ l, Keeps exec R view (f a)) : Keeps exec R view (each f l) :=
  keeps_of_triple fun v => .each fun a ha => (h a ha).triple (· = v)

theorem Keeps.every (h : ∀ a ∈ l, Keeps exec R view (f a)) : Keeps exec R view (every f l) :=
  keeps_of_triple fun v => .every_keep fun a ha => (h a ha).triple (· = v)

end Keeps

end Prog
