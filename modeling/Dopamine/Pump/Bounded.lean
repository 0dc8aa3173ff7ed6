import Mathlib.Data.List.Perm.Subperm
import Mathlib.Data.List.Nodup
import Mathlib.Data.List.Range
import Mathlib.Algebra.Order.Group.Int
import Dopamine.Trace.Runs

/-!
# Pumps

A pump sends a request for every index below `size` that is not done yet, with at most `limit` of
them in flight, and calls back once when all have been answered. An answer can come while its
request is being sent, so that the pump is entered again. It returns at once then, since it is
pumping.

`requested`, `completed` and `peak` are logs of what happens: the requests in their order, the
answers in their order, and the largest number of requests that were in flight at a time.
-/

namespace Pump

open List

universe u v w

/-- What a pump works on: `β` has the results so far, `α` are answers and `γ` is what is delivered.
-/
structure Spec (α : Type u) (β : Type v) (γ : Type w) where
  size : ℕ
  limit : ℕ
  ok : β → ℕ → Bool
  record : β → ℕ → α → β
  deliver : β → γ

/-- A pump, with the logs of what it has done. -/
structure State (α : Type u) (β : Type v) (γ : Type w) where
  results : β
  pending : ℤ
  inFlight : ℤ
  nextIndex : ℕ
  pumping : Bool
  finished : Bool
  requested : List ℕ
  completed : List (ℕ × α)
  peak : ℕ
  delivered : List γ

variable {α : Type u} {β : Type v} {γ : Type w}

namespace Spec

variable (c : Spec α β γ) (now : ℕ → Option α)

/-- The indices that have to be requested. -/
def todo (b : β) (n : ℕ) : List ℕ := (range n).filter fun i => !c.ok b i

/-- Before anything is requested. -/
def start (b : β) : State α β γ where
  results := b
  pending := (c.todo b c.size).length
  inFlight := 0
  nextIndex := 0
  pumping := false
  finished := false
  requested := []
  completed := []
  peak := 0
  delivered := []

/-- The callback of a request, up to the call of the pump. -/
def answered (s : State α β γ) (i : ℕ) (a : α) : State α β γ :=
  { s with
    results := c.record s.results i a
    inFlight := s.inFlight - 1
    pending := s.pending - 1
    completed := s.completed ++ [(i, a)] }

/-- A request is sent; `now` has the answers that come at once. -/
def request (reenter : State α β γ → State α β γ) (s : State α β γ) (i : ℕ) : State α β γ :=
  let s := { s with
    inFlight := s.inFlight + 1
    requested := s.requested ++ [i]
    peak := max s.peak (s.requested.length + 1 - s.completed.length) }
  match now i with
  | none => s
  | some a => reenter (c.answered s i a)

/-- The loop of the pump, for at most `k` rounds. -/
def fill (reenter : State α β γ → State α β γ) : ℕ → State α β γ → State α β γ
  | 0, s => s
  | k + 1, s =>
      if s.inFlight < c.limit ∧ s.nextIndex < c.size then
        let i := s.nextIndex
        let s := { s with nextIndex := i + 1 }
        fill reenter k (if c.ok s.results i then s else c.request now reenter s i)
      else s

/-- The end of the pump: deliver if nothing is left. -/
def close (s : State α β γ) : State α β γ :=
  if !s.finished && s.pending = 0 && s.inFlight = 0 then
    { s with finished := true, delivered := s.delivered ++ [c.deliver s.results] }
  else s

/-- The pump, which can be entered again `depth` times. -/
def pump : ℕ → State α β γ → State α β γ
  | 0, s => s
  | depth + 1, s =>
      if s.pumping || s.finished then s
      else
        let s := c.fill now (pump depth) c.size { s with pumping := true }
        c.close { s with pumping := false }

/-- A request that is in flight is answered. -/
def complete (depth : ℕ) (s : State α β γ) (p : ℕ × α) : State α β γ :=
  if p.1 ∈ s.requested ∧ p.1 ∉ s.completed.map Prod.fst then
    c.pump now depth (c.answered s p.1 p.2)
  else s

/-- The state after some answers. -/
def run (depth : ℕ) (b : β) (answers : List (ℕ × α)) : State α β γ :=
  Trace.run (c.complete now depth) (c.pump now depth (c.start b)) answers

/-! ## Entering again -/

variable {c now} {depth : ℕ} {s : State α β γ} {b : β}

/-- A pump that is entered again returns at once. -/
theorem pump_of_pumping (h : s.pumping = true) : c.pump now depth s = s := by
  cases depth with
  | zero => rfl
  | succ depth => rw [pump, h, Bool.true_or, if_pos rfl]

theorem request_of_pumping (h : s.pumping = true) (i : ℕ) :
    c.request now (c.pump now depth) s i = c.request now id s i := by
  rw [request, request]
  cases now i with
  | none => rfl
  | some a => exact pump_of_pumping h

/-! ## The counters -/

theorem todo_succ (b : β) (n : ℕ) :
    c.todo b (n + 1) = c.todo b n ++ if c.ok b n then [] else [n] := by
  rw [todo, range_succ, filter_append, todo]
  cases hok : c.ok b n <;> simp [hok]

theorem mem_todo {n i : ℕ} : i ∈ c.todo b n ↔ i < n ∧ c.ok b i = false := by
  rw [todo, mem_filter, mem_range, Bool.not_eq_true']

theorem todo_nodup (c : Spec α β γ) (b : β) (n : ℕ) : (c.todo b n).Nodup := nodup_range.filter _

/-- The answer to one request leaves the results of the others open. -/
def Local (c : Spec α β γ) : Prop := ∀ b i j a, j ≠ i → c.ok (c.record b i a) j = c.ok b j

/-- The relation of counters, logs and results, where `b` has the results at the start. -/
structure Counts (c : Spec α β γ) (b : β) (s : State α β γ) : Prop where
  next_le : s.nextIndex ≤ c.size
  requested_eq : s.requested = c.todo b s.nextIndex
  completed_mem : ∀ p ∈ s.completed, p.1 ∈ s.requested
  completed_nodup : (s.completed.map Prod.fst).Nodup
  inFlight_eq : s.inFlight = s.requested.length - s.completed.length
  pending_eq : s.pending = (c.todo b c.size).length - s.completed.length
  results_eq : s.results = s.completed.foldl (fun b p => c.record b p.1 p.2) b
  inFlight_le : s.inFlight ≤ c.limit
  peak_le : s.peak ≤ c.limit

theorem counts_start (c : Spec α β γ) (b : β) : c.Counts b (c.start b) where
  next_le := Nat.zero_le _
  requested_eq := rfl
  completed_mem := fun _ hp => nomatch hp
  completed_nodup := nodup_nil
  inFlight_eq := rfl
  pending_eq := (sub_zero _).symm
  results_eq := rfl
  inFlight_le := Int.natCast_nonneg _
  peak_le := Nat.zero_le _

namespace Counts

variable {b : β} {s : State α β γ}

theorem subperm (h : c.Counts b s) : (s.completed.map Prod.fst).Subperm s.requested := by
  refine h.completed_nodup.subperm fun i hi => ?_
  obtain ⟨p, hp, rfl⟩ := mem_map.mp hi
  exact h.completed_mem p hp

theorem length_le (h : c.Counts b s) : s.completed.length ≤ s.requested.length := by
  have := h.subperm.length_le
  rwa [length_map] at this

variable {i : ℕ}

/-- If as many requests were answered as were sent, all were answered. -/
theorem mem_completed (h : c.Counts b s) (heq : s.completed.length = s.requested.length)
    (hi : i ∈ s.requested) : i ∈ s.completed.map Prod.fst := by
  refine (h.subperm.perm_of_length_le ?_).mem_iff.mpr hi
  rw [length_map, heq]

/-- An index that was not answered is as it was. -/
theorem ok_eq (hlocal : c.Local) (h : c.Counts b s) (hi : i ∉ s.completed.map Prod.fst) :
    c.ok s.results i = c.ok b i := by
  rw [h.results_eq]
  clear h
  revert hi
  induction s.completed generalizing b with
  | nil => exact fun _ => rfl
  | cons p l ih =>
    intro hi
    rw [map_cons, mem_cons, not_or] at hi
    rw [foldl_cons, ih hi.2, hlocal b p.1 i p.2 hi.1]

/-- The next index has not been requested. -/
theorem next_not_mem (h : c.Counts b s) : s.nextIndex ∉ s.completed.map Prod.fst := by
  intro hmem
  have hreq := h.subperm.subset hmem
  rw [h.requested_eq, mem_todo] at hreq
  exact Nat.lt_irrefl _ hreq.1

/-- An index that is done is skipped. -/
theorem skip (hlocal : c.Local) (h : c.Counts b s) (hlt : s.nextIndex < c.size)
    (hok : c.ok s.results s.nextIndex = true) :
    c.Counts b { s with nextIndex := s.nextIndex + 1 } :=
  { h with
    next_le := hlt
    requested_eq := by
      rw [h.ok_eq hlocal h.next_not_mem] at hok
      rw [todo_succ, hok, if_pos rfl, append_nil]
      exact h.requested_eq }

theorem answered (h : c.Counts b s) (hi : i ∈ s.requested) (hnot : i ∉ s.completed.map Prod.fst)
    (a : α) : c.Counts b (c.answered s i a) where
  next_le := h.next_le
  requested_eq := h.requested_eq
  completed_mem p hp := by
    rcases mem_append.mp hp with hold | hnew
    · exact h.completed_mem p hold
    · exact mem_singleton.mp hnew ▸ hi
  completed_nodup := by
    show ((s.completed ++ [(i, a)]).map Prod.fst).Nodup
    rw [map_append, nodup_append]
    refine ⟨h.completed_nodup, nodup_singleton _, fun j hj k hk heq => hnot ?_⟩
    have hki : k = i := mem_singleton.mp hk
    exact hki ▸ heq ▸ hj
  inFlight_eq := by
    show s.inFlight - 1 = s.requested.length - ((s.completed ++ [(i, a)]).length : ℤ)
    rw [h.inFlight_eq, length_append, length_singleton]
    push_cast
    omega
  pending_eq := by
    show s.pending - 1 = _ - ((s.completed ++ [(i, a)]).length : ℤ)
    rw [h.pending_eq, length_append, length_singleton]
    push_cast
    omega
  results_eq := by
    show c.record s.results i a = (s.completed ++ [(i, a)]).foldl _ b
    rw [foldl_append, ← h.results_eq]
    rfl
  inFlight_le := (Int.sub_le_self _ Int.one_nonneg).trans h.inFlight_le
  peak_le := h.peak_le

/-- A request for the next index. -/
theorem request (hlocal : c.Local) (h : c.Counts b s) (now : ℕ → Option α)
    (hlt : s.nextIndex < c.size)
    (hfree : s.inFlight < c.limit) (hok : c.ok s.results s.nextIndex = false) :
    c.Counts b (c.request now id { s with nextIndex := s.nextIndex + 1 } s.nextIndex) := by
  have hlen := h.length_le
  have hcount := h.inFlight_eq
  have hsent : c.Counts b { s with
      nextIndex := s.nextIndex + 1
      inFlight := s.inFlight + 1
      requested := s.requested ++ [s.nextIndex]
      peak := max s.peak (s.requested.length + 1 - s.completed.length) } :=
    { h with
      next_le := hlt
      requested_eq := by
        rw [h.ok_eq hlocal h.next_not_mem] at hok
        rw [todo_succ, hok, if_neg Bool.false_ne_true, ← h.requested_eq]
      completed_mem := fun p hp => mem_append_left _ (h.completed_mem p hp)
      inFlight_eq := by
        show s.inFlight + 1 = ((s.requested ++ [s.nextIndex]).length : ℤ) - s.completed.length
        rw [length_append, length_singleton]
        omega
      inFlight_le := hfree
      peak_le := max_le h.peak_le (by omega) }
  rw [Spec.request]
  cases now s.nextIndex with
  | none => exact hsent
  | some a =>
    exact hsent.answered (mem_append_right _ (mem_singleton_self _)) h.next_not_mem a

end Counts

/-! ## The pump -/

/-- A request leaves everything but the counters, the logs and the results. -/
theorem request_frame (c : Spec α β γ) (now : ℕ → Option α) (s : State α β γ) (i : ℕ) :
    (c.request now id s i).pumping = s.pumping ∧ (c.request now id s i).finished = s.finished ∧
      (c.request now id s i).delivered = s.delivered ∧
      (c.request now id s i).nextIndex = s.nextIndex := by
  rw [request]
  cases now i <;> exact ⟨rfl, rfl, rfl, rfl⟩

section Fill

variable {reenter : State α β γ → State α β γ} {k : ℕ} {s : State α β γ}

theorem fill_of_ok (h : s.inFlight < c.limit ∧ s.nextIndex < c.size)
    (hok : c.ok s.results s.nextIndex = true) : c.fill now reenter (k + 1) s =
      c.fill now reenter k { s with nextIndex := s.nextIndex + 1 } := by
  rw [fill, if_pos h]
  exact congrArg (c.fill now reenter k) (if_pos hok)

theorem fill_of_open (h : s.inFlight < c.limit ∧ s.nextIndex < c.size)
    (hok : c.ok s.results s.nextIndex = false) : c.fill now reenter (k + 1) s =
      c.fill now reenter k
        (c.request now reenter { s with nextIndex := s.nextIndex + 1 } s.nextIndex) := by
  rw [fill, if_pos h]
  exact congrArg (c.fill now reenter k) (if_neg (ne_true_of_eq_false hok))

end Fill

/-- After the loop, all that is possible is in flight or everything was requested. -/
theorem fill_spec (hlocal : c.Local) {k : ℕ} (h : c.Counts b s) (hpumping : s.pumping = true)
    (hk : c.size ≤ s.nextIndex + k) :
    let s' := c.fill now (c.pump now depth) k s
    c.Counts b s' ∧ s'.finished = s.finished ∧ s'.delivered = s.delivered ∧
      (s'.inFlight = c.limit ∨ s'.nextIndex = c.size) := by
  induction k generalizing s with
  | zero => exact ⟨h, rfl, rfl, .inr (le_antisymm h.next_le hk)⟩
  | succ k ih =>
    have hk' : c.size ≤ s.nextIndex + 1 + k := by omega
    by_cases hcond : s.inFlight < c.limit ∧ s.nextIndex < c.size
    · cases hok : c.ok s.results s.nextIndex with
      | true =>
        rw [fill_of_ok hcond hok]
        exact ih (h.skip hlocal hcond.2 hok) hpumping hk'
      | false =>
        obtain ⟨hpump, hfinished, hdelivered, hnext⟩ :=
          c.request_frame now { s with nextIndex := s.nextIndex + 1 } s.nextIndex
        have hreq := h.request hlocal now hcond.2 hcond.1 hok
        have hreenter : ({ s with nextIndex := s.nextIndex + 1 } : State α β γ).pumping = true :=
          hpumping
        rw [fill_of_open hcond hok, request_of_pumping hreenter]
        have hrest := ih hreq (hpump.trans hpumping) (hnext.symm ▸ hk')
        exact ⟨hrest.1, hrest.2.1.trans hfinished, hrest.2.2.1.trans hdelivered, hrest.2.2.2⟩
    · rw [fill, if_neg hcond]
      refine ⟨h, rfl, rfl, ?_⟩
      rw [not_and_or, not_lt, not_lt] at hcond
      exact hcond.imp (le_antisymm h.inFlight_le) (le_antisymm h.next_le)

/-- A pump at rest: requests are in flight, as many as possible, or everything was answered and
delivered. -/
structure AtRest (c : Spec α β γ) (b : β) (s : State α β γ) : Prop extends c.Counts b s where
  not_pumping : s.pumping = false
  outcome :
    (s.finished = false ∧ s.delivered = [] ∧ s.completed.length < s.requested.length ∧
      (s.inFlight = c.limit ∨ s.nextIndex = c.size)) ∨
    (s.finished = true ∧ s.delivered = [c.deliver s.results] ∧ s.nextIndex = c.size ∧
      s.completed.length = s.requested.length)

theorem pump_of_idle (hpumping : s.pumping = false) (hfinished : s.finished = false) :
    c.pump now (depth + 1) s =
      c.close { c.fill now (c.pump now depth) c.size { s with pumping := true } with
        pumping := false } := by
  have hguard : ¬(s.pumping || s.finished) = true := by
    rw [hpumping, hfinished]
    exact Bool.false_ne_true
  rw [pump, if_neg hguard]

/-- The end of the pump, if the loop has done its part. -/
theorem atRest_close (hlimit : 0 < c.limit) (h : c.Counts b s) (hpumping : s.pumping = false)
    (hfinished : s.finished = false) (hdelivered : s.delivered = [])
    (hfull : s.inFlight = c.limit ∨ s.nextIndex = c.size) : c.AtRest b (c.close s) := by
  have hlen := h.length_le
  have hinFlight := h.inFlight_eq
  rw [close]
  split_ifs with hclose
  · simp only [Bool.and_eq_true, decide_eq_true_eq] at hclose
    obtain ⟨-, hnone⟩ := hclose
    have hall : s.nextIndex = c.size := hfull.resolve_left (by omega)
    have hlength : s.completed.length = s.requested.length := by omega
    have hone : s.delivered ++ [c.deliver s.results] = [c.deliver s.results] := by
      rw [hdelivered]
      rfl
    exact { h with not_pumping := hpumping, outcome := .inr ⟨rfl, hone, hall, hlength⟩ }
  · refine { h with
      not_pumping := hpumping
      outcome := .inl ⟨hfinished, hdelivered, ?_, hfull⟩ }
    by_contra hge
    -- nothing is in flight, so everything was requested and answered
    have hall : s.nextIndex = c.size := hfull.resolve_left (by omega)
    have hzero : s.pending = 0 := by
      rw [h.pending_eq, ← hall, ← h.requested_eq]
      omega
    refine hclose ?_
    simp only [Bool.and_eq_true, Bool.not_eq_true', decide_eq_true_eq]
    exact ⟨⟨hfinished, hzero⟩, by omega⟩

theorem atRest_pump (hlocal : c.Local) (hlimit : 0 < c.limit) (h : c.Counts b s)
    (hpumping : s.pumping = false) (hfinished : s.finished = false)
    (hdelivered : s.delivered = []) : c.AtRest b (c.pump now (depth + 1) s) := by
  have hentered : c.Counts b { s with pumping := true } := { h with }
  obtain ⟨hcounts, hfinished', hdelivered', hfull⟩ :
      let s' := c.fill now (c.pump now depth) c.size { s with pumping := true }
      c.Counts b s' ∧ s'.finished = s.finished ∧ s'.delivered = s.delivered ∧
        (s'.inFlight = c.limit ∨ s'.nextIndex = c.size) :=
    fill_spec hlocal hentered rfl (Nat.le_add_left c.size _)
  rw [pump_of_idle hpumping hfinished]
  exact atRest_close hlimit { hcounts with } rfl (hfinished'.trans hfinished)
    (hdelivered'.trans hdelivered) hfull

theorem AtRest.complete (hlocal : c.Local) (hlimit : 0 < c.limit) (h : c.AtRest b s) (p : ℕ × α) :
    c.AtRest b (c.complete now (depth + 1) s p) := by
  rw [Spec.complete]
  split_ifs with hcond
  · obtain ⟨hi, hnot⟩ := hcond
    rcases h.outcome with ⟨hfinished, hdelivered, -, -⟩ | ⟨-, -, -, hall⟩
    · exact atRest_pump hlocal hlimit (h.toCounts.answered hi hnot p.2) h.not_pumping hfinished
        hdelivered
    · exact absurd (h.toCounts.mem_completed hall hi) hnot
  · exact h

/-- After any answers in any order, the pump is at rest. -/
theorem atRest_run (hlocal : c.Local) (hlimit : 0 < c.limit) (depth : ℕ) (b : β)
    (answers : List (ℕ × α)) : c.AtRest b (c.run now (depth + 1) b answers) :=
  Trace.run_invariant (fun _ p h => h.complete hlocal hlimit p)
    (atRest_pump hlocal hlimit (c.counts_start b) rfl rfl rfl) answers

end Spec

end Pump
