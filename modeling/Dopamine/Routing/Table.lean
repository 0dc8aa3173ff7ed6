import Mathlib.Data.List.Nodup
import Mathlib.Data.List.Induction

/-!
# Routing tables

A table has one route for each destination and metric. A new route takes the place of the one with
its destination and metric. The lookup takes the longest destination that covers an address, and
among those the smallest metric.

Destinations are canonical when no two of the same length cover one address; then the lookup has
nothing left to choose between (`lookup_eq_some_iff`).
-/

namespace Routing

open List Bool Option

variable {ν η α : Type}

/-- A route: where to, how preferred, and over what. -/
structure Route (ν η : Type) where
  dest : ν
  metric : ℕ
  hop : η
deriving DecidableEq

/-- What a table has only one route for. -/
def Route.key (r : Route ν η) : ν × ℕ := (r.dest, r.metric)

/-- Routes with different destinations or metrics. -/
structure Table (ν η : Type) where
  routes : List (Route ν η)
  nodup : (routes.map Route.key).Nodup

instance : Membership (Route ν η) (Table ν η) := ⟨fun t r => r ∈ t.routes⟩

variable {t : Table ν η} {r : Route ν η} {p : Route ν η → Bool}

/-- Two routes of a table for the same destination and metric are the same. -/
theorem Table.eq_of_key_eq {r' : Route ν η} (hr : r ∈ t) (hr' : r' ∈ t) (h : r.key = r'.key) :
    r = r' :=
  inj_on_of_nodup_map t.nodup hr hr' h

/-- The table has the routes `l` over those of another one. -/
def Table.Overlaid (base : Table ν η) (l : List (Route ν η)) (t : Table ν η) : Prop :=
  ∀ r, r ∈ t ↔ r ∈ l ∨ r ∈ base ∧ ∀ o ∈ l, o.key ≠ r.key

theorem Table.overlaid_nil (t : Table ν η) : t.Overlaid [] t := fun r => by simp

section Insert

variable [DecidableEq ν]

/-- Add a route, or put it in the place of another one. -/
def Table.insert (r : Route ν η) (t : Table ν η) : Table ν η where
  routes := r :: t.routes.filter fun r' => r'.key ≠ r.key
  nodup := by
    rw [map_cons, nodup_cons]
    refine ⟨fun h => ?_, t.nodup.sublist (filter_sublist.map _)⟩
    obtain ⟨r', hr', hkey⟩ := mem_map.mp h
    exact absurd hkey (of_decide_eq_true (mem_filter.mp hr').2)

theorem Table.mem_insert {r r' : Route ν η} {t : Table ν η} :
    r' ∈ t.insert r ↔ r' = r ∨ r' ∈ t ∧ r'.key ≠ r.key := by
  show r' ∈ r :: t.routes.filter (fun r' => r'.key ≠ r.key) ↔ _
  rw [mem_cons, mem_filter, decide_eq_true_eq]
  rfl

variable {l : List (Route ν η)}

/-- One more route over a table, if it does not change one that is over it already. -/
theorem Table.Overlaid.insert {base t : Table ν η} {r : Route ν η} (h : base.Overlaid l t)
    (hkey : ∀ o ∈ l, o.key = r.key → o = r) : base.Overlaid (l ++ [r]) (t.insert r) := by
  intro r'
  rw [mem_insert, h r', mem_append, mem_singleton]
  constructor
  · rintro (rfl | ⟨hl | ⟨hbase, hne⟩, hnew⟩)
    · exact .inl (.inr rfl)
    · exact .inl (.inl hl)
    · refine .inr ⟨hbase, fun o ho => ?_⟩
      rcases mem_append.mp ho with ho | ho
      · exact hne o ho
      · rw [mem_singleton.mp ho]
        exact hnew.symm
  · rintro ((hl | rfl) | ⟨hbase, hne⟩)
    · by_cases hsame : r'.key = r.key
      · exact .inl (hkey r' hl hsame)
      · exact .inr ⟨.inl hl, hsame⟩
    · exact .inl rfl
    · refine .inr ⟨.inr ⟨hbase, fun o ho => hne o (mem_append_left _ ho)⟩, ?_⟩
      exact (hne r (mem_append_right _ (mem_singleton_self r))).symm

/-- Routes over a table, if those for the same destination and metric are the same. -/
theorem Table.overlaid_foldl_insert (base : Table ν η)
    (h : ∀ r ∈ l, ∀ r' ∈ l, r.key = r'.key → r = r') :
    base.Overlaid l (l.foldl (fun t r => t.insert r) base) := by
  induction l using reverseRecOn with
  | nil => exact base.overlaid_nil
  | append_singleton l r ih =>
    rw [foldl_concat]
    refine (ih fun r' hr' r'' hr'' => ?_).insert fun o ho => ?_
    · exact h r' (mem_append_left _ hr') r'' (mem_append_left _ hr'')
    · exact h o (mem_append_left _ ho) r (mem_append_right _ (mem_singleton_self r))

end Insert

/-- Remove the first route that satisfies a condition. -/
def Table.delete (p : Route ν η → Bool) (t : Table ν η) : Table ν η where
  routes := t.routes.eraseP p
  nodup := t.nodup.sublist (eraseP_sublist.map _)

theorem Table.mem_of_mem_delete (h : r ∈ t.delete p) : r ∈ t := mem_of_mem_eraseP h

theorem Table.mem_delete_of_not (hp : p r = false) : r ∈ t.delete p ↔ r ∈ t :=
  mem_eraseP_of_neg (eq_false_iff.mp hp)

/-- A condition that only routes of one key satisfy removes all that satisfy it. -/
theorem Table.mem_delete {k : ν × ℕ} (hp : ∀ r, p r = true → r.key = k) :
    r ∈ t.delete p ↔ r ∈ t ∧ p r = false := by
  refine ⟨fun h => ⟨t.mem_of_mem_delete h, ?_⟩, fun h => (t.mem_delete_of_not h.2).mpr h.1⟩
  by_contra hr
  have hr : p r = true := (not_eq_false _).mp hr
  -- the removed route and this one have the same key
  obtain ⟨r', l₁, l₂, -, hr', hroutes, herase⟩ :=
    exists_of_eraseP (t.mem_of_mem_delete h) hr
  have hmem : r ∈ l₁ ++ l₂ := herase ▸ h
  have hnodup := t.nodup
  rw [hroutes] at hnodup
  have hkey : r'.key ∉ (l₁ ++ l₂).map Route.key := by
    have := (perm_middle : (l₁ ++ r' :: l₂).Perm (r' :: (l₁ ++ l₂))).map Route.key
    exact (nodup_cons.mp (this.nodup hnodup)).1
  exact hkey (((hp r' hr').trans (hp r hr).symm) ▸ mem_map_of_mem hmem)

/-- Remove the routes over a hop. -/
def Table.dropHop [DecidableEq η] (hop : η) (t : Table ν η) : Table ν η where
  routes := t.routes.filter fun r => r.hop ≠ hop
  nodup := t.nodup.sublist (filter_sublist.map _)

theorem Table.mem_dropHop [DecidableEq η] {hop : η} : r ∈ t.dropHop hop ↔ r ∈ t ∧ r.hop ≠ hop := by
  show r ∈ t.routes.filter (fun r => r.hop ≠ hop) ↔ _
  rw [mem_filter, decide_eq_true_eq]
  rfl

/-! ## Lookup -/

section Lookup

variable (len : ν → ℕ) (covers : ν → α → Bool)

/-- The first route is preferred: it is longer, or as long with a smaller metric. -/
def beats (r r' : Route ν η) : Bool :=
  len r'.dest < len r.dest || (len r'.dest == len r.dest && r.metric < r'.metric)

variable {r : Route ν η} {t : Table ν η} {d : α}

theorem beats_iff {r' : Route ν η} :
    beats len r r' = true ↔
      len r'.dest < len r.dest ∨ len r'.dest = len r.dest ∧ r.metric < r'.metric := by
  simp only [beats, or_eq_true, and_eq_true, decide_eq_true_eq, beq_iff_eq]

/-- The better one of two routes. -/
def better (best : Option (Route ν η)) (r : Route ν η) : Option (Route ν η) :=
  match best with
  | none => some r
  | some best => if beats len r best then some r else some best

/-- The route for an address. -/
def Table.lookup (d : α) (t : Table ν η) : Option (Route ν η) :=
  (t.routes.filter fun r => covers r.dest d).foldl (better len) none

variable {len covers}

theorem beats_self (r : Route ν η) : beats len r r = false := by
  rw [eq_false_iff, ne_eq, beats_iff]
  omega

theorem not_beats_trans {r' r'' : Route ν η} (h : beats len r r' = false)
    (h' : beats len r' r'' = false) : beats len r r'' = false := by
  rw [eq_false_iff, ne_eq, beats_iff] at *
  omega

/-- The better one is one of the two, and neither beats it. -/
theorem better_spec (len : ν → ℕ) (best : Option (Route ν η)) (r : Route ν η) :
    ∃ c, better len best r = some c ∧ (c = r ∨ best = some c) ∧ beats len r c = false ∧
      ∀ b, best = some b → beats len b c = false := by
  cases best with
  | none => exact ⟨r, rfl, .inl rfl, beats_self r, fun _ h => nomatch h⟩
  | some b =>
    by_cases hbeats : beats len r b = true
    · refine ⟨r, if_pos hbeats, .inl rfl, beats_self r, fun b' hb' => ?_⟩
      obtain rfl : b = b' := some.inj hb'
      rw [beats_iff] at hbeats
      rw [eq_false_iff, ne_eq, beats_iff]
      omega
    · refine ⟨b, if_neg hbeats, .inr rfl, eq_false_iff.mpr hbeats, fun b' hb' => ?_⟩
      obtain rfl : b = b' := some.inj hb'
      exact beats_self b

/-- The best one is from the list or was there before, and none of these beats it. -/
theorem foldl_better {l : List (Route ν η)} {best : Option (Route ν η)}
    (h : l.foldl (better len) best = some r) :
    (r ∈ l ∨ best = some r) ∧ (∀ r' ∈ l, beats len r' r = false) ∧
      ∀ b, best = some b → beats len b r = false := by
  induction l generalizing best with
  | nil =>
    obtain rfl : best = some r := h
    refine ⟨.inr rfl, fun _ h => (nomatch h), fun b hb => ?_⟩
    obtain rfl : r = b := some.inj hb
    exact beats_self r
  | cons a l ih =>
    obtain ⟨c, hc, hfrom, ha, hbest⟩ := better_spec len best a
    obtain ⟨hmem, hl, hr⟩ := ih h
    have hcr : beats len c r = false := hr c hc
    refine ⟨?_, fun r' hr' => ?_, fun b hb => not_beats_trans (hbest b hb) hcr⟩
    · rcases hmem with hmem | heq
      · exact .inl (mem_cons_of_mem _ hmem)
      · obtain rfl : c = r := some.inj (hc.symm.trans heq)
        rcases hfrom with rfl | hfrom
        · exact .inl mem_cons_self
        · exact .inr hfrom
    · rcases mem_cons.mp hr' with rfl | hr'
      · exact not_beats_trans ha hcr
      · exact hl r' hr'

theorem foldl_better_isSome (l : List (Route ν η)) (best : Option (Route ν η)) :
    (l.foldl (better len) best).isSome = (!l.isEmpty || best.isSome) := by
  induction l generalizing best with
  | nil => simp
  | cons a l ih =>
    rw [foldl_cons, ih]
    obtain ⟨c, hc, -⟩ := better_spec len best a
    rw [hc]
    simp

/-- No two destinations of the same length cover one address. -/
def Canonical (len : ν → ℕ) (covers : ν → α → Bool) : Prop :=
  ∀ {n n' : ν} {d : α}, covers n d = true → covers n' d = true → len n = len n' → n = n'

theorem Table.isSome_lookup (hr : r ∈ t) (hcovers : covers r.dest d = true) :
    (t.lookup len covers d).isSome = true := by
  unfold Table.lookup
  rw [foldl_better_isSome, or_eq_true, not_eq_true', isEmpty_eq_false_iff]
  exact .inl (ne_nil_of_mem (mem_filter.mpr ⟨hr, hcovers⟩))

/-- The lookup finds the one route that covers the address and is beaten by none that does. -/
theorem Table.lookup_eq_some_iff (hcanonical : Canonical len covers) :
    t.lookup len covers d = some r ↔
      r ∈ t ∧ covers r.dest d = true ∧
        ∀ r' ∈ t, covers r'.dest d = true → beats len r' r = false := by
  have hspec : ∀ r, t.lookup len covers d = some r →
      r ∈ t ∧ covers r.dest d = true ∧
        ∀ r' ∈ t, covers r'.dest d = true → beats len r' r = false := by
    intro r h
    obtain ⟨hmem, hbest, -⟩ := foldl_better h
    have hmem := hmem.resolve_right fun h => nomatch h
    obtain ⟨hr, hcovers⟩ := mem_filter.mp hmem
    exact ⟨hr, hcovers, fun r' hr' h' => hbest r' (mem_filter.mpr ⟨hr', h'⟩)⟩
  refine ⟨hspec r, fun h => ?_⟩
  obtain ⟨hr, hcovers, hbest⟩ := h
  obtain ⟨r', hr'⟩ := isSome_iff_exists.mp (isSome_lookup hr hcovers)
  obtain ⟨hmem', hcovers', hbest'⟩ := hspec r' hr'
  -- neither beats the other, so they have the same length and metric
  have h₁ := hbest r' hmem' hcovers'
  have h₂ := hbest' r hr hcovers
  rw [eq_false_iff, ne_eq, beats_iff] at h₁ h₂
  have hdest : r'.dest = r.dest := hcanonical hcovers' hcovers (by omega)
  have hmetric : r'.metric = r.metric := by
    rw [hdest] at h₁ h₂
    omega
  have hkey : r'.key = r.key := Prod.ext hdest hmetric
  rw [hr', Table.eq_of_key_eq hmem' hr hkey]

end Lookup

end Routing
