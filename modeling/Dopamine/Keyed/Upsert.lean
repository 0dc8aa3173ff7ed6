import Mathlib.Data.List.Basic
import Mathlib.Data.List.Induction
import Mathlib.Data.Nat.Basic
import Mathlib.Order.Basic

/-!
# Upserts by key

A table is a list of rows. An item is written to the first row with its key; if there is none, or if
the item has no key, a row is made for it at the end. New rows are numbered, so that a row can carry
its number as its identity.

What a run of items does to an old row is told by the items alone: the first row with a key gets the
items with that key in turn (`getElem?_run_of_first`), every other row stays
(`getElem?_run_of_later`). If an update overwrites all that an update with the same key wrote before
(`Absorbing`), the last item with a key decides, and a second run of the same items changes nothing
(`run_run`).
-/

namespace Keyed

open List Option Bool

universe u v w

variable {ρ : Type u} {γ : Type v} {κ : Type w}

/-- A list of rows and the number of the next new row. -/
structure Table (ρ : Type u) where
  rows : List ρ
  next : ℕ

/-- How items are written to rows. -/
structure Scheme (ρ : Type u) (γ : Type v) (κ : Type w) where
  key : ρ → κ
  /-- The key of an item; an item without one is always new. -/
  keyOf : γ → Option κ
  update : γ → ρ → ρ
  create : ℕ → γ → ρ

/-! ## The first row that meets a condition -/

/-- Change the first row that meets a condition. -/
def updateFirst (p : ρ → Bool) (f : ρ → ρ) : List ρ → List ρ
  | [] => []
  | r :: l => if p r then f r :: l else r :: updateFirst p f l

section UpdateFirst

variable {p : ρ → Bool} {f : ρ → ρ} {l : List ρ}

theorem map_updateFirst {β : Type*} {g : ρ → β} (h : ∀ r ∈ l, p r = true → g (f r) = g r) :
    (updateFirst p f l).map g = l.map g := by
  induction l with
  | nil => rfl
  | cons r l ih =>
    rw [updateFirst]
    split_ifs with hp
    · rw [map_cons, map_cons, h r mem_cons_self hp]
    · rw [map_cons, map_cons, ih fun r' hr' => h r' (mem_cons_of_mem _ hr')]

@[simp]
theorem length_updateFirst : (updateFirst p f l).length = l.length := by
  have h : (updateFirst p f l).map (fun _ => ()) = l.map fun _ => () :=
    map_updateFirst fun _ _ _ => rfl
  exact length_map (fun _ => ()) ▸ (congrArg length h).trans (length_map _)

variable {i : ℕ} {r : ρ} {q : ρ → Bool}

theorem getElem?_updateFirst_of_first (hr : l[i]? = some r) (hp : p r = true)
    (hfirst : ∀ r' ∈ l.take i, p r' = false) : (updateFirst p f l)[i]? = some (f r) := by
  induction l generalizing i with
  | nil => cases hr
  | cons r' l ih =>
    cases i with
    | zero =>
      obtain rfl : r' = r := some.inj hr
      rw [updateFirst, if_pos hp]
      rfl
    | succ i =>
      rw [take_succ_cons] at hfirst
      rw [updateFirst, if_neg (not_eq_true _ ▸ hfirst r' mem_cons_self)]
      exact ih hr fun r'' hr'' => hfirst r'' (mem_cons_of_mem _ hr'')

theorem getElem?_updateFirst_of_not (hr : l[i]? = some r)
    (hnot : p r = false ∨ ∃ r' ∈ l.take i, p r' = true) : (updateFirst p f l)[i]? = some r := by
  induction l generalizing i with
  | nil => cases hr
  | cons r' l ih =>
    rw [updateFirst]
    cases i with
    | zero =>
      obtain rfl : r' = r := some.inj hr
      have hp : p r' = false := by
        refine hnot.resolve_right ?_
        rintro ⟨r'', hr'', -⟩
        cases hr''
      rw [if_neg (not_eq_true _ ▸ hp)]
      rfl
    | succ i =>
      split_ifs with hp
      · exact hr
      · refine ih hr (hnot.imp_right ?_)
        rintro ⟨r'', hr'', hp''⟩
        rcases mem_cons.mp hr'' with rfl | hr''
        · exact absurd hp'' hp
        · exact ⟨r'', hr'', hp''⟩

theorem find?_updateFirst_self (h : ∀ r, p r = true → p (f r) = true) :
    (updateFirst p f l).find? p = (l.find? p).map f := by
  induction l with
  | nil => rfl
  | cons r l ih =>
    rw [updateFirst]
    split_ifs with hp
    · rw [find?_cons_of_pos (h r hp), find?_cons_of_pos hp]
      rfl
    · rw [find?_cons_of_neg hp, find?_cons_of_neg hp, ih]

theorem find?_updateFirst_of_disjoint (h : ∀ r, p r = true → q r = false ∧ q (f r) = false) :
    (updateFirst p f l).find? q = l.find? q := by
  induction l with
  | nil => rfl
  | cons r l ih =>
    rw [updateFirst]
    split_ifs with hp
    · rw [find?_cons_of_neg (not_eq_true _ ▸ (h r hp).2),
        find?_cons_of_neg (not_eq_true _ ▸ (h r hp).1)]
    · rw [find?_cons, find?_cons, ih]

theorem filter_updateFirst_of_disjoint (h : ∀ r ∈ l, p r = true → q r = false ∧ q (f r) = false) :
    (updateFirst p f l).filter q = l.filter q := by
  induction l with
  | nil => rfl
  | cons r l ih =>
    have hrest := ih fun r' hr' => h r' (mem_cons_of_mem _ hr')
    rw [updateFirst]
    split_ifs with hp
    · obtain ⟨hq, hq'⟩ := h r mem_cons_self hp
      rw [filter_cons_of_neg (not_eq_true _ ▸ hq'),
        filter_cons_of_neg (not_eq_true _ ▸ hq)]
    · rw [filter_cons, filter_cons, hrest]

/-- The first row that meets the condition, found by its index. -/
theorem set_findFinIdx? {i : Fin l.length} (h : l.findFinIdx? p = some i) :
    l.set i (f l[i]) = updateFirst p f l := by
  obtain ⟨hp, hfirst⟩ := findFinIdx?_eq_some_iff.mp h
  refine ext_getElem? fun j => ?_
  have hi : l[(i : ℕ)]? = some l[i] := getElem?_eq_getElem i.2
  by_cases hj : (i : ℕ) = j
  · subst hj
    rw [getElem?_set_self i.2]
    refine (getElem?_updateFirst_of_first hi hp fun r hr => ?_).symm
    obtain ⟨k, hk, rfl⟩ := mem_take_iff_getElem.mp hr
    have hlt : k < i := lt_of_lt_of_le hk (Nat.min_le_left _ _)
    exact eq_false_of_ne_true (hfirst ⟨k, hlt.trans i.2⟩ hlt)
  · rw [getElem?_set_ne hj]
    cases hr : l[j]? with
    | none =>
      rw [getElem?_eq_none_iff, length_updateFirst.symm] at hr
      exact (getElem?_eq_none_iff.mpr hr).symm
    | some r =>
      refine (getElem?_updateFirst_of_not hr ?_).symm
      rcases Nat.lt_or_gt_of_ne hj with hlt | hlt
      · exact .inr ⟨l[i], mem_take_iff_getElem.mpr ⟨i, Nat.lt_min.mpr ⟨hlt, i.2⟩, rfl⟩, hp⟩
      · obtain ⟨hlen, rfl⟩ := List.getElem?_eq_some_iff.mp hr
        exact .inl (eq_false_of_ne_true (hfirst ⟨j, hlen⟩ hlt))

end UpdateFirst

/-! ## Writing items -/

namespace Scheme

variable [DecidableEq κ] (s : Scheme ρ γ κ)

/-- The item has the key of the row. -/
def hits (c : γ) (r : ρ) : Bool := s.keyOf c = some (s.key r)

/-- Write an item to the first row with its key, or to a new row. -/
def upsert (t : Table ρ) (c : γ) : Table ρ :=
  if t.rows.any (s.hits c) then ⟨updateFirst (s.hits c) (s.update c) t.rows, t.next⟩
  else ⟨t.rows ++ [s.create t.next c], t.next + 1⟩

/-- Write items one after the other. -/
def run (t : Table ρ) (cs : List γ) : Table ρ := cs.foldl s.upsert t

/-- What items with its key make of a row. -/
def updated (cs : List γ) (r : ρ) : ρ :=
  cs.foldl (fun r c => if s.hits c r then s.update c r else r) r

/-- The last item with a key. -/
def lastOf (k : κ) (cs : List γ) : Option γ := cs.reverse.find? fun c => s.keyOf c = some k

/-- Updates leave the key, and a new row has the key of its item. -/
structure Keeps (ok : γ → Prop) : Prop where
  key_update : ∀ c r, ok c → s.hits c r = true → s.key (s.update c r) = s.key r
  key_create : ∀ c n k, ok c → s.keyOf c = some k → s.key (s.create n c) = k

/-- An update overwrites what an update with the same key wrote, and a new row is one to which its
item has been written. -/
structure Absorbing (ok : γ → Prop) : Prop extends Keeps s ok where
  update_update : ∀ c c' r, ok c → ok c' → s.hits c r = true → s.hits c' r = true →
    s.update c' (s.update c r) = s.update c' r
  update_create : ∀ c n k, ok c → s.keyOf c = some k → s.update c (s.create n c) = s.create n c

variable {s} {ok : γ → Prop} {t : Table ρ} {c : γ} {cs : List γ} {r : ρ} {i : ℕ} {k : κ}

theorem hits_iff : s.hits c r = true ↔ s.keyOf c = some (s.key r) := decide_eq_true_iff

theorem upsert_of_hit (h : t.rows.any (s.hits c) = true) :
    s.upsert t c = ⟨updateFirst (s.hits c) (s.update c) t.rows, t.next⟩ := if_pos h

theorem upsert_of_new (h : ¬t.rows.any (s.hits c) = true) :
    s.upsert t c = ⟨t.rows ++ [s.create t.next c], t.next + 1⟩ := if_neg h

theorem run_concat (t : Table ρ) (cs : List γ) (c : γ) :
    s.run t (cs ++ [c]) = s.upsert (s.run t cs) c :=
  foldl_concat ..

theorem updated_concat (cs : List γ) (c : γ) (r : ρ) : s.updated (cs ++ [c]) r =
    if s.hits c (s.updated cs r) then s.update c (s.updated cs r) else s.updated cs r :=
  foldl_concat ..

theorem lastOf_concat (k : κ) (cs : List γ) (c : γ) :
    s.lastOf k (cs ++ [c]) = if s.keyOf c = some k then some c else s.lastOf k cs := by
  rw [lastOf, reverse_concat, find?_cons]
  split_ifs with h
  · rw [decide_eq_true h]
  · rw [decide_eq_false h]
    rfl

/-! ### Old rows -/

theorem keys_upsert (hs : s.Keeps ok) (hc : ok c) :
    (s.upsert t c).rows.map s.key = t.rows.map s.key ++
      if t.rows.any (s.hits c) then [] else [s.key (s.create t.next c)] := by
  rw [upsert]
  split_ifs with h
  · rw [append_nil]
    exact map_updateFirst fun r _ hr => hs.key_update c r hc hr
  · exact map_append

theorem take_keys_upsert (hs : s.Keeps ok) (hc : ok c) (hi : i ≤ t.rows.length) :
    ((s.upsert t c).rows.map s.key).take i = (t.rows.map s.key).take i := by
  rw [keys_upsert hs hc, take_append_of_le_length]
  exact hi.trans_eq (length_map _).symm

theorem length_le_upsert : t.rows.length ≤ (s.upsert t c).rows.length := by
  rw [upsert]
  split_ifs
  · exact length_updateFirst.ge
  · exact (length_append ▸ Nat.le_add_right _ _)

/-- No row with the key of a hit comes before the first row with that key. -/
theorem not_hits_of_first (hfirst : s.key r ∉ (t.rows.map s.key).take i)
    (hit : s.hits c r = true) : ∀ r' ∈ t.rows.take i, s.hits c r' = false := by
  intro r' hr'
  refine eq_false_of_ne_true fun hhit => hfirst ?_
  have hkey : s.key r' = s.key r :=
    some.inj ((hits_iff.mp hhit).symm.trans (hits_iff.mp hit))
  rw [← hkey, ← map_take]
  exact mem_map_of_mem hr'

theorem find?_of_first (hr : t.rows[i]? = some r) (hfirst : s.key r ∉ (t.rows.map s.key).take i) :
    (t.rows.find? fun r' => s.key r' = s.key r) = some r := by
  obtain ⟨hi, hget⟩ := List.getElem?_eq_some_iff.mp hr
  refine find?_eq_some_iff_getElem.mpr ⟨decide_eq_true rfl, i, hi, hget, fun j hj => ?_⟩
  rw [not_eq_true', decide_eq_false_iff_not]
  intro hkey
  rw [← map_take] at hfirst
  refine hfirst (hkey ▸ mem_map_of_mem ?_)
  exact mem_take_iff_getElem.mpr ⟨j, Nat.lt_min.mpr ⟨hj, hj.trans hi⟩, rfl⟩

theorem getElem?_upsert_of_first (hr : t.rows[i]? = some r)
    (hfirst : s.key r ∉ (t.rows.map s.key).take i) :
    (s.upsert t c).rows[i]? = some (if s.hits c r then s.update c r else r) := by
  have hi : i < t.rows.length := (List.getElem?_eq_some_iff.mp hr).1
  split_ifs with hit
  · rw [upsert_of_hit (any_eq_true.mpr ⟨r, mem_of_getElem? hr, hit⟩)]
    exact getElem?_updateFirst_of_first hr hit (not_hits_of_first hfirst hit)
  · rw [upsert]
    split_ifs
    · exact getElem?_updateFirst_of_not hr (.inl (eq_false_of_ne_true hit))
    · rwa [getElem?_append_left hi]

theorem getElem?_upsert_of_later (hr : t.rows[i]? = some r)
    (hlater : s.key r ∈ (t.rows.map s.key).take i) : (s.upsert t c).rows[i]? = some r := by
  have hi : i < t.rows.length := (List.getElem?_eq_some_iff.mp hr).1
  rw [upsert]
  split_ifs
  · refine getElem?_updateFirst_of_not hr ?_
    cases hit : s.hits c r with
    | false => exact .inl rfl
    | true =>
      rw [← map_take] at hlater
      obtain ⟨r', hr', hkey⟩ := mem_map.mp hlater
      exact .inr ⟨r', hr', hits_iff.mpr (hkey ▸ hits_iff.mp hit)⟩
  · rwa [getElem?_append_left hi]

section

variable (hs : s.Keeps ok) (hcs : ∀ c ∈ cs, ok c)
include hs hcs

/-- The first row with a key gets the items with that key. -/
theorem getElem?_run_of_first (hr : t.rows[i]? = some r)
    (hfirst : s.key r ∉ (t.rows.map s.key).take i) :
    (s.run t cs).rows[i]? = some (s.updated cs r) := by
  induction cs generalizing t r with
  | nil => exact hr
  | cons c cs ih =>
    have hc : ok c := hcs c mem_cons_self
    have hi : i < t.rows.length := (List.getElem?_eq_some_iff.mp hr).1
    have hkey : s.key (if s.hits c r then s.update c r else r) = s.key r := by
      split_ifs with hit
      · exact hs.key_update c r hc hit
      · rfl
    refine ih (fun c' hc' => hcs c' (mem_cons_of_mem _ hc'))
      (getElem?_upsert_of_first hr hfirst) ?_
    rwa [take_keys_upsert hs hc hi.le, hkey]

/-- Every other row stays. -/
theorem getElem?_run_of_later (hr : t.rows[i]? = some r)
    (hlater : s.key r ∈ (t.rows.map s.key).take i) : (s.run t cs).rows[i]? = some r := by
  induction cs generalizing t with
  | nil => exact hr
  | cons c cs ih =>
    have hi : i < t.rows.length := (List.getElem?_eq_some_iff.mp hr).1
    refine ih (fun c' hc' => hcs c' (mem_cons_of_mem _ hc'))
      (getElem?_upsert_of_later hr hlater) ?_
    rwa [take_keys_upsert hs (hcs c mem_cons_self) hi.le]

theorem key_updated (r : ρ) : s.key (s.updated cs r) = s.key r := by
  induction cs generalizing r with
  | nil => rfl
  | cons c cs ih =>
    refine (ih (fun c' hc' => hcs c' (mem_cons_of_mem _ hc')) _).trans ?_
    show s.key (if s.hits c r then s.update c r else r) = s.key r
    split_ifs with hit
    · exact hs.key_update c r (hcs c mem_cons_self) hit
    · rfl

/-! ### Keys -/

/-- The keys are the old ones and those of new rows, and every item with a key is for one of them. -/
theorem keys_run : ∃ new,
    (s.run t cs).rows.map s.key = t.rows.map s.key ++ new ∧
      (∀ k ∈ new, ∃ c ∈ cs, ∃ n, k = s.key (s.create n c)) ∧
      ∀ c ∈ cs, ∀ k, s.keyOf c = some k → k ∈ t.rows.map s.key ++ new := by
  induction cs using reverseRecOn with
  | nil => exact ⟨[], (append_nil _).symm, fun _ h => (nomatch h), fun _ h => nomatch h⟩
  | append_singleton cs c ih =>
    obtain ⟨new, hkeys, hnew, hitems⟩ := ih fun c' hc' => hcs c' (mem_append_left _ hc')
    have hc : ok c := hcs c mem_concat_self
    rw [run_concat, keys_upsert hs hc, hkeys]
    have hnew' : ∀ k ∈ new, ∃ c' ∈ cs ++ [c], ∃ n, k = s.key (s.create n c') := fun k hk =>
      (hnew k hk).imp fun c' hc' => ⟨mem_append_left _ hc'.1, hc'.2⟩
    split_ifs with hit
    · refine ⟨new, append_nil _, hnew', fun c' hc' k hk => ?_⟩
      rcases mem_append.mp hc' with hold | hlast
      · exact hitems c' hold k hk
      · obtain ⟨r, hr, hhit⟩ := any_eq_true.mp hit
        rw [mem_singleton.mp hlast, hits_iff.mp hhit] at hk
        rw [← hkeys, ← some.inj hk]
        exact mem_map_of_mem hr
    · refine ⟨new ++ [s.key (s.create (s.run t cs).next c)], append_assoc .., fun k hk => ?_,
        fun c' hc' k hk => ?_⟩
      · rcases mem_append.mp hk with hold | hlast
        · exact hnew' k hold
        · exact ⟨c, mem_concat_self, _, mem_singleton.mp hlast⟩
      · rw [← append_assoc]
        rcases mem_append.mp hc' with hold | hlast
        · exact mem_append_left _ (hitems c' hold k hk)
        · rw [mem_singleton.mp hlast] at hk
          rw [hs.key_create c _ k hc hk]
          exact mem_concat_self

theorem key_mem_run (hr : r ∈ (s.run t cs).rows) :
    s.key r ∈ t.rows.map s.key ∨ ∃ c ∈ cs, ∃ n, s.key r = s.key (s.create n c) := by
  obtain ⟨new, hkeys, hnew, -⟩ := keys_run (t := t) hs hcs
  exact (mem_append.mp (hkeys ▸ mem_map_of_mem hr)).imp_right (hnew _)

end

/-- A key that occurs at most once still does. -/
theorem count_keys_run_le (hs : s.Keeps ok) (hcs : ∀ c ∈ cs, ok c ∧ (s.keyOf c).isSome)
    (h : (t.rows.map s.key).count k ≤ 1) : ((s.run t cs).rows.map s.key).count k ≤ 1 := by
  induction cs generalizing t with
  | nil => exact h
  | cons c cs ih =>
    obtain ⟨hc, hsome⟩ := hcs c mem_cons_self
    obtain ⟨k', hk'⟩ := isSome_iff_exists.mp hsome
    refine ih (fun c' hc' => hcs c' (mem_cons_of_mem _ hc')) ?_
    rw [keys_upsert hs hc, count_append]
    split_ifs with hit
    · exact h
    · rw [hs.key_create c t.next k' hc hk']
      by_cases hk : k' = k
      · -- a new row has a key that no row had
        have hzero : (t.rows.map s.key).count k = 0 := by
          refine count_eq_zero.mpr fun hmem => hit ?_
          obtain ⟨r, hr, hkey⟩ := mem_map.mp hmem
          have hit' : s.keyOf c = some (s.key r) := hk'.trans (congrArg some (hk.trans hkey.symm))
          exact any_eq_true.mpr ⟨r, hr, hits_iff.mpr hit'⟩
        rw [hzero, Nat.zero_add]
        exact count_le_length
      · rw [count_singleton, if_neg (fun h => hk (beq_iff_eq.mp h))]
        exact h

/-- Rows are never taken out, and each item without a key makes one. -/
theorem length_run_ge (t : Table ρ) (cs : List γ) :
    t.rows.length + cs.countP (fun c => (s.keyOf c).isNone) ≤ (s.run t cs).rows.length := by
  induction cs generalizing t with
  | nil => exact le_refl _
  | cons c cs ih =>
    refine le_trans ?_ (ih (s.upsert t c))
    rw [countP_cons, ← Nat.add_assoc, Nat.add_right_comm]
    refine Nat.add_le_add_right ?_ _
    split_ifs with hnone
    · have hnew : ¬t.rows.any (s.hits c) = true := by
        rw [List.any_eq_true]
        rintro ⟨r, -, hit⟩
        rw [hits_iff.mp hit] at hnone
        cases hnone
      rw [upsert_of_new hnew, length_append]
      exact le_refl _
    · exact length_le_upsert

/-! ### A second run -/

theorem lastOf_eq_some (h : s.lastOf k cs = some c) : c ∈ cs ∧ s.keyOf c = some k :=
  have hkey := find?_some (p := fun c => decide (s.keyOf c = some k)) h
  ⟨mem_reverse.mp (mem_of_find?_eq_some h), of_decide_eq_true hkey⟩

/-- The last item with the key of a row decides. -/
theorem updated_eq (hs : s.Absorbing ok) (hcs : ∀ c ∈ cs, ok c) (r : ρ) :
    s.updated cs r = match s.lastOf (s.key r) cs with
      | none => r
      | some c => s.update c r := by
  induction cs using reverseRecOn with
  | nil => rfl
  | append_singleton cs c ih =>
    have hold : ∀ c' ∈ cs, ok c' := fun c' hc' => hcs c' (mem_append_left _ hc')
    have hc : ok c := hcs c (mem_append_right _ (mem_singleton_self c))
    have hits_updated : s.hits c (s.updated cs r) = s.hits c r := by
      rw [hits, hits, key_updated hs.toKeeps hold r]
    rw [updated_concat, hits_updated, lastOf_concat, ih hold]
    by_cases hit : s.keyOf c = some (s.key r)
    · rw [if_pos hit, if_pos (hits_iff.mpr hit)]
      cases hlast : s.lastOf (s.key r) cs with
      | none => rfl
      | some c' =>
        obtain ⟨hmem, hkey⟩ := lastOf_eq_some hlast
        exact hs.update_update c' c r (hold c' hmem) hc (hits_iff.mpr hkey) (hits_iff.mpr hit)
    · rw [if_neg hit, if_neg (fun h => hit (hits_iff.mp h))]

/-- To the first row with the key of an item, the last item with that key has been written. -/
def Settled (s : Scheme ρ γ κ) (t : Table ρ) (cs : List γ) : Prop :=
  ∀ k c, s.lastOf k cs = some c → ∃ r, (t.rows.find? fun r => s.key r = k) = some r ∧
    s.update c r = r

theorem hits_eq (hk : s.keyOf c = some k) : s.hits c = fun r => decide (s.key r = k) := by
  funext r
  refine decide_eq_decide.mpr ?_
  rw [hk, some.injEq, eq_comm]

theorem settled_run (hs : s.Absorbing ok) (hcs : ∀ c ∈ cs, ok c) (t : Table ρ) :
    s.Settled (s.run t cs) cs := by
  induction cs using reverseRecOn with
  | nil => rintro k c ⟨⟩
  | append_singleton cs c ih =>
    have hc : ok c := hcs c (mem_append_right _ (mem_singleton_self c))
    intro k c' hlast
    rw [run_concat]
    rw [lastOf_concat] at hlast
    split_ifs at hlast with hk
    · -- the item was written last
      obtain rfl := some.inj hlast
      rw [← hits_eq hk]
      have hkeeps : ∀ r, s.hits c r = true → s.hits c (s.update c r) = true := fun r hr => by
        rw [hits, hs.key_update c r hc hr]
        exact hr
      by_cases hit : (s.run t cs).rows.any (s.hits c) = true
      · obtain ⟨r, hr⟩ := isSome_iff_exists.mp
          (find?_isSome.mpr (any_eq_true.mp hit))
        rw [upsert_of_hit hit, find?_updateFirst_self hkeeps, hr]
        have hr' : s.hits c r = true := find?_some hr
        exact ⟨s.update c r, rfl, hs.update_update c c r hc hc hr' hr'⟩
      · rw [upsert_of_new hit, find?_append,
          find?_eq_none.mpr fun r hr h => hit (any_eq_true.mpr ⟨r, hr, h⟩)]
        have hnew : s.hits c (s.create (s.run t cs).next c) = true :=
          hits_iff.mpr (hk.trans (congrArg some (hs.key_create c _ k hc hk).symm))
        refine ⟨s.create (s.run t cs).next c, ?_, hs.update_create c _ k hc hk⟩
        rw [none_or, find?_cons_of_pos hnew]
    · -- the row belongs to another key
      obtain ⟨r, hr, hupdate⟩ := ih (fun c hc => hcs c (mem_append_left _ hc)) k c' hlast
      refine ⟨r, ?_, hupdate⟩
      rw [upsert]
      split_ifs
      · rw [find?_updateFirst_of_disjoint, hr]
        intro r' hr'
        have hne : s.key r' ≠ k := fun h => hk ((hits_iff.mp hr').trans (congrArg some h))
        rw [hs.key_update c r' hc hr']
        exact ⟨decide_eq_false hne, decide_eq_false hne⟩
      · rw [find?_append, hr]
        rfl

theorem length_run_of_settled (hs : s.Keeps ok) (hcs : ∀ c ∈ cs, ok c)
    (hkeys : ∀ c ∈ cs, ∃ k, s.keyOf c = some k ∧ k ∈ t.rows.map s.key) :
    (s.run t cs).rows.length = t.rows.length ∧ (s.run t cs).next = t.next := by
  induction cs generalizing t with
  | nil => exact ⟨rfl, rfl⟩
  | cons c cs ih =>
    have hc : ok c := hcs c mem_cons_self
    obtain ⟨k, hk, hmem⟩ := hkeys c mem_cons_self
    have hit : t.rows.any (s.hits c) = true := by
      obtain ⟨r, hr, hkey⟩ := mem_map.mp hmem
      exact any_eq_true.mpr ⟨r, hr, hits_iff.mpr (hk.trans (congrArg some hkey.symm))⟩
    have hsame : (s.upsert t c).rows.map s.key = t.rows.map s.key := by
      rw [keys_upsert hs hc, if_pos hit, append_nil]
    obtain ⟨hlen, hnext⟩ := ih (t := s.upsert t c)
      (fun c' hc' => hcs c' (mem_cons_of_mem _ hc')) fun c' hc' => by
        rw [hsame]
        exact hkeys c' (mem_cons_of_mem _ hc')
    rw [upsert_of_hit hit] at hlen hnext
    refine ⟨?_, ?_⟩
    · exact (congrArg (fun t => (s.run t cs).rows.length) (upsert_of_hit hit)).trans
        (hlen.trans length_updateFirst)
    · exact (congrArg (fun t => (s.run t cs).next) (upsert_of_hit hit)).trans hnext

/-- Items that are in a table already change nothing. -/
theorem run_of_settled (hs : s.Absorbing ok)
    (hcs : ∀ c ∈ cs, ok c ∧ (s.keyOf c).isSome) (hsettled : s.Settled t cs) : s.run t cs = t := by
  have hok : ∀ c ∈ cs, ok c := fun c hc => (hcs c hc).1
  have hkeys : ∀ c ∈ cs, ∃ k, s.keyOf c = some k ∧ k ∈ t.rows.map s.key := by
    intro c hc
    obtain ⟨k, hk⟩ := isSome_iff_exists.mp (hcs c hc).2
    obtain ⟨c', hlast⟩ : ∃ c', s.lastOf k cs = some c' := by
      refine isSome_iff_exists.mp (find?_isSome.mpr ?_)
      exact ⟨c, mem_reverse.mpr hc, decide_eq_true hk⟩
    obtain ⟨r, hr, -⟩ := hsettled k c' hlast
    have hfound := find?_some (p := fun r => decide (s.key r = k)) hr
    have hkey : s.key r = k := of_decide_eq_true hfound
    exact ⟨k, hk, hkey ▸ mem_map_of_mem (mem_of_find?_eq_some hr)⟩
  obtain ⟨hlen, hnext⟩ := length_run_of_settled hs.toKeeps hok hkeys
  have hrows : (s.run t cs).rows = t.rows := by
    refine ext_getElem? fun i => ?_
    cases hr : t.rows[i]? with
    | none => rwa [getElem?_eq_none_iff, hlen, ← getElem?_eq_none_iff]
    | some r =>
      by_cases hfirst : s.key r ∈ (t.rows.map s.key).take i
      · exact getElem?_run_of_later hs.toKeeps hok hr hfirst
      · rw [getElem?_run_of_first hs.toKeeps hok hr hfirst, updated_eq hs hok]
        cases hlast : s.lastOf (s.key r) cs with
        | none => rfl
        | some c =>
          obtain ⟨r', hr', hupdate⟩ := hsettled _ c hlast
          obtain rfl : r' = r := some.inj (hr'.symm.trans (find?_of_first hr hfirst))
          exact congrArg some hupdate
  calc s.run t cs = ⟨(s.run t cs).rows, (s.run t cs).next⟩ := rfl
    _ = t := by rw [hrows, hnext]

/-- A second run of the same items changes nothing. -/
theorem run_run (hs : s.Absorbing ok) (hcs : ∀ c ∈ cs, ok c ∧ (s.keyOf c).isSome) (t : Table ρ) :
    s.run (s.run t cs) cs = s.run t cs :=
  run_of_settled hs hcs (settled_run hs (fun c hc => (hcs c hc).1) t)

end Scheme

end Keyed
