import Mathlib.Data.List.Basic

/-!
# `QString::arg`

`s.arg(v)` replaces the place markers with the lowest number in `s` by `v`. A marker is `%n` or
`%Ln`, with a number of one or two digits. In a chain of calls the second one reads what the first
one put in: a `%` in there counts as a marker if digits follow.

`argParts` cuts a text into markers and other characters, and `arg` fills the markers. What is left
of the characters of `s` and `v` is said by `mem_arg` and `mem_arg_of_mem`.
-/

namespace Qt

open List Option

/-- A piece of a text: a character, or a place marker with its number and its characters. -/
inductive ArgPart where
  | char (c : Char)
  | marker (n : ℕ) (chars : List Char)

namespace ArgPart

def text : ArgPart → List Char
  | .char c => [c]
  | .marker _ chars => chars

def number? : ArgPart → Option ℕ
  | .char _ => none
  | .marker n _ => some n

/-- The piece after the markers with number `low` got the value `v`. -/
def fill (low : Option ℕ) (v : List Char) : ArgPart → List Char
  | .char c => [c]
  | .marker n chars => if low = some n then v else chars

theorem mem_fill {low : Option ℕ} {v : List Char} {p : ArgPart} {c : Char} (h : c ∈ p.fill low v) :
    c ∈ p.text ∨ c ∈ v := by
  cases p with
  | char _ => exact .inl h
  | marker n chars =>
    simp only [fill] at h
    split at h
    · exact .inr h
    · exact .inl h

end ArgPart

section Arg

variable (digitValue : Char → Option ℕ)

/-- The number of one or two digits at the start of a text, with the count of its digits. -/
def argNumber : List Char → Option (ℕ × ℕ)
  | [] => none
  | c :: l =>
      match digitValue c, l.head?.bind digitValue with
      | none, _ => none
      | some d, some e => some (10 * d + e, 2)
      | some d, none => some (d, 1)

/-- The place marker at the start of a text: its number and its length. -/
def argMarker : List Char → Option (ℕ × ℕ)
  | '%' :: 'L' :: l => (argNumber digitValue l).map fun m => (m.1, m.2 + 2)
  | '%' :: l => (argNumber digitValue l).map fun m => (m.1, m.2 + 1)
  | _ => none

/-- The pieces of a text, after the next `skip` characters. -/
def argParts : ℕ → List Char → List ArgPart
  | _, [] => []
  | skip + 1, _ :: l => argParts skip l
  | 0, c :: l =>
      match argMarker digitValue (c :: l) with
      | some (n, len) => .marker n ((c :: l).take len) :: argParts (len - 1) l
      | none => .char c :: argParts 0 l

/-- `s.arg(v)`. Without a marker the text stays as it is. -/
def arg (s v : List Char) : List Char :=
  let ps := argParts digitValue 0 s
  ps.flatMap (ArgPart.fill (ps.filterMap ArgPart.number?).min? v)

/-! ## The characters of the result -/

variable {digitValue} {c : Char} {l s : List Char}

theorem argMarker_of_ne (hc : c ≠ '%') (l : List Char) : argMarker digitValue (c :: l) = none := by
  unfold argMarker
  split
  · next h => exact absurd (cons.inj h).1 hc
  · next h => exact absurd (cons.inj h).1 hc
  · rfl

/-- A number has at least one character, and all of them are digits. -/
theorem argNumber_eq_some {n len : ℕ} (h : argNumber digitValue l = some (n, len)) :
    0 < len ∧ ∀ c ∈ l.take len, (digitValue c).isSome = true := by
  cases l with
  | nil => cases h
  | cons c l =>
    simp only [argNumber] at h
    split at h
    · cases h
    · next d e hd he =>
      obtain ⟨rfl, rfl⟩ := Prod.mk.inj (some.inj h)
      obtain ⟨x, hx, hxe⟩ := bind_eq_some_iff.mp he
      obtain ⟨l, rfl⟩ := head?_eq_some_iff.mp hx
      simp [hd, hxe]
    · next d hd _ =>
      obtain ⟨rfl, rfl⟩ := Prod.mk.inj (some.inj h)
      simp [hd]

/-- A marker has at least one character, and each is a percent sign, an `L` or a digit. -/
theorem argMarker_eq_some {n len : ℕ} (h : argMarker digitValue l = some (n, len)) :
    0 < len ∧ ∀ c ∈ l.take len, c = '%' ∨ c = 'L' ∨ (digitValue c).isSome = true := by
  unfold argMarker at h
  split at h
  · obtain ⟨m, hm, heq⟩ := map_eq_some_iff.mp h
    obtain ⟨rfl, rfl⟩ := Prod.mk.inj heq
    simpa using fun c hc => .inr (.inr ((argNumber_eq_some hm).2 c hc))
  · obtain ⟨m, hm, heq⟩ := map_eq_some_iff.mp h
    obtain ⟨rfl, rfl⟩ := Prod.mk.inj heq
    simpa using fun c hc => .inr (.inr ((argNumber_eq_some hm).2 c hc))
  · cases h

/-- The pieces are the whole text. -/
theorem flatMap_text_argParts (l : List Char) (skip : ℕ) :
    (argParts digitValue skip l).flatMap ArgPart.text = l.drop skip := by
  induction l generalizing skip with
  | nil => cases skip <;> rfl
  | cons c l ih =>
    cases skip with
    | succ skip => exact ih skip
    | zero =>
      simp only [argParts]
      split
      · next n len h =>
        obtain ⟨len, rfl⟩ := Nat.exists_eq_add_one.mpr (argMarker_eq_some h).1
        rw [flatMap_cons, ih, Nat.add_sub_cancel, ArgPart.text, take_succ_cons,
          cons_append, take_append_drop, drop_zero]
      · rw [flatMap_cons, ih, ArgPart.text, drop_zero, drop_zero,
          singleton_append]

/-- The characters of a marker. -/
theorem mem_of_marker_mem {skip n : ℕ} {chars : List Char}
    (h : .marker n chars ∈ argParts digitValue skip l) (hc : c ∈ chars) :
    c = '%' ∨ c = 'L' ∨ (digitValue c).isSome = true := by
  induction l generalizing skip with
  | nil => cases skip <;> cases h
  | cons x l ih =>
    cases skip with
    | succ skip => exact ih h
    | zero =>
      simp only [argParts] at h
      split at h
      · next m len hm =>
        rcases mem_cons.mp h with heq | h
        · rw [(ArgPart.marker.inj heq).2] at hc
          exact (argMarker_eq_some hm).2 c hc
        · exact ih h
      · rcases mem_cons.mp h with heq | h
        · cases heq
        · exact ih h

/-- Nothing is in the result but what is in the text or the value. -/
theorem mem_arg {v : List Char} (h : c ∈ arg digitValue s v) : c ∈ s ∨ c ∈ v := by
  obtain ⟨p, hp, hc⟩ := mem_flatMap.mp h
  refine (ArgPart.mem_fill hc).imp_left fun htext => ?_
  have hmem := mem_flatMap.mpr ⟨p, hp, htext⟩
  rwa [flatMap_text_argParts, drop_zero] at hmem

/-- Only percent signs, the letter `L` and digits can be lost. -/
theorem mem_arg_of_mem (v : List Char) (h : c ∈ s) (hp : c ≠ '%') (hl : c ≠ 'L')
    (hd : digitValue c = none) : c ∈ arg digitValue s v := by
  have hmem : c ∈ (argParts digitValue 0 s).flatMap ArgPart.text := by
    rwa [flatMap_text_argParts, drop_zero]
  obtain ⟨p, hpart, hc⟩ := mem_flatMap.mp hmem
  refine mem_flatMap.mpr ⟨p, hpart, ?_⟩
  cases p with
  | char x => exact hc
  | marker n chars =>
    rcases mem_of_marker_mem hpart hc with rfl | rfl | hsome
    · exact absurd rfl hp
    · exact absurd rfl hl
    · rw [hd] at hsome
      cases hsome

/-! ## Two markers -/

/-- Text without percent signs has no markers. -/
theorem argParts_append (hl : '%' ∉ l) (m : List Char) :
    argParts digitValue 0 (l ++ m) = l.map .char ++ argParts digitValue 0 m := by
  induction l with
  | nil => rfl
  | cons c l ih =>
    have hc : c ≠ '%' := fun h => hl (h ▸ mem_cons_self)
    rw [cons_append, argParts, argMarker_of_ne hc, map_cons, cons_append,
      ← ih fun h => hl (mem_cons_of_mem _ h)]

theorem flatMap_fill_char (low : Option ℕ) (l v : List Char) :
    (l.map ArgPart.char).flatMap (ArgPart.fill low v) = l := by
  simp [flatMap_map, ArgPart.fill]

/-- The text before the first percent sign stays. -/
theorem exists_arg_append (hl : '%' ∉ l) (m v : List Char) :
    ∃ r, arg digitValue (l ++ m) v = l ++ r := by
  rw [arg, argParts_append hl, flatMap_append, flatMap_fill_char]
  exact ⟨_, rfl⟩

/-- The first call on `%1/%2`. -/
theorem arg_pair_first (h₁ : digitValue '1' = some 1) (h₂ : digitValue '2' = some 2)
    (hs : digitValue '/' = none) (v : List Char) :
    arg digitValue ['%', '1', '/', '%', '2'] v = v ++ ['/', '%', '2'] := by
  have hparts : argParts digitValue 0 ['%', '1', '/', '%', '2'] =
      [.marker 1 ['%', '1'], .char '/', .marker 2 ['%', '2']] := by
    simp [argParts, argMarker, argNumber, h₁, h₂, hs]
  rw [arg, hparts]
  rfl

/-- The second call, when the first one put in no percent sign. -/
theorem arg_pair_second (h₂ : digitValue '2' = some 2) (hl : '%' ∉ l) (v : List Char) :
    arg digitValue (l ++ ['/', '%', '2']) v = l ++ '/' :: v := by
  have hparts : argParts digitValue 0 (l ++ ['/', '%', '2']) =
      l.map .char ++ [.char '/', .marker 2 ['%', '2']] := by
    rw [argParts_append hl]
    simp [argParts, argMarker, argNumber, h₂]
  have hnone : (l.map ArgPart.char).filterMap ArgPart.number? = [] := by
    simp [filterMap_map, ArgPart.number?, Function.comp_def]
  have hlow : ([.char '/', .marker 2 ['%', '2']].filterMap ArgPart.number?).min? = some 2 := rfl
  rw [arg, hparts, filterMap_append, hnone, nil_append, hlow, flatMap_append,
    flatMap_fill_char]
  simp [ArgPart.fill]

end Arg

end Qt
