import Mathlib.Data.List.TakeDrop

/-!
# Decompression of an answer of the gateway

`gzipDecompress` in `client/ui/controllers/api/apiConfigsController.cpp` calls `inflate` of zlib
until the stream ends. Three of the codes that `inflate` returns are errors, and `Z_BUF_ERROR` is
not one of them: for an answer that was cut off the loop never ends.
-/

namespace Dopamine.Client

open List

/-- What `inflate` returns. `Z_STREAM_ERROR` is for streams that were not set up. -/
inductive InflateCode where
  | ok
  | streamEnd
  | needDict
  | dataError
  | memError
  | bufError

/-- How a stream ends: with its trailer, with an error, or too early. -/
inductive StreamEnd where
  | complete
  | broken
  | truncated
deriving DecidableEq

/-- zlib, with what its manual says about a call of `inflate` with room for output. A state knows
the input that is left (`availIn`), what it decompresses to (`rest`) and how it ends.

* `returned`: `Z_OK` is for progress, and `Z_BUF_ERROR` if none is possible because the input is
  used up.
* `start_append`: what follows a stream does not matter.
* `ten_le`: the header has ten bytes. -/
structure Zlib where
  State : Type
  start : List UInt8 → State
  inflate : State → InflateCode × List UInt8 × State
  availIn : State → ℕ
  rest : State → List UInt8
  ending : State → StreamEnd
  produced : ∀ {s code out s'}, inflate s = (code, out, s') →
    rest s = out ++ rest s' ∧ ending s' = ending s ∧ availIn s' ≤ availIn s
  returned : ∀ {s code out s'}, inflate s = (code, out, s') →
    match code with
    | .ok => out ≠ [] ∨ availIn s' < availIn s
    | .streamEnd => ending s = .complete ∧ rest s' = []
    | .bufError => ending s = .truncated
    | _ => ending s = .broken
  start_append : ∀ input more, ending (start input) ≠ .truncated →
    ending (start (input ++ more)) = ending (start input) ∧
      rest (start (input ++ more)) = rest (start input)
  ten_le : ∀ input, ending (start input) = .complete → 10 ≤ input.length

namespace Zlib

variable (z : Zlib)

/-- The loop of `gzipDecompress`, for a number of iterations. `none`: it has not returned yet. -/
def loop : ℕ → z.State → List UInt8 → Option (List UInt8)
  | 0, _, _ => none
  | n + 1, s, out =>
      match z.inflate s with
      | (.needDict, _, _) | (.dataError, _, _) | (.memError, _, _) => some []
      | (.streamEnd, chunk, _) => some (out ++ chunk)
      | (.ok, chunk, s) | (.bufError, chunk, s) => loop n s (out ++ chunk)

/-- What zlib is given: the size of the data is cast to 32 bits. -/
def given (data : List UInt8) : z.State := z.start (data.take (data.length % UInt32.size))

/-- `gzipDecompress`, if `inflateInit2` has the memory that it needs. -/
def gzipDecompress (n : ℕ) (data : List UInt8) : Option (List UInt8) :=
  if data.length < 10 then some [] else z.loop n (z.given data) []

variable {z}

/-- The loop returns if the stream has an end. Each call that goes on gives output or uses up
input. -/
theorem exists_loop {s : z.State} (h : z.ending s ≠ .truncated) (out : List UInt8) :
    ∃ n r, z.loop n s out = some r ∧ (z.ending s = .complete → r = out ++ z.rest s) := by
  rcases hcall : z.inflate s with ⟨code, chunk, s'⟩
  obtain ⟨hrest, hending, hle⟩ := z.produced hcall
  have hcode := z.returned hcall
  cases code with
  | ok =>
    have hlt : (z.rest s').length + z.availIn s' < (z.rest s).length + z.availIn s := by
      rw [hrest, length_append]
      rcases hcode with hchunk | hused
      · have hpos := length_pos_iff.mpr hchunk
        omega
      · omega
    obtain ⟨n, r, hloop, hr⟩ := exists_loop (fun heq => h (hending.symm.trans heq)) (out ++ chunk)
    refine ⟨n + 1, r, by rw [loop, hcall, ← hloop], fun hcomplete => ?_⟩
    rw [hr (hending.trans hcomplete), hrest, append_assoc]
  | streamEnd =>
    refine ⟨1, out ++ chunk, by rw [loop, hcall], fun _ => ?_⟩
    rw [hrest, hcode.2, append_nil]
  | bufError => exact absurd hcode h
  | _ =>
    refine ⟨1, [], by rw [loop, hcall], fun hcomplete => ?_⟩
    cases hcomplete.symm.trans hcode
termination_by (z.rest s).length + z.availIn s

/-- The loop does not return if the stream is cut off. -/
theorem loop_of_truncated {s : z.State} (h : z.ending s = .truncated) (n : ℕ)
    (out : List UInt8) : z.loop n s out = none := by
  induction n generalizing s out with
  | zero => rfl
  | succ n ih =>
    rcases hcall : z.inflate s with ⟨code, chunk, s'⟩
    have hcode := z.returned hcall
    have hnext := ih ((z.produced hcall).2.1.trans h) (out ++ chunk)
    cases code with
    | ok => rwa [loop, hcall]
    | bufError => rwa [loop, hcall]
    | streamEnd => cases h.symm.trans hcode.1
    | _ => cases h.symm.trans hcode

/-- **Decompression ends exactly if the answer was not cut off.** Then it gives all of the payload
of a complete stream. -/
theorem gzipDecompress_returns_iff (data : List UInt8) :
    ((∃ n r, z.gzipDecompress n data = some r) ∧ (z.ending (z.start data) = .complete →
      ∃ n, z.gzipDecompress n data = some (z.rest (z.start data)))) ↔
      (10 ≤ data.length → z.ending (z.given data) ≠ .truncated) := by
  constructor
  · rintro ⟨⟨n, r, h⟩, -⟩ hlength htruncated
    rw [gzipDecompress, if_neg (Nat.not_lt.mpr hlength), loop_of_truncated htruncated] at h
    cases h
  · intro h
    by_cases hlength : data.length < 10
    · refine ⟨⟨0, [], if_pos hlength⟩, fun hcomplete => ?_⟩
      exact absurd (z.ten_le data hcomplete) (Nat.not_le.mpr hlength)
    · have hgiven := h (Nat.not_lt.mp hlength)
      obtain ⟨n, r, hloop, hr⟩ := exists_loop hgiven []
      have hreturns : z.gzipDecompress n data = some r := by
        rw [gzipDecompress, if_neg hlength, hloop]
      obtain ⟨hending, hrest⟩ := z.start_append _ (data.drop (data.length % UInt32.size)) hgiven
      rw [take_append_drop] at hending hrest
      refine ⟨⟨n, r, hreturns⟩, fun hcomplete => ⟨n, ?_⟩⟩
      rw [hreturns, hr (hending.symm.trans hcomplete), hrest, nil_append]
      rfl

/-- A stand-in for zlib: ten bytes of header and eight of payload. -/
def eightBytes : Zlib where
  State := ℕ × List UInt8 × StreamEnd
  start input :=
    if input.length < 18 then (input.length, [], .truncated)
    else (18, (input.take 18).drop 10, .complete)
  inflate
    | (0, rest, .truncated) => (.bufError, [], 0, rest, .truncated)
    | (_ + 1, rest, .truncated) => (.ok, [], 0, rest, .truncated)
    | (n, rest, .complete) => (.streamEnd, rest, n, [], .complete)
    | (n, rest, .broken) => (.dataError, [], n, rest, .broken)
  availIn s := s.1
  rest s := s.2.1
  ending s := s.2.2
  produced {s _ _ _} h := by
    obtain ⟨n, rest, _ | _ | _⟩ := s
    all_goals cases n <;> cases h <;> simp
  returned {s _ _ _} h := by
    obtain ⟨n, rest, _ | _ | _⟩ := s
    all_goals cases n <;> cases h <;> simp
  start_append input more h := by
    by_cases hlength : input.length < 18
    · simp [hlength] at h
    · have hmore : ¬(input ++ more).length < 18 := by simp; omega
      simp only [if_neg hlength, if_neg hmore, take_append_of_le_length (Nat.not_lt.mp hlength),
        and_self]
  ten_le input h := by
    by_contra hlength
    have hlt : input.length < 18 := by omega
    simp [hlt] at h

/-- The header alone is an answer that was cut off. -/
theorem gzipDecompress_cut_off :
    ¬∃ n r, eightBytes.gzipDecompress n [31, 139, 8, 0, 0, 0, 0, 0, 0, 3] = some r := by
  rintro ⟨n, r, h⟩
  have hnone := loop_of_truncated (z := eightBytes)
    (s := eightBytes.given [31, 139, 8, 0, 0, 0, 0, 0, 0, 3]) rfl n []
  cases hnone.symm.trans h

end Zlib

end Dopamine.Client
