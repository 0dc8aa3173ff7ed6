import Dopamine.Client.QrCodes
import Dopamine.Framing.Lines

/-!
# Scanning the series of two payloads

The codes of two payloads are scanned in any order and any number of times. All that is put together
should be one of the payloads, and a payload should be put together when all its codes were scanned
one after the other.

The scanner tells series apart by their number of chunks. So this is right exactly if the numbers of
the payloads differ or each has one chunk only (`series_intact_iff`).
-/

namespace Dopamine.Client

open List Option Maps

/-- A payload that can be shown as a series. -/
structure QrPayload where
  bytes : List UInt8
  nonempty : bytes ≠ []
  small : chunksCount bytes ≤ 255

namespace QrPayload

/-- The number of chunks. -/
def count (p : QrPayload) : ℕ := chunksCount p.bytes

def chunk (p : QrPayload) (i : ℕ) : List UInt8 := chunkData p.bytes i

variable (p : QrPayload)

theorem count_pos : 0 < p.count := by
  have hlength := length_pos_iff.mpr p.nonempty
  rw [count, chunksCount, qrChunkSize]
  omega

/-- The chunks, put together, are the payload. -/
theorem flatMap_chunk : (range p.count).flatMap p.chunk = p.bytes := by
  refine (Framing.flatMap_take_drop p.bytes qrChunkSize p.count).trans (take_of_length_le ?_)
  rw [count, chunksCount, qrChunkSize]
  omega

/-- Other payloads of the same number have another chunk. -/
theorem exists_chunk_ne {p q : QrPayload} (hne : p ≠ q) (hcount : p.count = q.count) :
    ∃ j < p.count, p.chunk j ≠ q.chunk j := by
  by_contra hall
  have hsame : ∀ j < p.count, p.chunk j = q.chunk j := fun j hj =>
    not_not.mp fun h => hall ⟨j, hj, h⟩
  have hbytes : p.bytes = q.bytes := by
    rw [← p.flatMap_chunk, ← q.flatMap_chunk, ← hcount]
    exact flatMap_congr fun i hi => hsame i (mem_range.mp hi)
  obtain ⟨bytes, _, _⟩ := p
  obtain ⟨bytes', _, _⟩ := q
  obtain rfl : bytes = bytes' := hbytes
  exact hne rfl

end QrPayload

/-- A code of a payload is scanned. -/
structure QrScan where
  payload : QrPayload
  index : ℕ
  valid : index < payload.count
  result : Extraction

namespace QrDecoder

variable (s : QrDecoder)

def scan (e : QrScan) : QrDecoder := (s.decodeQrCode (chunkCode e.payload.bytes e.index) e.result).1

/-- The scanner after some scans. -/
def run (scans : List QrScan) : QrDecoder := Trace.run scan s scans

/-! ## One scan -/

/-- The chunks that are kept for a series with that number. -/
def kept (count : ℕ) : SortedMap ℕ (List UInt8) :=
  if s.isQrCodeProcessed ∧ s.totalQrCodeChunksCount = count then s.qrCodeChunks else .empty

theorem ensureSession_processed : s.ensureSession.isQrCodeProcessed = true := by
  rw [ensureSession]
  split_ifs with h
  · rfl
  · simpa using h

theorem ensureSession_assembled : s.ensureSession.assembled = s.assembled := by
  rw [ensureSession]
  split_ifs <;> rfl

/-- A scan reads the chunk that was written. -/
theorem scan_eq (e : QrScan) : s.scan e = (s.ensureSession.store e.payload.count
    e.index (e.payload.chunk e.index) e.result.fromQr).1 := by
  have hcount : e.payload.count < 256 ^ 1 := Nat.lt_succ_of_le e.payload.small
  have hindex : e.index < 256 ^ 1 := e.valid.trans hcount
  have hlength : (e.payload.chunk e.index).length < 0xffffffff :=
    (length_take_le ..).trans_lt (by decide)
  have hbytes : chunkBytes e.payload.bytes e.index = BigEndian.bytes 2 qrMagicCode ++
      (BigEndian.bytes 1 e.payload.count ++
        (BigEndian.bytes 1 e.index ++ Qt.writeByteArray (e.payload.chunk e.index))) := rfl
  rw [scan, decodeQrCode, parseQrCodeChunk, ensureSession_processed, chunkCode,
    String.toList_ofList, Base64.decode_encode, hbytes, Qt.readNat_bytes (by decide)]
  simp only [Bool.not_true, Bool.false_eq_true, if_false, if_true, Qt.readNat_bytes hcount,
    Qt.readNat_bytes hindex, Qt.readByteArray_write hlength]

theorem store_kept (count : ℕ) :
    (if s.ensureSession.totalQrCodeChunksCount ≠ count then SortedMap.empty
      else s.ensureSession.qrCodeChunks) = s.kept count := by
  rw [kept, ensureSession]
  cases s.isQrCodeProcessed with
  | true =>
    simp only [Bool.not_true, Bool.false_eq_true, if_false, true_and]
    by_cases htotal : s.totalQrCodeChunksCount = count
    · rw [if_neg (not_not.mpr htotal), if_pos htotal]
    · rw [if_pos htotal, if_neg htotal]
  | false => simp [clear]

/-- The chunks that are kept, with the one that is scanned. -/
abbrev added (e : QrScan) : SortedMap ℕ (List UInt8) :=
  (s.kept e.payload.count).set e.index (some (e.payload.chunk e.index))

/-- The chunk that was scanned is not the last one. -/
theorem scan_of_open {s : QrDecoder} {e : QrScan}
    (h : (s.added e).members.length ≠ e.payload.count) :
    (s.scan e).isQrCodeProcessed = true ∧ (s.scan e).totalQrCodeChunksCount = e.payload.count ∧
      (s.scan e).qrCodeChunks = s.added e ∧ (s.scan e).assembled = s.assembled := by
  rw [scan_eq]
  simp only [store, s.store_kept, if_neg h, true_and]
  exact ⟨s.ensureSession_processed, s.ensureSession_assembled⟩

/-- With the chunk that was scanned there are all of them. -/
theorem scan_of_full {s : QrDecoder} {e : QrScan}
    (h : (s.added e).members.length = e.payload.count) :
    ((s.scan e).isQrCodeProcessed = true → (s.scan e).qrCodeChunks = .empty) ∧
      (s.scan e).assembled = s.assembled ++ [joined (s.added e) e.payload.count] := by
  rw [scan_eq]
  simp only [store, s.store_kept, if_pos h]
  cases e.result.fromQr with
  | true =>
    exact ⟨fun hfalse => absurd hfalse Bool.false_ne_true,
      congrArg (· ++ _) s.ensureSession_assembled⟩
  | false => exact ⟨fun _ => rfl, congrArg (· ++ _) s.ensureSession_assembled⟩

/-! ## Payloads that are told apart -/

/-- The chunks are some of the payload. -/
def SomeOf (chunks : SortedMap ℕ (List UInt8)) (x : QrPayload) : Prop :=
  ∀ i d, chunks.value i = some d → i < x.count ∧ d = x.chunk i

variable {e : QrScan} {chunks : SortedMap ℕ (List UInt8)} {x : QrPayload} {i l j : ℕ}
  {scans segment : List QrScan}

theorem SomeOf.set (h : SomeOf chunks x) (hi : i < x.count) :
    SomeOf (chunks.set i (some (x.chunk i))) x := by
  intro j d hd
  rw [SortedMap.value_set] at hd
  split_ifs at hd with hj
  · subst hj
    exact ⟨hi, (some.inj hd).symm⟩
  · exact h j d hd

theorem SomeOf.length_eq_iff (h : SomeOf chunks x) :
    chunks.members.length = x.count ↔ ∀ i < x.count, (chunks.value i).isSome = true := by
  refine SortedMap.length_eq_iff_forall_lt fun i hi => ?_
  obtain ⟨d, hd⟩ := isSome_iff_exists.mp hi
  exact (h i d hd).1

/-- All chunks of a payload, put together, are the payload. -/
theorem SomeOf.joined_eq (h : SomeOf chunks x) (hfull : chunks.members.length = x.count) :
    joined chunks x.count = x.bytes := by
  rw [← x.flatMap_chunk]
  refine flatMap_congr fun i hi => ?_
  obtain ⟨d, hd⟩ := isSome_iff_exists.mp
    (h.length_eq_iff.mp hfull i (mem_range.mp hi))
  rw [hd, (h i d hd).2]
  rfl

/-- The scanner can tell the payloads apart. -/
def ToldApart (p q : QrPayload) : Prop := p = q ∨ p.count ≠ q.count ∨ p.count = 1

/-- In a session there are no chunks, or some of a payload with more than one. -/
def Collects (p q : QrPayload) (s : QrDecoder) : Prop :=
  s.isQrCodeProcessed = true → s.qrCodeChunks = .empty ∨
    ∃ x, (x = p ∨ x = q) ∧ 1 < x.count ∧ s.totalQrCodeChunksCount = x.count ∧
      SomeOf s.qrCodeChunks x ∧ s.qrCodeChunks.members.length ≠ x.count

variable {p q : QrPayload} {s : QrDecoder}

/-- The payload that a session collects is the one that is scanned. -/
theorem ToldApart.eq (htold : ToldApart p q) {y : QrPayload} (hx : x = p ∨ x = q)
    (hy : y = p ∨ y = q) (hmany : 1 < y.count) (hcount : y.count = x.count) : y = x := by
  have hpq : x ≠ y → p.count = q.count := by
    intro hne
    rcases hx with rfl | rfl <;> rcases hy with rfl | rfl
    · exact absurd rfl hne
    · exact hcount.symm
    · exact hcount
    · exact absurd rfl hne
  by_contra hne
  rcases htold with rfl | hcounts | hone
  · exact hne ((or_self_iff.mp hy).trans (or_self_iff.mp hx).symm)
  · exact hcounts (hpq (Ne.symm hne))
  · have hcountP : y.count = p.count := by
      rcases hy with rfl | rfl
      · rfl
      · exact (hpq (Ne.symm hne)).symm
    omega

theorem run_concat (s : QrDecoder) (scans : List QrScan) (e : QrScan) :
    s.run (scans ++ [e]) = (s.run scans).scan e :=
  Trace.run_concat s scans e

theorem run_singleton (s : QrDecoder) (e : QrScan) : s.run [e] = s.scan e := rfl

theorem run_append (s : QrDecoder) (before segment : List QrScan) :
    s.run (before ++ segment) = (s.run before).run segment :=
  foldl_append

section

variable (htold : ToldApart p q) (h : Collects p q s)
include htold h

/-- The chunks that are kept are of the payload that is scanned. -/
theorem Collects.someOf_kept (hx : x = p ∨ x = q) : SomeOf (s.kept x.count) x := by
  have hempty : SomeOf .empty x := fun i d hd => absurd hd (by simp)
  rw [QrDecoder.kept]
  split_ifs with hkeep
  · rcases h hkeep.1 with hnone | ⟨y, hy, hmany, htotal, hsome, -⟩
    · exact hnone ▸ hempty
    · exact htold.eq hx hy hmany (htotal.symm.trans hkeep.2) ▸ hsome
  · exact hempty

/-- A scan puts the payload together, or it adds a chunk of it. -/
theorem scan_of_told
    (he : e.payload = p ∨ e.payload = q) :
    Collects p q (s.scan e) ∧ ((s.scan e).assembled = s.assembled ++ [e.payload.bytes] ∨
      (s.scan e).isQrCodeProcessed = true ∧ (s.scan e).totalQrCodeChunksCount = e.payload.count ∧
      (s.scan e).qrCodeChunks = s.added e ∧ (s.scan e).assembled = s.assembled) := by
  have hsome := (h.someOf_kept htold he).set e.valid
  by_cases hfull : (s.added e).members.length = e.payload.count
  · obtain ⟨hchunks, hassembled⟩ := scan_of_full hfull
    exact ⟨fun hprocessed => .inl (hchunks hprocessed),
      .inl (hassembled.trans (by rw [hsome.joined_eq hfull]))⟩
  · obtain ⟨hprocessed, htotal, hchunks, hassembled⟩ := scan_of_open hfull
    have hmany : 1 < e.payload.count := by
      by_contra hone
      have hpos := e.payload.count_pos
      refine hfull (hsome.length_eq_iff.mpr fun i hi => ?_)
      obtain rfl : i = e.index := by
        have := e.valid
        omega
      rw [SortedMap.value_set_self]
      rfl
    exact ⟨fun _ => .inr ⟨e.payload, he, hmany, htotal, hchunks ▸ hsome, hchunks ▸ hfull⟩,
      .inr ⟨hprocessed, htotal, hchunks, hassembled⟩⟩

theorem Collects.run
    (hscans : ∀ e ∈ scans, e.payload = p ∨ e.payload = q) : Collects p q (s.run scans) :=
  @Trace.run_invariant_of_mem _ _ scan (Collects p q) s scans
    (fun e => e.payload = p ∨ e.payload = q) (fun _ _ he h => (scan_of_told htold h he).1) h hscans

/-- All that is put together is one of the payloads. -/
theorem assembled_run
    (hassembled : ∀ d ∈ s.assembled, d = p.bytes ∨ d = q.bytes)
    (hscans : ∀ e ∈ scans, e.payload = p ∨ e.payload = q) :
    ∀ d ∈ (s.run scans).assembled, d = p.bytes ∨ d = q.bytes := by
  induction scans using reverseRecOn with
  | nil => exact hassembled
  | append_singleton scans e ih =>
    have hbefore : ∀ e ∈ scans, e.payload = p ∨ e.payload = q := fun e' he' =>
      hscans e' (mem_append_left _ he')
    have he : e.payload = p ∨ e.payload = q :=
      hscans e (mem_append_right _ mem_cons_self)
    intro d hd
    rw [run_concat] at hd
    obtain ⟨-, hnext | ⟨-, -, -, hnext⟩⟩ := scan_of_told htold (h.run htold hbefore) he
    · rw [hnext, mem_append, mem_singleton] at hd
      rcases hd with hd | rfl
      · exact ih hbefore d hd
      · exact he.imp (congrArg QrPayload.bytes) (congrArg QrPayload.bytes)
    · exact ih hbefore d (hnext ▸ hd)

/-- Scans of one payload put it together, or all of them are among the chunks. -/
theorem run_segment (hx : x = p ∨ x = q)
    (hsegment : ∀ e ∈ segment, e.payload = x) :
    ∃ new, (s.run segment).assembled = s.assembled ++ new ∧ (x.bytes ∈ new ∨ ∀ e ∈ segment,
      (s.run segment).isQrCodeProcessed = true ∧
      (s.run segment).totalQrCodeChunksCount = x.count ∧
      ((s.run segment).qrCodeChunks.value e.index).isSome = true) := by
  induction segment using reverseRecOn with
  | nil => exact ⟨[], (append_nil _).symm, .inr fun e he => nomatch he⟩
  | append_singleton segment e ih =>
    have hbefore : ∀ e ∈ segment, e.payload = x := fun e' he' =>
      hsegment e' (mem_append_left _ he')
    obtain rfl : e.payload = x := hsegment e (mem_append_right _ mem_cons_self)
    have hcollects : Collects p q (s.run segment) :=
      h.run htold fun e' he' => hbefore e' he' ▸ hx
    obtain ⟨new, hnew, hdone⟩ := ih hbefore
    rw [run_concat]
    obtain ⟨-, hnext | ⟨hprocessed, htotal, hchunks, hnext⟩⟩ := scan_of_told htold hcollects hx
    · refine ⟨new ++ [e.payload.bytes], by rw [hnext, hnew, append_assoc], .inl ?_⟩
      exact mem_append_right _ mem_cons_self
    · refine ⟨new, hnext.trans hnew, hdone.imp_right fun hall e' he' => ?_⟩
      refine ⟨hprocessed, htotal, ?_⟩
      rw [hchunks, SortedMap.value_set]
      split_ifs with hindex
      · rfl
      · -- Another index was scanned before this scan, so the chunks were kept.
        rcases mem_append.mp he' with he' | he'
        · obtain ⟨hprocessed', htotal', hsome⟩ := hall e' he'
          rw [QrDecoder.kept, if_pos ⟨hprocessed', htotal'⟩]
          exact hsome
        · exact absurd (congrArg QrScan.index (mem_singleton.mp he')) hindex

/-- A payload all chunks of which are scanned one after the other is put together. -/
theorem bytes_mem_of_segment (hx : x = p ∨ x = q)
    (hsegment : ∀ e ∈ segment, e.payload = x) (hall : ∀ i < x.count, ∃ e ∈ segment, e.index = i) :
    ∃ new, (s.run segment).assembled = s.assembled ++ new ∧ x.bytes ∈ new := by
  obtain ⟨new, hnew, hmem | hopen⟩ := run_segment htold h hx hsegment
  · exact ⟨new, hnew, hmem⟩
  · have hcollects : Collects p q (s.run segment) := h.run htold fun e he => hsegment e he ▸ hx
    have hvalue : ∀ i < x.count, ((s.run segment).qrCodeChunks.value i).isSome = true := by
      intro i hi
      obtain ⟨e, he, rfl⟩ := hall i hi
      exact (hopen e he).2.2
    obtain ⟨e, he, -⟩ := hall 0 x.count_pos
    obtain ⟨hprocessed, htotal, -⟩ := hopen e he
    rcases hcollects hprocessed with hempty | ⟨y, -, -, hcount, hsome, hlength⟩
    · have hzero := hvalue 0 x.count_pos
      rw [hempty] at hzero
      cases hzero
    · refine absurd (hsome.length_eq_iff.mpr ?_) hlength
      rwa [← hcount, htotal]

/-! ## Payloads that are mixed -/

end

/-- The numbers of the chunks are below the number of them. -/
def Below (chunks : SortedMap ℕ (List UInt8)) (n : ℕ) : Prop :=
  ∀ i, (chunks.value i).isSome = true → i < n

theorem below_empty (n : ℕ) : Below .empty n := fun _ hi => absurd hi Bool.false_ne_true

theorem Below.set {n : ℕ} (h : Below chunks n) (hi : i < n) (d : List UInt8) :
    Below (chunks.set i (some d)) n := by
  intro j hj
  rw [SortedMap.value_set] at hj
  split_ifs at hj with hji
  · exact hji ▸ hi
  · exact h j hj

/-- A chunk of the payload that is still missing keeps the session open. -/
theorem kept_scan_of_missing (hl : l < e.payload.count) (hel : e.index ≠ l)
    (hmissing : (s.kept e.payload.count).value l = none)
    (hbelow : Below (s.kept e.payload.count) e.payload.count) :
    (s.scan e).kept e.payload.count = s.added e ∧ (s.scan e).assembled = s.assembled := by
  obtain ⟨hprocessed, htotal, hnext, hassembled⟩ := scan_of_open (s := s) (e := e) fun hfull => by
    have hsome := (SortedMap.length_eq_iff_forall_lt (hbelow.set e.valid _)).mp hfull l hl
    rw [SortedMap.value_set_of_ne _ _ (Ne.symm hel), hmissing] at hsome
    cases hsome
  refine ⟨?_, hassembled⟩
  rw [QrDecoder.kept, if_pos ⟨hprocessed, htotal⟩, hnext]

/-- Some chunks of a payload are scanned while one of them is missing. -/
theorem kept_run_of_missing (hl : l < x.count)
    (hscans : ∀ e ∈ scans, e.payload = x ∧ e.index ≠ l)
    (hmissing : (s.kept x.count).value l = none) (hbelow : Below (s.kept x.count) x.count) :
    Below ((s.run scans).kept x.count) x.count ∧
      (∀ i, ((s.run scans).kept x.count).value i =
        if i ∈ scans.map QrScan.index then some (x.chunk i) else (s.kept x.count).value i) ∧
      (s.run scans).assembled = s.assembled := by
  induction scans using reverseRecOn with
  | nil => exact ⟨hbelow, fun i => (if_neg not_mem_nil).symm, rfl⟩
  | append_singleton scans e ih =>
    obtain ⟨hrun, hvalue, hassembled⟩ := ih fun e' he' => hscans e' (mem_append_left _ he')
    obtain ⟨rfl, hel⟩ := hscans e (mem_append_right _ mem_cons_self)
    have hl' : l ∉ scans.map QrScan.index := by
      intro hmem
      obtain ⟨e', he', hindex⟩ := mem_map.mp hmem
      exact (hscans e' (mem_append_left _ he')).2 hindex
    obtain ⟨hkept, hnext⟩ := kept_scan_of_missing (s := s.run scans) hl hel
      (by rw [hvalue, if_neg hl', hmissing]) hrun
    rw [run_concat]
    refine ⟨hkept ▸ hrun.set e.valid _, fun i => ?_, hnext.trans hassembled⟩
    rw [hkept, SortedMap.value_set, hvalue]
    simp only [map_append, map_cons, map_nil, mem_append, mem_singleton]
    by_cases hie : i = e.index
    · rw [if_pos hie, if_pos (.inr hie), hie]
    · rw [if_neg hie]
      simp only [hie, or_false]

/-- Chunks that differ in one place only are not put together to the same bytes. -/
theorem flatMap_ne {f g : ℕ → List UInt8} {n : ℕ} (hj : j < n) (hne : f j ≠ g j)
    (hsame : ∀ i, i ≠ j → f i = g i) : (range n).flatMap f ≠ (range n).flatMap g := by
  intro heq
  obtain ⟨front, back, hrange⟩ := append_of_mem (mem_range.mpr hj)
  have hnodup : (front ++ j :: back).Nodup := hrange ▸ nodup_range
  obtain ⟨hfront, hback⟩ : j ∉ front ∧ j ∉ back := by
    rw [nodup_middle, nodup_cons, mem_append, not_or] at hnodup
    exact hnodup.1
  have hmap : ∀ {l : List ℕ}, j ∉ l → l.flatMap f = l.flatMap g := fun hl =>
    flatMap_congr fun i hi => hsame i fun hij => hl (hij ▸ hi)
  rw [hrange, flatMap_append, flatMap_append, flatMap_cons, flatMap_cons,
    hmap hfront, hmap hback] at heq
  exact hne (append_cancel_right (append_cancel_left heq))

/-- The series of two payloads are scanned right. -/
def SeriesIntact (p q : QrPayload) : Prop :=
  ∀ (s : QrDecoder) (scans : List QrScan), s.qrCodeChunks = .empty → s.assembled = [] →
    (∀ e ∈ scans, e.payload = p ∨ e.payload = q) →
    (∀ d ∈ (s.run scans).assembled, d = p.bytes ∨ d = q.bytes) ∧
    ∀ (before segment : List QrScan) (x : QrPayload), scans = before ++ segment →
      (x = p ∨ x = q) → (∀ e ∈ segment, e.payload = x) →
      (∀ i < x.count, ∃ e ∈ segment, e.index = i) →
      ∃ new, (s.run scans).assembled = (s.run before).assembled ++ new ∧ x.bytes ∈ new

/-- Payloads that are told apart are scanned right. -/
theorem ToldApart.intact (htold : ToldApart p q) : SeriesIntact p q := by
  intro s scans hempty hassembled hscans
  have h : Collects p q s := fun _ => .inl hempty
  refine ⟨assembled_run htold h ?_ hscans, fun before segment x hsplit hx hsegment hall => ?_⟩
  · rw [hassembled]
    exact fun d hd => nomatch hd
  · subst hsplit
    rw [run_append]
    refine bytes_mem_of_segment htold (h.run htold fun e he => ?_) hx hsegment hall
    exact hscans e (mem_append_left _ he)

/-- The scanner before the first scan. -/
def idle : QrDecoder := ⟨false, .empty, 0, 0, []⟩

/-- After a chunk of one payload all others of another one are scanned. The chunk of the first one
is put together with them. -/
theorem assembled_mixed (hcount : p.count = q.count) (hj : j < p.count) (hl : l < q.count)
    (hjl : j ≠ l) (r : Extraction) {middle : List QrScan}
    (hmiddle : ∀ e ∈ middle, e.payload = q ∧ e.index ≠ l ∧ e.index ≠ j)
    (hall : ∀ i < q.count, i ≠ j → i ≠ l → i ∈ middle.map QrScan.index) :
    let mixed := (idle.scan ⟨p, j, hj, r⟩).run (middle ++ [⟨q, l, hl, r⟩])
    mixed.assembled =
        [(range q.count).flatMap fun i => if i = j then p.chunk j else q.chunk i] ∧
      (mixed.isQrCodeProcessed = true → mixed.qrCodeChunks = .empty) := by
  obtain ⟨hkept, hassembled⟩ := kept_scan_of_missing (s := idle) (e := ⟨p, j, hj, r⟩)
    (hl.trans_eq hcount.symm) hjl rfl (below_empty _)
  replace hkept : (idle.scan ⟨p, j, hj, r⟩).kept q.count =
      SortedMap.empty.set j (some (p.chunk j)) := hcount ▸ hkept
  obtain ⟨hbelow, hvalue, hnext⟩ := kept_run_of_missing (s := idle.scan ⟨p, j, hj, r⟩) hl
    (fun e he => ⟨(hmiddle e he).1, (hmiddle e he).2.1⟩)
    (by rw [hkept, SortedMap.value_set_of_ne _ _ (Ne.symm hjl), SortedMap.value_empty])
    (hkept ▸ (below_empty _).set (hj.trans_eq hcount) _)
  have hjmiddle : j ∉ middle.map QrScan.index := by
    intro hmem
    obtain ⟨e, he, hindex⟩ := mem_map.mp hmem
    exact (hmiddle e he).2.2 hindex
  set chunks := (((idle.scan ⟨p, j, hj, r⟩).run middle).kept q.count).set l (some (q.chunk l))
    with hchunks
  have hmixed : ∀ i < q.count,
      chunks.value i = some (if i = j then p.chunk j else q.chunk i) := by
    intro i hi
    rw [hchunks, SortedMap.value_set, hvalue, hkept]
    by_cases hil : i = l
    · rw [if_pos hil, if_neg (hil ▸ Ne.symm hjl), hil]
    · rw [if_neg hil]
      by_cases hij : i = j
      · rw [if_neg (hij ▸ hjmiddle), if_pos hij, hij, SortedMap.value_set_self]
      · rw [if_pos (hall i hi hij hil), if_neg hij]
  have hfull : chunks.members.length = q.count :=
    (SortedMap.length_eq_iff_forall_lt (hbelow.set hl _)).mpr fun i hi =>
      isSome_iff_exists.mpr ⟨_, hmixed i hi⟩
  obtain ⟨hempty, hlast⟩ := scan_of_full (s := (idle.scan ⟨p, j, hj, r⟩).run middle)
    (e := ⟨q, l, hl, r⟩) hfull
  intro mixed
  have hrun : mixed = ((idle.scan ⟨p, j, hj, r⟩).run middle).scan ⟨q, l, hl, r⟩ := run_concat ..
  rw [hrun, hlast, hnext, hassembled]
  refine ⟨congrArg (fun bytes => [bytes]) (flatMap_congr fun i hi => ?_), hempty⟩
  exact congrArg (getD · []) (hmixed i (mem_range.mp hi))

/-- The codes of a payload that is scanned, but for two of them. -/
def codesWithout (x : QrPayload) (j l : ℕ) (r : Extraction) : List QrScan :=
  ((finRange x.count).filter fun i => i.val ≠ l ∧ i.val ≠ j).map
    fun (i : Fin x.count) => ⟨x, i.val, i.isLt, r⟩

theorem mem_codesWithout {r : Extraction} (he : e ∈ codesWithout x j l r) :
    e.payload = x ∧ e.index ≠ l ∧ e.index ≠ j := by
  obtain ⟨i, hi, rfl⟩ := mem_map.mp he
  exact ⟨rfl, of_decide_eq_true (mem_filter.mp hi).2⟩

theorem index_mem_codesWithout (r : Extraction) (hi : i < x.count) (hij : i ≠ j) (hil : i ≠ l) :
    i ∈ (codesWithout x j l r).map QrScan.index := by
  refine mem_map.mpr ⟨⟨x, i, hi, r⟩, mem_map.mpr ⟨⟨i, hi⟩, ?_, rfl⟩, rfl⟩
  exact mem_filter.mpr ⟨mem_finRange _, decide_eq_true ⟨hil, hij⟩⟩

/-- Payloads with the same number of chunks are mixed. -/
theorem not_intact (hne : p ≠ q) (hcount : p.count = q.count) (hmany : 1 < p.count) :
    ¬SeriesIntact p q := by
  intro hintact
  obtain ⟨j, hj, hchunk⟩ := QrPayload.exists_chunk_ne hne hcount
  obtain ⟨l, hl, hjl⟩ : ∃ l < q.count, j ≠ l := by
    rcases eq_or_ne j 0 with rfl | hzero
    · exact ⟨1, hcount ▸ hmany, Nat.zero_ne_one⟩
    · exact ⟨0, q.count_pos, hzero⟩
  have r : Extraction := ⟨false, false⟩
  obtain ⟨segment, hsegment⟩ : ∃ segment : List QrScan, segment =
      codesWithout q j l r ++ [⟨q, l, hl, r⟩] ++ [⟨q, j, hj.trans_eq hcount, r⟩] := ⟨_, rfl⟩
  have hpayload : ∀ e ∈ segment, e.payload = q := by
    intro e he
    rw [hsegment] at he
    rcases mem_append.mp he with he | he
    · rcases mem_append.mp he with he | he
      · exact (mem_codesWithout he).1
      · rw [mem_singleton.mp he]
    · rw [mem_singleton.mp he]
  have hindex : ∀ i < q.count, ∃ e ∈ segment, e.index = i := by
    intro i hi
    rw [hsegment]
    by_cases hij : i = j
    · exact ⟨_, mem_append_right _ mem_cons_self, hij.symm⟩
    · by_cases hil : i = l
      · exact ⟨_, mem_append_left _ (mem_append_right _ mem_cons_self), hil.symm⟩
      · obtain ⟨e, he, hei⟩ := mem_map.mp (index_mem_codesWithout r hi hij hil)
        exact ⟨e, mem_append_left _ (mem_append_left _ he), hei⟩
  obtain ⟨new, hnew, hmem⟩ := (hintact idle ([⟨p, j, hj, r⟩] ++ segment) rfl rfl fun e he =>
    (mem_append.mp he).imp (fun h => by rw [mem_singleton.mp h]) (hpayload e)).2
    [⟨p, j, hj, r⟩] segment q rfl (.inr rfl) hpayload hindex
  -- The other chunks of the second payload end a session that the first payload began.
  obtain ⟨hassembled, hempty⟩ := assembled_mixed hcount hj hl hjl r
    (fun e he => mem_codesWithout he) fun i hi => index_mem_codesWithout r hi
  set mixed := (idle.scan ⟨p, j, hj, r⟩).run (codesWithout q j l r ++ [⟨q, l, hl, r⟩])
  have hkept : mixed.kept q.count = .empty := by
    rw [QrDecoder.kept]
    split_ifs with hkeep
    · exact hempty hkeep.1
    · rfl
  obtain ⟨-, hlast⟩ := kept_scan_of_missing (s := mixed) (e := ⟨q, j, hj.trans_eq hcount, r⟩) hl hjl
    (by rw [hkept, SortedMap.value_empty]) (hkept ▸ below_empty _)
  have hrun : idle.run ([⟨p, j, hj, r⟩] ++ segment) =
      mixed.scan ⟨q, j, hj.trans_eq hcount, r⟩ := by
    rw [run_append, hsegment, run_concat, run_singleton]
  have hfirst : (idle.run [⟨p, j, hj, r⟩]).assembled = [] := by
    rw [run_singleton]
    exact (kept_scan_of_missing (s := idle) (e := ⟨p, j, hj, r⟩) (hl.trans_eq hcount.symm)
      hjl rfl (below_empty _)).2
  rw [hrun, hlast, hassembled, hfirst, nil_append] at hnew
  rw [← hnew, mem_singleton, ← q.flatMap_chunk] at hmem
  exact flatMap_ne (hj.trans_eq hcount) (by rw [if_pos rfl]; exact hchunk.symm)
    (fun i hij => (if_neg hij).symm) hmem

/-- The series of two payloads are scanned right exactly if the payloads are the same, their numbers
of chunks differ, or each has one chunk. -/
theorem series_intact_iff (p q : QrPayload) :
    SeriesIntact p q ↔ p = q ∨ p.count ≠ q.count ∨ p.count = 1 := by
  refine ⟨fun h => ?_, ToldApart.intact⟩
  by_contra hmixed
  obtain ⟨hne, hcount, hone⟩ : p ≠ q ∧ p.count = q.count ∧ p.count ≠ 1 := by
    rwa [not_or, not_or, not_not] at hmixed
  have hmany : 1 < p.count := lt_of_le_of_ne p.count_pos (Ne.symm hone)
  exact not_intact hne hcount hmany h

/-- A payload of one more byte than a chunk has. -/
def twoChunks (b : UInt8) : QrPayload :=
  ⟨replicate 851 b, cons_ne_nil _ _, by rw [chunksCount, length_replicate]; decide⟩

theorem twoChunks_count (b : UInt8) : (twoChunks b).count = 2 := by
  rw [QrPayload.count, chunksCount, twoChunks, length_replicate]
  rfl

theorem twoChunks_chunk_one (b : UInt8) : (twoChunks b).chunk 1 = [b] := by
  rw [QrPayload.chunk, chunkData, twoChunks, drop_replicate, take_replicate]
  rfl

theorem mem_twoChunks_chunk_zero (b : UInt8) : b ∈ (twoChunks b).chunk 0 := by
  rw [QrPayload.chunk, chunkData, twoChunks, drop_replicate, take_replicate]
  exact mem_cons_self

/-- The first chunk of one payload and the second one of another are put together. -/
theorem mixed_series : ∃ d ∈ ((idle.scan
      ⟨twoChunks 0, 0, (twoChunks 0).count_pos, ⟨false, false⟩⟩).run
      [⟨twoChunks 1, 1, (twoChunks_count 1).symm ▸ Nat.one_lt_two, ⟨false, false⟩⟩]).assembled,
    d ≠ (twoChunks 0).bytes ∧ d ≠ (twoChunks 1).bytes := by
  have hone : 1 < (twoChunks 1).count := (twoChunks_count 1).symm ▸ Nat.one_lt_two
  have hassembled := (assembled_mixed ((twoChunks_count 0).trans (twoChunks_count 1).symm)
    (twoChunks 0).count_pos hone Nat.zero_ne_one
    ⟨false, false⟩ (fun e he => absurd he not_mem_nil) fun i hi hzero hone => by
      rw [twoChunks_count] at hi
      omega).1
  rw [nil_append] at hassembled
  rw [hassembled]
  refine ⟨_, mem_cons_self, fun heq => ?_, fun heq => ?_⟩
  · have hmem : (1 : UInt8) ∈ (twoChunks 0).bytes := by
      rw [← heq]
      refine mem_flatMap.mpr ⟨1, mem_range.mpr hone, ?_⟩
      rw [if_neg Nat.one_ne_zero, twoChunks_chunk_one]
      exact mem_cons_self
    cases eq_of_mem_replicate hmem
  · have hmem : (0 : UInt8) ∈ (twoChunks 1).bytes := by
      rw [← heq]
      refine mem_flatMap.mpr ⟨0, mem_range.mpr (twoChunks 1).count_pos, ?_⟩
      rw [if_pos rfl]
      exact mem_twoChunks_chunk_zero 0
    cases eq_of_mem_replicate hmem

end QrDecoder

end Dopamine.Client
