import Dopamine.Bytes.Base64
import Dopamine.Maps.SortedMap
import Dopamine.Net.Address
import Dopamine.Qt.DataStream
import Dopamine.Trace.Runs

/-!
# Series of QR codes

A payload that does not fit in one QR code is shown as a series of them
(`generateQrCodeImageSeries` of `client/core/qrCodeUtils.cpp`). Each code has the number of chunks,
the number of its chunk and the bytes of it. The drawing of the codes is left out.

The scanner (`decodeQrCode` and `parseQrCodeChunk` of `client/ui/controllers/importController.cpp`)
collects chunks until it has as many as the last code said. A series is known only by its number of
chunks: a code with another number drops the chunks that are there.

What the extraction of a config says is an input of each scan. On Android a scan after the end of a
session begins another one. On iOS `startDecodingQr` does the same when the reader is opened.
-/

namespace Dopamine.Client

/-! ## The codes of a series -/

def qrMagicCode : ℕ := 1984

/-- `k`, the number of bytes of a chunk. -/
def qrChunkSize : ℕ := 850

variable (data : List UInt8)

/-- The number of chunks of a payload, rounded up. -/
def chunksCount : ℕ := (data.length + (qrChunkSize - 1)) / qrChunkSize

/-- `data.mid(i, k)`. -/
def chunkData (i : ℕ) : List UInt8 :=
  (data.drop (qrChunkSize * i)).take qrChunkSize

/-- The bytes of a code. The number of chunks and the number of the chunk are written as bytes. -/
def chunkBytes (i : ℕ) : List UInt8 :=
  BigEndian.bytes 2 qrMagicCode ++ (BigEndian.bytes 1 (chunksCount data) ++
    (BigEndian.bytes 1 i ++ Qt.writeByteArray (chunkData data i)))

/-- The text of a code. -/
def chunkCode (i : ℕ) : String :=
  String.ofList (Base64.encode (chunkBytes data i))

/-! ## The scanner -/

/-- What `extractConfigFromData` and `extractConfigFromQr` return. -/
structure Extraction where
  fromData : Bool
  fromQr : Bool

/-- The state of the scanner. -/
structure QrDecoder where
  isQrCodeProcessed : Bool
  qrCodeChunks : Maps.SortedMap ℕ (List UInt8)
  totalQrCodeChunksCount : ℕ
  receivedQrCodeChunksCount : ℕ
  /-- The payloads that were put together from chunks, which is not in the source. -/
  assembled : List (List UInt8)

namespace QrDecoder

variable (s : QrDecoder)

/-- The chunks are dropped. -/
def clear : QrDecoder :=
  { s with
    qrCodeChunks := .empty
    totalQrCodeChunksCount := 0
    receivedQrCodeChunksCount := 0 }

/-- The chunks put together in their order. -/
def joined (chunks : Maps.SortedMap ℕ (List UInt8)) (count : ℕ) : List UInt8 :=
  (List.range count).flatMap fun i => (chunks.value i).getD []

/-- A chunk is stored. If it was the last one, the payload is put together. -/
def store (count i : ℕ) (data : List UInt8) (ok : Bool) : QrDecoder × Bool :=
  let chunks := if s.totalQrCodeChunksCount ≠ count then .empty else s.qrCodeChunks
  let chunks := chunks.set i (some data)
  let s :=
    { s with
      qrCodeChunks := chunks
      totalQrCodeChunksCount := count
      receivedQrCodeChunksCount := chunks.members.length }
  if chunks.members.length = count then
    let s := { s with assembled := s.assembled ++ [joined chunks count] }
    if ok then ({ s with isQrCodeProcessed := false }, true) else (s.clear, false)
  else (s, false)

/-- The text of a code that is no chunk. -/
def parseText (code : String) (result : Extraction) : QrDecoder × Bool :=
  let rawText := trimmed code.toList
  let starts (scheme : String) : Bool := scheme.toList.isPrefixOf rawText
  let fetches : Bool := starts "frkn://" || starts "http://" || starts "https://" ||
    (!decide ("://".toList <:+: rawText) && !rawText.contains ' ')
  if (rawText ≠ [] ∧ (result.fromData || fetches)) ∨ result.fromQr then
    ({ s with isQrCodeProcessed := false }, true)
  else (s, false)

def parseQrCodeChunk (code : String) (result : Extraction) : QrDecoder × Bool :=
  if !s.isQrCodeProcessed then (s, false)
  else
    let (magic, rest) := Qt.readNat 2 (Base64.decode code.toList)
    if magic = qrMagicCode then
      let (count, rest) := Qt.readNat 1 rest
      let (i, rest) := Qt.readNat 1 rest
      s.store count i (Qt.readByteArray rest) result.fromQr
    else s.parseText code result

/-- A scan begins a session if there is none. -/
def ensureSession : QrDecoder :=
  if !s.isQrCodeProcessed then { s.clear with isQrCodeProcessed := true } else s

def decodeQrCode (code : String) (result : Extraction) : QrDecoder × Bool :=
  s.ensureSession.parseQrCodeChunk code result

end QrDecoder

end Dopamine.Client
