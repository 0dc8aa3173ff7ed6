import Dopamine.Bytes.BigEndian

/-!
# `QDataStream`

A stream writes numbers with the highest byte first and a byte array with its length before it. What
cannot be read completely is read as 0, or as an empty array, and uses up what there is.
-/

namespace Qt

open BigEndian (bytes value value_bytes length_bytes)

/-- Read a number of `w` bytes, and what follows. -/
def readNat (w : ℕ) (l : List UInt8) : ℕ × List UInt8 :=
  (if l.length < w then 0 else value (l.take w), l.drop w)

/-- Write a byte array. -/
def writeByteArray (data : List UInt8) : List UInt8 := bytes 4 data.length ++ data

/-- Read a byte array. The largest length stands for a null array. -/
def readByteArray (l : List UInt8) : List UInt8 :=
  let (n, rest) := readNat 4 l
  if n = 0xffffffff ∨ rest.length < n then [] else rest.take n

theorem readNat_bytes {w n : ℕ} (h : n < 256 ^ w) (l : List UInt8) :
    readNat w (bytes w n ++ l) = (n, l) := by
  have hlength : ¬(bytes w n ++ l).length < w := by
    rw [List.length_append, length_bytes]
    omega
  rw [readNat, if_neg hlength, List.take_left' (length_bytes w n),
    List.drop_left' (length_bytes w n),
    value_bytes h]

theorem readByteArray_write {data : List UInt8} (h : data.length < 0xffffffff) :
    readByteArray (writeByteArray data) = data := by
  have hlt : data.length < 256 ^ 4 := h.trans (by decide)
  have hread : ¬(data.length = 0xffffffff ∨ data.length < data.length) := by omega
  rw [readByteArray, writeByteArray, readNat_bytes hlt]
  show (if data.length = 0xffffffff ∨ data.length < data.length then [] else data.take data.length) = _
  rw [if_neg hread, List.take_length]

end Qt
