/-!
Byte strings as lists, and words as eight bytes.

Every layer that a law speaks about (frames, replies, stored objects, file contents) uses plain
lists, so that concatenation, prefixes and suffixes are the library's own.  A 64-bit word is written
most significant byte first; `bigEndian` and `bigEndianValue` are inverse to each other at any
width, modulo the width.
-/

namespace SegmentOffload

abbrev Bytes := List UInt8

/-- The `width` lowest base-256 digits of a number, most significant first. -/
def bigEndian : (width : Nat) → Nat → Bytes
  | 0, _ => []
  | width + 1, value => bigEndian width (value / 256) ++ [UInt8.ofNat value]

/-- The number whose base-256 digits are the given bytes. -/
def bigEndianValue (bytes : Bytes) : Nat :=
  bytes.foldl (fun value byte => value * 256 + byte.toNat) 0

@[simp] theorem length_bigEndian (width value : Nat) : (bigEndian width value).length = width := by
  induction width generalizing value with
  | zero => rfl
  | succ width ih => simp [bigEndian, ih]

theorem bigEndianValue_append_singleton (bytes : Bytes) (byte : UInt8) :
    bigEndianValue (bytes ++ [byte]) = bigEndianValue bytes * 256 + byte.toNat := by
  simp [bigEndianValue]

theorem bigEndianValue_bigEndian (width value : Nat) :
    bigEndianValue (bigEndian width value) = value % Nat.pow 256 width := by
  induction width generalizing value with
  | zero => simp [bigEndian, bigEndianValue, Nat.mod_one]
  | succ width ih =>
      have wider : Nat.pow 256 (width + 1) = 256 * Nat.pow 256 width := Nat.mul_comm _ _
      rw [bigEndian, bigEndianValue_append_singleton, ih, wider, Nat.mod_mul]
      simp only [UInt8.toNat_ofNat']
      omega

/-- A word as eight bytes, most significant first. -/
def wordBytes (word : UInt64) : Bytes :=
  bigEndian 8 word.toNat

/-- The word written by (at most) eight bytes. -/
def bytesWord (bytes : Bytes) : UInt64 :=
  UInt64.ofNat (bigEndianValue bytes)

@[simp] theorem length_wordBytes (word : UInt64) : (wordBytes word).length = 8 :=
  length_bigEndian 8 word.toNat

@[simp] theorem bytesWord_wordBytes (word : UInt64) : bytesWord (wordBytes word) = word := by
  rw [bytesWord, wordBytes, bigEndianValue_bigEndian]
  apply UInt64.toNat_inj.mp
  have bound := word.toNat_lt
  have range : Nat.pow 256 8 = UInt64.size := rfl
  rw [UInt64.toNat_ofNat', range, UInt64.size]
  omega

def hexDigit (value : UInt8) : Char :=
  if value < 10 then Char.ofNat (48 + value.toNat) else Char.ofNat (87 + value.toNat)

def Bytes.hex (bytes : Bytes) : String :=
  String.ofList (bytes.flatMap fun byte => [hexDigit (byte / 16), hexDigit (byte % 16)])

end SegmentOffload
