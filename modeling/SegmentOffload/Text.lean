import SegmentOffload.Bytes

/-!
Text as UTF-8 bytes, and blanks.

`textBytes` and `bytesText?` are inverse to each other where the second is defined: a byte string is
the encoding of at most one text, and every text is read back from its encoding.
-/

namespace SegmentOffload

def textBytes (text : String) : Bytes :=
  text.toByteArray.data.toList

/-- The text that the bytes encode, when they are well-formed UTF-8. -/
def bytesText? (bytes : Bytes) : Option String :=
  String.fromUTF8? ⟨bytes.toArray⟩

@[simp] theorem bytesText?_textBytes (text : String) : bytesText? (textBytes text) = some text := by
  have same : ByteArray.mk (textBytes text).toArray = text.toByteArray := by
    simp only [textBytes, Array.toArray_toList]
  rw [bytesText?, same, String.fromUTF8?, dif_pos text.isValidUTF8]
  rfl

theorem textBytes_of_bytesText? {bytes : Bytes} {text : String}
    (decoded : bytesText? bytes = some text) : textBytes text = bytes := by
  simp only [bytesText?, String.fromUTF8?] at decoded
  split at decoded
  · cases decoded
    rfl
  · cases decoded

@[simp] theorem textBytes_append (left right : String) :
    textBytes (left ++ right) = textBytes left ++ textBytes right := by
  simp [textBytes]

def isBlank (character : Char) : Bool :=
  let code := character.toNat
  (9 ≤ code && code ≤ 13) || code == 0x20 || code == 0x85 || code == 0xA0 || code == 0x1680 ||
    (0x2000 ≤ code && code ≤ 0x200A) || code == 0x2028 || code == 0x2029 || code == 0x202F ||
    code == 0x205F || code == 0x3000

/-- A text without the blanks at its two ends. -/
def trimBlanks (text : String) : String :=
  String.ofList ((text.toList.dropWhile isBlank).reverse.dropWhile isBlank).reverse

/-- Whether the first text is how the second begins, byte for byte. -/
def beginsWith (start text : String) : Bool :=
  (textBytes start).isPrefixOf (textBytes text)

end SegmentOffload
