import SegmentOffload.Text
import SegmentOffload.Wire.Malformed

/-!
The three kinds of field that messages are made of: a byte, an eight-byte word (most significant
byte first) and a text closed by a zero byte.

Writers return the bytes; how many bytes they will be is counted beforehand, without writing them.
Readers consume from the front of what is left; a field that is refused
before it is delimited leaves the bytes as they were, and a delimited text that is not UTF-8 is
consumed.  `_length_lt` and `_length_eq` say how much a successful reader consumes.
-/

namespace SegmentOffload.Wire

/-! ### Writing -/

/-- A flag is one byte, one when set. -/
def flagByte (flag : Bool) : UInt8 :=
  if flag then 1 else 0

/-- A text is its UTF-8 bytes and a closing zero. -/
def textField (text : String) : Bytes :=
  textBytes text ++ [0]

/-! ### Counting -/

/-- How many bytes a text takes with its closing zero. -/
def textSize (text : String) : Nat :=
  text.utf8ByteSize + 1

/-- How many bytes items take together. -/
def sizeOfAll {α : Type} (size : α → Nat) : List α → Nat
  | [] => 0
  | item :: rest => size item + sizeOfAll size rest

/-! ### Reading -/

/-- A reader of fields: it consumes bytes and may refuse them, leaving some rest either way. -/
def Decoder (α : Type) : Type :=
  Bytes → Except Malformed α × Bytes

namespace Decoder

def run {α : Type} (decoder : Decoder α) (bytes : Bytes) : Except Malformed α × Bytes :=
  decoder bytes

/-- Read one thing, then another that may depend on it. -/
def andThen {α β : Type} (decoder : Decoder α) (next : α → Decoder β) : Decoder β := fun bytes =>
  match decoder bytes with
  | (.ok value, rest) => next value rest
  | (.error malformed, rest) => (.error malformed, rest)

instance : Monad Decoder where
  pure value := fun bytes => (.ok value, bytes)
  bind := andThen

def remaining : Decoder Bytes := fun bytes => (.ok bytes, bytes)

def refuse {α : Type} (malformed : Malformed) : Decoder α := fun bytes => (.error malformed, bytes)

/-- Go on with a value, or refuse for the reason given in its place. -/
def ofExcept {α : Type} : Except Malformed α → Decoder α
  | .ok value => pure value
  | .error malformed => refuse malformed

@[simp] theorem run_pure {α : Type} (value : α) (bytes : Bytes) :
    (pure value : Decoder α).run bytes = (.ok value, bytes) := rfl

@[simp] theorem run_remaining (bytes : Bytes) : remaining.run bytes = (.ok bytes, bytes) := rfl

@[simp] theorem run_refuse {α : Type} (malformed : Malformed) (bytes : Bytes) :
    (refuse malformed : Decoder α).run bytes = (.error malformed, bytes) := rfl

theorem run_bind_of_ok {α β : Type} {decoder : Decoder α} {next : α → Decoder β}
    {bytes rest : Bytes} {value : α} (first : decoder.run bytes = (.ok value, rest)) :
    (decoder >>= next).run bytes = (next value).run rest := by
  simp only [run] at first ⊢
  simp only [bind, andThen, first]

theorem run_bind_of_error {α β : Type} {decoder : Decoder α} {next : α → Decoder β}
    {bytes rest : Bytes} {malformed : Malformed}
    (first : decoder.run bytes = (.error malformed, rest)) :
    (decoder >>= next).run bytes = (.error malformed, rest) := by
  simp only [run] at first ⊢
  simp only [bind, andThen, first]

theorem run_bind_eq_ok_iff {α β : Type} {decoder : Decoder α} {next : α → Decoder β}
    {bytes rest : Bytes} {result : β} :
    (decoder >>= next).run bytes = (.ok result, rest) ↔
      ∃ value middle,
        decoder.run bytes = (.ok value, middle) ∧ (next value).run middle = (.ok result, rest) := by
  cases first : decoder.run bytes with
  | mk outcome middle =>
      cases outcome with
      | ok value =>
          rw [run_bind_of_ok first]
          constructor
          · intro second
            exact ⟨value, middle, rfl, second⟩
          · rintro ⟨other, left, same, second⟩
            cases same
            exact second
      | error malformed =>
          rw [run_bind_of_error first]
          constructor
          · intro impossible
            cases impossible
          · rintro ⟨other, left, impossible, _⟩
            cases impossible

end Decoder

def takeByte (field : String) : Decoder UInt8 := fun bytes =>
  match bytes with
  | [] => (.error (.missingByte field), bytes)
  | byte :: rest => (.ok byte, rest)

def takeWord (field : String) : Decoder UInt64 := fun bytes =>
  if bytes.length < 8 then (.error (.shortWord field bytes.length), bytes)
  else (.ok (bytesWord (bytes.take 8)), bytes.drop 8)

def takeText (field : String) : Decoder String := fun bytes =>
  match bytes.dropWhile (· != 0) with
  | [] => (.error (.unterminated field), bytes)
  | _ :: rest =>
    match bytesText? (bytes.takeWhile (· != 0)) with
    | some text => (.ok text, rest)
    | none => (.error (.invalidText field), rest)

def expectEnd (what : String) : Decoder Unit := fun bytes =>
  match bytes with
  | [] => (.ok (), bytes)
  | _ => (.error (.trailingBytes what bytes.length), bytes)

/-! ### How much a reader consumes -/

theorem takeWord_length_eq {field : String} {bytes rest : Bytes} {word : UInt64}
    (taken : (takeWord field).run bytes = (.ok word, rest)) :
    bytes.length = rest.length + 8 := by
  simp only [Decoder.run, takeWord] at taken
  split at taken
  · cases taken
  · cases taken
    rw [List.length_drop]
    omega

theorem takeText_length_lt {field : String} {bytes rest : Bytes} {text : String}
    (taken : (takeText field).run bytes = (.ok text, rest)) : rest.length < bytes.length := by
  simp only [Decoder.run, takeText] at taken
  split at taken
  · cases taken
  · rename_i byte tail dropped
    have shorter : (bytes.dropWhile (· != 0)).length ≤ bytes.length :=
      (List.dropWhile_sublist _).length_le
    rw [dropped, List.length_cons] at shorter
    split at taken
    · cases taken
      omega
    · cases taken

end SegmentOffload.Wire
