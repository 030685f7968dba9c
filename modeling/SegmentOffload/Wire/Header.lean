import SegmentOffload.Overflow
import SegmentOffload.Wire.Field

/-!
The fixed front of every message.

A message is its total length (a word that counts itself), a tag byte, three flag bytes and a body,
so the shortest message has twelve bytes.  A declared length is accepted from twelve bytes up to one
gibibyte, before anything is read or reserved on its word.
-/

namespace SegmentOffload.Wire

inductive Tag where
  | commandComplete
  | readyForQuery
  | copyData
  | delete
  | list
  | objectMeta
  | put
  | cat
deriving DecidableEq, Repr

namespace Tag

def byte : Tag → UInt8
  | commandComplete => 44
  | readyForQuery => 45
  | copyData => 46
  | delete => 47
  | list => 48
  | objectMeta => 49
  | put => 53
  | cat => 54

def ofByte? : UInt8 → Option Tag
  | 44 => some commandComplete
  | 45 => some readyForQuery
  | 46 => some copyData
  | 47 => some delete
  | 48 => some list
  | 49 => some objectMeta
  | 53 => some put
  | 54 => some cat
  | _ => none

def name : Tag → String
  | commandComplete => "CommandComplete"
  | readyForQuery => "ReadyForQuery"
  | copyData => "CopyData"
  | delete => "Delete"
  | list => "List"
  | objectMeta => "ObjectMeta"
  | put => "Put"
  | cat => "Cat"

@[simp] theorem ofByte?_byte (tag : Tag) : ofByte? tag.byte = some tag := by
  cases tag <;> rfl

theorem byte_of_ofByte? {code : UInt8} {tag : Tag} (known : ofByte? code = some tag) :
    tag.byte = code := by
  unfold ofByte? at known
  split at known <;> cases known <;> rfl

end Tag

/-- The three flag bytes.  A flag is set when its byte is not zero. -/
structure Flags where
  first : UInt8
  second : UInt8
  third : UInt8
deriving DecidableEq, Repr

namespace Flags

def none : Flags := ⟨0, 0, 0⟩

/-- Flags of which only the first two mean anything. -/
def ofPair (first second : Bool) : Flags :=
  ⟨flagByte first, flagByte second, 0⟩

def bytes (flags : Flags) : Bytes :=
  [flags.first, flags.second, flags.third]

def isFirst (flags : Flags) : Bool := flags.first != 0
def isSecond (flags : Flags) : Bool := flags.second != 0
def isThird (flags : Flags) : Bool := flags.third != 0

@[simp] theorem isFirst_ofPair (first second : Bool) : (ofPair first second).isFirst = first := by
  cases first <;> rfl

@[simp] theorem isSecond_ofPair (first second : Bool) :
    (ofPair first second).isSecond = second := by
  cases second <;> rfl

end Flags

/-- Bytes before the body: the length, the tag and the flags. -/
def headerSize : Nat := 12

def maximumSize : Nat := 1 <<< 30

structure Header where
  totalLength : UInt64
  tag : Tag
  flags : Flags
deriving DecidableEq, Repr

namespace Header

/-- The header in front of a body of so many bytes.  No body is so long that the sum is no word. -/
def forBody (tag : Tag) (flags : Flags) (bodySize : Nat) : Header :=
  { totalLength := UInt64.ofNat (headerSize + bodySize), tag, flags }

def bodyLength (header : Header) : Except Overflow UInt64 :=
  subtractWords header.totalLength 12

def bytes (header : Header) : Bytes :=
  wordBytes header.totalLength ++ header.tag.byte :: header.flags.bytes

end Header

/-- Accept a declared total length, or say on which side it is out of bounds. -/
def checkLength (declared : UInt64) : Except Malformed UInt64 :=
  if declared.toNat < headerSize then .error (.belowMinimum declared)
  else if maximumSize < declared.toNat then .error (.aboveMaximum declared)
  else .ok declared

structure Frame where
  header : Header
  body : Bytes
deriving DecidableEq, Repr

namespace Frame

def ofRest (declared : UInt64) : Bytes → Except Malformed Frame
  | code :: first :: second :: third :: body =>
    match Tag.ofByte? code with
    | some tag => .ok ⟨⟨declared, tag, ⟨first, second, third⟩⟩, body⟩
    | none => .error (.unknownTag code)
  | short => .error (.lengthMismatch declared (8 + short.length))

def decode (bytes : Bytes) : Except Malformed Frame :=
  if bytes.length < 8 then .error (.noLength bytes.length)
  else
    match checkLength (bytesWord (bytes.take 8)) with
    | .error malformed => .error malformed
    | .ok declared =>
      if declared.toNat = bytes.length then ofRest declared (bytes.drop 8)
      else .error (.lengthMismatch declared bytes.length)

end Frame

end SegmentOffload.Wire
