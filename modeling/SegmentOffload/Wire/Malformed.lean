import SegmentOffload.IoError

/-!
Reasons to refuse bytes that should be a message.

`Malformed` is what decoding complete bytes can find wrong; `FrameError` is what reading a message
from a stream can run into, which is either a refusal in words or a failed read.
-/

namespace SegmentOffload.Wire

inductive Malformed where
  /-- A one-byte field is missing. -/
  | missingByte (field : String)
  /-- An eight-byte field has only `got` bytes left. -/
  | shortWord (field : String) (got : Nat)
  | unterminated (field : String)
  | invalidText (field : String)
  | trailingBytes (what : String) (count : Nat)
  | belowMinimum (declared : UInt64)
  | aboveMaximum (declared : UInt64)
  | unknownTag (byte : UInt8)
  /-- Fewer bytes than a length takes. -/
  | noLength (size : Nat)
  | lengthMismatch (declared : UInt64) (available : Nat)
  | tooManySettings (count : UInt64) (remaining : Nat)
  | missingSetting (key : String)
  | badNumber (key text : String)
  | badSwitch (key text : String)
  | payloadMismatch (declared : UInt64) (carried : Nat)
deriving DecidableEq, Repr

def Malformed.message : Malformed → String
  | missingByte field => s!"{field} truncated"
  | shortWord field got => s!"{field} truncated: expected 8 bytes, got {got}"
  | unterminated field => s!"{field} is not NUL-terminated"
  | invalidText field => s!"invalid UTF-8 in {field}"
  | trailingBytes what count => s!"{what} has {count} trailing bytes"
  | belowMinimum declared => s!"declared length {declared} is below the 12-byte minimum"
  | aboveMaximum declared => s!"declared length {declared} exceeds maximum 1073741824"
  | unknownTag byte => s!"unknown message tag {byte}"
  | noLength size => s!"message of {size} bytes has no length prefix"
  | lengthMismatch declared available =>
    s!"declared length {declared} but {available} bytes available"
  | tooManySettings count remaining =>
    s!"settings count {count} exceeds remaining {remaining} bytes"
  | missingSetting key => s!"missing setting {key}"
  | badNumber key text => s!"{key} is not a number: {text}"
  | badSwitch key text => s!"{key} must be 0 or 1, got {text}"
  | payloadMismatch declared carried => s!"CopyData declares {declared} bytes but carries {carried}"

/-- Why no message could be read from a stream. -/
inductive FrameError where
  | io (error : IoError)
  | malformed (reason : String)
deriving DecidableEq, Repr

def FrameError.message : FrameError → String
  | io error => s!"io error: {error.message}"
  | malformed reason => s!"malformed message: {reason}"

end SegmentOffload.Wire
