import SegmentOffload.Text

/-!
Decimal numbers in text.

`decimal` writes a number without leading zeros.  `parseDecimal` reads an unsigned number: an
optional plus sign and at least one digit, leading zeros allowed, below a given limit.  Reading from
the left, the first digit that is none or that carries the value past the limit decides the fault.
-/

namespace SegmentOffload

/-- The decimal digits of a number, most significant first. -/
def decimalDigits (number : Nat) : List Char :=
  if number < 10 then [Nat.digitChar number]
  else decimalDigits (number / 10) ++ [Nat.digitChar (number % 10)]

def decimal (number : Nat) : String :=
  String.ofList (decimalDigits number)

/-- Why a text is not an unsigned decimal number. -/
inductive NumberFault where
  | empty
  | badDigit
  | tooLarge
deriving DecidableEq, Repr

def NumberFault.message : NumberFault → String
  | .empty => "cannot parse integer from empty string"
  | .badDigit => "invalid digit found in string"
  | .tooLarge => "number too large to fit in target type"

def digitValue? (character : Char) : Option Nat :=
  if '0' ≤ character && character ≤ '9' then some (character.toNat - 48) else none

/-- Continue a number with more digits, staying below the limit. -/
def extendDecimal (limit : Nat) : (value : Nat) → List Char → Except NumberFault Nat
  | value, [] => .ok value
  | value, character :: rest =>
    match digitValue? character with
    | none => .error .badDigit
    | some digit =>
      let extended := value * 10 + digit
      if extended < limit then extendDecimal limit extended rest else .error .tooLarge

def parseDecimal (limit : Nat) (text : String) : Except NumberFault Nat :=
  match text.toList with
  | [] => .error .empty
  | ['+'] => .error .badDigit
  | '+' :: digits => extendDecimal limit 0 digits
  | digits => extendDecimal limit 0 digits

def parseWord (text : String) : Except NumberFault UInt64 :=
  (parseDecimal UInt64.size text).map UInt64.ofNat

def parseHalfWord (text : String) : Except NumberFault UInt32 :=
  (parseDecimal UInt32.size text).map UInt32.ofNat

end SegmentOffload
