import SegmentOffload.Binary64
import SegmentOffload.LogFilter.Pattern

/-!
Fields that a log directive asks for: a name, and perhaps a value.

A value is taken as the first of these that it spells: a truth value, a whole number without a sign,
a whole number, a number in floating point, a regular expression.
-/

namespace SegmentOffload

inductive FieldValue where
  | truth (value : Bool)
  | floating (value : Binary64)
  | unsigned (value : Nat)
  | signed (value : Int)
  | pattern (text : String)
deriving DecidableEq, Repr

namespace FieldValue

/-- The whole number of 64 bits that a text with a minus sign spells. -/
def parseNegative? (text : String) : Option Int :=
  match text.toList with
  | '-' :: digits =>
    if digits.isEmpty then none
    else
      (extendDecimal (UInt64.size / 2 + 1) 0 digits).toOption.map fun (size : Nat) => -(size : Int)
  | _ => none

def parse? (text : String) : Option FieldValue :=
  if text = "true" then some (truth true)
  else if text = "false" then some (truth false)
  else
    match parseDecimal UInt64.size text, parseNegative? text, Binary64.parse? text with
    | .ok value, _, _ => some (unsigned value)
    | .error _, some value, _ => some (signed value)
    | .error _, none, some value => some (floating value)
    | .error _, none, none => if isPattern text then some (pattern text) else none

def toText : FieldValue → String
  | truth value => if value then "true" else "false"
  | floating value => value.toText
  | unsigned value => decimal value
  | signed value => if value < 0 then "-" ++ decimal value.natAbs else decimal value.natAbs
  | pattern text => text

/-- The place of a value's kind among the kinds; what is no number comes after the numbers that it
could be taken for. -/
def kindPlace : FieldValue → Nat
  | truth _ => 0
  | floating (.number _ _) => 1
  | floating .nan => 2
  | unsigned _ => 3
  | signed _ => 4
  | pattern _ => 5

/-- The order of values: by kind, and within a kind by size or by text. -/
def order (left right : FieldValue) : Ordering :=
  match left, right with
  | truth one, truth other => compare one.toNat other.toNat
  | floating (.number isNegative rank), floating (.number isNegative' rank') =>
    compare (Binary64.place (.number isNegative rank)) (Binary64.place (.number isNegative' rank'))
  | unsigned one, unsigned other => compare one other
  | signed one, signed other => compare one other
  | pattern one, pattern other => compare one other
  | _, _ => compare left.kindPlace right.kindPlace

end FieldValue

structure FieldMatch where
  name : String
  value : Option FieldValue
deriving DecidableEq, Repr

namespace FieldMatch

/-- The field that a text asks for.  What follows a second equals sign means nothing. -/
def parse? (text : String) : Option FieldMatch :=
  match text.splitOn "=" with
  | name :: value :: _ => (FieldValue.parse? value).map fun value => ⟨name, some value⟩
  | _ => some ⟨text, none⟩

def toText (field : FieldMatch) : String :=
  match field.value with
  | some value => field.name ++ "=" ++ value.toText
  | none => field.name

/-- The order of values that may be missing, missing ones first. -/
def valueOrder : Option FieldValue → Option FieldValue → Ordering
  | none, none => .eq
  | none, some _ => .lt
  | some _, none => .gt
  | some one, some other => one.order other

/-- The order of fields: those with a value last, then by name and by value. -/
def order (left right : FieldMatch) : Ordering :=
  (compare left.value.isSome.toNat right.value.isSome.toNat).then
    ((compare left.name right.name).then (valueOrder left.value right.value))

end FieldMatch

end SegmentOffload
