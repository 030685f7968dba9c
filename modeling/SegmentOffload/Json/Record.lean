import SegmentOffload.Json.Value

/-!
Records in JSON.

A record is an object whose members carry the fields' names, in any order and among others, or a
list of the fields in their order that may stop early.  An object that names a field twice is no
record, and neither is a list with more entries than there are fields.
-/

namespace SegmentOffload.JsonValue

abbrev Record := List (String × JsonValue)

/-- The members of an object by name; none when a key is no text. -/
def namedMembers? : List JsonMember → Option Record
  | [] => some []
  | (key, value) :: rest => do
    let name ← key.string?
    let more ← namedMembers? rest
    return (name, value) :: more

def Record.isDistinct : Record → Bool
  | [] => true
  | (name, _) :: rest => !(rest.any fun other => other.1 == name) && Record.isDistinct rest

def record? (names : List String) : JsonValue → Option Record
  | .list items => if items.length ≤ names.length then some (names.zip items) else none
  | .object members => do
    let named ← namedMembers? members
    let known : Record := named.filter fun field => names.contains field.1
    if known.isDistinct then return known else none
  | _ => none

namespace Record

def value? (record : Record) (name : String) : Option JsonValue :=
  (record.find? fun field => field.1 == name).map Prod.snd

def required {α : Type} (record : Record) (name : String) (read : JsonValue → Option α) :
    Option α := do
  let value ← record.value? name
  read value

/-- A field that may be left out; when it is there it has to be readable. -/
def optional {α : Type} (record : Record) (name : String) (read : JsonValue → Option α)
    (absent : α) : Option α :=
  match record.value? name with
  | some value => read value
  | none => some absent

end Record

/-! ### Fields -/

def boolean? : JsonValue → Option Bool
  | .boolean value => some value
  | _ => none

def string? : JsonValue → Option String
  | .text value => value.string?
  | _ => none

def word? : JsonValue → Option UInt64
  | .natural value => if value < UInt64.size then some (UInt64.ofNat value) else none
  | _ => none

def halfWord? : JsonValue → Option UInt32
  | .natural value => if value < UInt32.size then some (UInt32.ofNat value) else none
  | _ => none

def list? {α : Type} (read : JsonValue → Option α) : JsonValue → Option (List α)
  | .list items => items.mapM read
  | _ => none

def ofWord (word : UInt64) : JsonValue :=
  .natural word.toNat

def ofHalfWord (word : UInt32) : JsonValue :=
  .natural word.toNat

end SegmentOffload.JsonValue
