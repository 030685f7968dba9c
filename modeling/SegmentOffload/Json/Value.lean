import SegmentOffload.Bytes
import SegmentOffload.Decimal

/-!
JSON values, and how they are written.

A value keeps all that its text says except blanks: numbers that are not plain natural numbers stay
as they are spelled, an object keeps its members in order and with repetitions, and a text may hold
an escape that stands for half of a character.  Writing is compact, or one entry a line with two
blanks for each level.
-/

namespace SegmentOffload

/-- One piece of a JSON text: a character, or a lone half of a surrogate pair. -/
inductive JsonUnit where
  | character (value : Char)
  | half (code : Nat)
deriving DecidableEq, Repr

abbrev JsonText := List JsonUnit

namespace JsonText

def ofString (text : String) : JsonText :=
  text.toList.map .character

/-- The characters of a text, unless it holds a half of one. -/
def characters? : JsonText → Option (List Char)
  | [] => some []
  | .character value :: rest => (characters? rest).map (value :: ·)
  | .half _ :: _ => none

def string? (text : JsonText) : Option String :=
  text.characters?.map String.ofList

@[simp] theorem characters?_map_character (characters : List Char) :
    characters? (characters.map .character) = some characters := by
  induction characters with
  | nil => rfl
  | cons first rest ih => simp [characters?, ih]

@[simp] theorem string?_ofString (text : String) : (ofString text).string? = some text := by
  simp [string?, ofString]

end JsonText

inductive JsonValue where
  | null
  | boolean (value : Bool)
  | natural (value : Nat)
  /-- A number that is spelled with a sign, a fraction or an exponent. -/
  | number (spelling : List Char)
  | text (value : JsonText)
  | list (items : List JsonValue)
  | object (members : List (JsonText × JsonValue))
deriving Repr

abbrev JsonMember := JsonText × JsonValue

namespace JsonValue

def ofString (text : String) : JsonValue :=
  .text (.ofString text)

def ofFields (fields : List (String × JsonValue)) : JsonValue :=
  .object (fields.map fun field => (.ofString field.1, field.2))

/-! ### Writing texts -/

def codeEscape (code : Nat) : List Char :=
  let digit (place : Nat) := hexDigit (UInt8.ofNat (code >>> (4 * place) % 16))
  ['\\', 'u', digit 3, digit 2, digit 1, digit 0]

def writtenCharacter (character : Char) : List Char :=
  if character = '"' then ['\\', '"']
  else if character = '\\' then ['\\', '\\']
  else if 0x20 ≤ character.toNat then [character]
  else
    match character.toNat with
    | 8 => ['\\', 'b']
    | 9 => ['\\', 't']
    | 10 => ['\\', 'n']
    | 12 => ['\\', 'f']
    | 13 => ['\\', 'r']
    | code => codeEscape code

def writtenUnit : JsonUnit → List Char
  | .character value => writtenCharacter value
  | .half code => codeEscape code

def writtenText (text : JsonText) : List Char :=
  '"' :: text.flatMap writtenUnit ++ ['"']

/-! ### Writing values -/

inductive Layout where
  | compact
  /-- Each entry on its own line, at this level or deeper. -/
  | indented (level : Nat)
deriving DecidableEq, Repr

namespace Layout

def inner : Layout → Layout
  | compact => compact
  | indented level => indented (level + 1)

def lineBreak : Layout → List Char
  | compact => []
  | indented level => '\n' :: List.replicate (2 * level) ' '

def colon : Layout → List Char
  | compact => [':']
  | indented _ => [':', ' ']

end Layout

mutual

def written (layout : Layout) : JsonValue → List Char
  | .null => ['n', 'u', 'l', 'l']
  | .boolean true => ['t', 'r', 'u', 'e']
  | .boolean false => ['f', 'a', 'l', 's', 'e']
  | .natural value => decimalDigits value
  | .number spelling => spelling
  | .text value => writtenText value
  | .list [] => ['[', ']']
  | .list (first :: rest) =>
    '[' :: layout.inner.lineBreak ++ written layout.inner first ++
      writtenItems layout.inner rest ++ layout.lineBreak ++ [']']
  | .object [] => ['{', '}']
  | .object ((key, value) :: rest) =>
    '{' :: layout.inner.lineBreak ++ writtenText key ++ layout.colon ++
      written layout.inner value ++ writtenMembers layout.inner rest ++ layout.lineBreak ++ ['}']

def writtenItems (layout : Layout) : List JsonValue → List Char
  | [] => []
  | item :: rest =>
    ',' :: layout.lineBreak ++ written layout item ++ writtenItems layout rest

def writtenMembers (layout : Layout) : List (JsonText × JsonValue) → List Char
  | [] => []
  | (key, value) :: rest =>
    ',' :: layout.lineBreak ++ writtenText key ++ layout.colon ++ written layout value ++
      writtenMembers layout rest

end

def compact (value : JsonValue) : String :=
  String.ofList (value.written .compact)

def pretty (value : JsonValue) : String :=
  String.ofList (value.written (.indented 0))

end JsonValue

end SegmentOffload
