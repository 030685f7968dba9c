import SegmentOffload.Json.Value

/-!
Reading JSON.

A text is one value with blanks around its parts, where a blank is a space, a tabulator, a line feed
or a carriage return.  Texts hold no unescaped control character below the space.  The recursion of
values in values is bounded by fuel; twice the length of the input is more than any input needs,
because every level and every separator takes a character.
-/

namespace SegmentOffload.JsonValue

def isSpace (character : Char) : Bool :=
  character == ' ' || character == '\t' || character == '\n' || character == '\r'

def skipSpace (characters : List Char) : List Char :=
  characters.dropWhile isSpace

/-! ### Texts -/

def hexValue? (character : Char) : Option Nat :=
  if '0' ≤ character ∧ character ≤ '9' then some (character.toNat - 48)
  else if 'a' ≤ character ∧ character ≤ 'f' then some (character.toNat - 87)
  else if 'A' ≤ character ∧ character ≤ 'F' then some (character.toNat - 55)
  else none

def hexCode? (first second third fourth : Char) : Option Nat := do
  let first ← hexValue? first
  let second ← hexValue? second
  let third ← hexValue? third
  let fourth ← hexValue? fourth
  return ((first * 16 + second) * 16 + third) * 16 + fourth

def shortEscape? : Char → Option Char
  | '"' => some '"'
  | '\\' => some '\\'
  | '/' => some '/'
  | 'b' => some (Char.ofNat 8)
  | 'f' => some (Char.ofNat 12)
  | 'n' => some '\n'
  | 'r' => some '\r'
  | 't' => some '\t'
  | _ => none

def isHighHalf (code : Nat) : Bool := 0xD800 ≤ code && code < 0xDC00

def isLowHalf (code : Nat) : Bool := 0xDC00 ≤ code && code < 0xE000

/-- Put a code in front of a text, joining the two halves of a pair. -/
def consCode (code : Nat) (text : JsonText) : JsonText :=
  if isHighHalf code then
    match text with
    | .half low :: rest =>
      if isLowHalf low then
        .character (Char.ofNat (0x10000 + (code - 0xD800) * 0x400 + (low - 0xDC00))) :: rest
      else .half code :: text
    | _ => .half code :: text
  else if isLowHalf code then .half code :: text
  else .character (Char.ofNat code) :: text

def takeUnits : List Char → Option (JsonText × List Char)
  | [] => none
  | '"' :: rest => some ([], rest)
  | '\\' :: 'u' :: first :: second :: third :: fourth :: rest => do
    let code ← hexCode? first second third fourth
    let (units, left) ← takeUnits rest
    return (consCode code units, left)
  | '\\' :: letter :: rest => do
    let character ← shortEscape? letter
    let (units, left) ← takeUnits rest
    return (.character character :: units, left)
  | character :: rest =>
    if character = '\\' ∨ character.toNat < 0x20 then none
    else do
      let (units, left) ← takeUnits rest
      return (.character character :: units, left)

/-! ### Numbers -/

def isDigit (character : Char) : Bool :=
  '0' ≤ character && character ≤ '9'

def spanDigits (characters : List Char) : List Char × List Char :=
  characters.span isDigit

def takeDigits (characters : List Char) : Option (List Char × List Char) :=
  match spanDigits characters with
  | ([], _) => none
  | digits => some digits

def digitsValue (digits : List Char) : Nat :=
  digits.foldl (fun value digit => value * 10 + (digit.toNat - 48)) 0

/-- Read the part of a number before the point: a zero, or digits that do not begin with one. -/
def takeWhole : List Char → Option (List Char × List Char)
  | '0' :: rest => some (['0'], rest)
  | characters => takeDigits characters

def takeFraction : List Char → Option (List Char × List Char)
  | '.' :: rest => do
    let (digits, left) ← takeDigits rest
    return ('.' :: digits, left)
  | characters => some ([], characters)

def takeExponent : List Char → Option (List Char × List Char)
  | letter :: rest =>
    if letter = 'e' ∨ letter = 'E' then
      match rest with
      | sign :: more =>
        if sign = '+' ∨ sign = '-' then do
          let (digits, left) ← takeDigits more
          return (letter :: sign :: digits, left)
        else do
          let (digits, left) ← takeDigits rest
          return (letter :: digits, left)
      | [] => none
    else some ([], letter :: rest)
  | [] => some ([], [])

def takeNumber (characters : List Char) : Option (JsonValue × List Char) := do
  let (sign, unsigned) :=
    match characters with
    | '-' :: rest => (['-'], rest)
    | _ => ([], characters)
  let (whole, rest) ← takeWhole unsigned
  let (fraction, rest) ← takeFraction rest
  let (exponent, rest) ← takeExponent rest
  if sign.isEmpty && fraction.isEmpty && exponent.isEmpty then
    return (.natural (digitsValue whole), rest)
  else return (.number (sign ++ whole ++ fraction ++ exponent), rest)

/-! ### Values -/

mutual

def takeValue : (fuel : Nat) → List Char → Option (JsonValue × List Char)
  | 0, _ => none
  | fuel + 1, characters =>
    match skipSpace characters with
    | 'n' :: 'u' :: 'l' :: 'l' :: rest => some (.null, rest)
    | 't' :: 'r' :: 'u' :: 'e' :: rest => some (.boolean true, rest)
    | 'f' :: 'a' :: 'l' :: 's' :: 'e' :: rest => some (.boolean false, rest)
    | '"' :: rest => do
      let (units, left) ← takeUnits rest
      return (.text units, left)
    | '[' :: rest =>
      match skipSpace rest with
      | ']' :: left => some (.list [], left)
      | more => do
        let (items, left) ← takeItems fuel more
        return (.list items, left)
    | '{' :: rest =>
      match skipSpace rest with
      | '}' :: left => some (.object [], left)
      | more => do
        let (members, left) ← takeMembers fuel more
        return (.object members, left)
    | more => takeNumber more

/-- Read the items of a list that has some, and its closing bracket. -/
def takeItems : (fuel : Nat) → List Char → Option (List JsonValue × List Char)
  | 0, _ => none
  | fuel + 1, characters => do
    let (item, rest) ← takeValue fuel characters
    match skipSpace rest with
    | ']' :: left => return ([item], left)
    | ',' :: more => do
      let (items, left) ← takeItems fuel more
      return (item :: items, left)
    | _ => none

/-- Read the members of an object that has some, and its closing brace. -/
def takeMembers : (fuel : Nat) → List Char → Option (List JsonMember × List Char)
  | 0, _ => none
  | fuel + 1, characters =>
    match skipSpace characters with
    | '"' :: rest => do
      let (key, rest) ← takeUnits rest
      match skipSpace rest with
      | ':' :: rest => do
        let (value, rest) ← takeValue fuel rest
        match skipSpace rest with
        | '}' :: left => return ([(key, value)], left)
        | ',' :: more => do
          let (members, left) ← takeMembers fuel more
          return ((key, value) :: members, left)
        | _ => none
      | _ => none
    | _ => none

end

def parse (text : String) : Option JsonValue := do
  let characters := text.toList
  let (value, rest) ← takeValue (2 * characters.length + 2) characters
  if (skipSpace rest).isEmpty then return value else none

end SegmentOffload.JsonValue
