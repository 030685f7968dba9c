import SegmentOffload.Json.Parse
import SegmentOffload.Toml.Table

/-!
The words of TOML: blanks and comments, texts, keys, numbers, dates and times.

Every reader takes the characters that are left and gives what it read with what is left after it.
-/

namespace SegmentOffload.Toml

open JsonValue (hexValue? isDigit)

/-! ### Blanks, comments and line ends -/

def isTabOrSpace (character : Char) : Bool :=
  character == ' ' || character == '\t'

def skipBlanks (characters : List Char) : List Char :=
  characters.dropWhile isTabOrSpace

/-- Whether a character may stand in a comment or, but for quotes and backslashes, in a text. -/
def isPrintable (character : Char) : Bool :=
  character == '\t' || (0x20 ≤ character.toNat && character.toNat ≤ 0x7E) ||
    0x80 ≤ character.toNat

def takeNewline : List Char → Option (List Char)
  | '\n' :: rest => some rest
  | '\r' :: '\n' :: rest => some rest
  | _ => none

def skipComment : List Char → List Char
  | '#' :: rest => rest.dropWhile isPrintable
  | characters => characters

/-- Read what may follow on a line that is complete, up to the next line. -/
def takeLineEnd (characters : List Char) : Option (List Char) :=
  match skipComment (skipBlanks characters) with
  | [] => some []
  | rest => takeNewline rest

def skipBlankLines : List Char → List Char
  | ' ' :: rest => skipBlankLines rest
  | '\t' :: rest => skipBlankLines rest
  | '\n' :: rest => skipBlankLines rest
  | '\r' :: '\n' :: rest => skipBlankLines rest
  | characters => characters

/-- Skip blanks, line ends and comments, each comment with the end of its line. -/
def skipFiller : (fuel : Nat) → List Char → Option (List Char)
  | 0, _ => none
  | fuel + 1, characters =>
    match skipBlanks characters with
    | '#' :: rest => do skipFiller fuel (← takeNewline (rest.dropWhile isPrintable))
    | '\n' :: rest => skipFiller fuel rest
    | '\r' :: rest => do skipFiller fuel (← takeNewline ('\r' :: rest))
    | rest => some rest

/-! ### Texts -/

/-- The character with a given code, unless the code is a half of a pair or too large. -/
def scalar? (code : Nat) : Option Char :=
  if code < 0xD800 ∨ (0xE000 ≤ code ∧ code < 0x110000) then some (Char.ofNat code) else none

def takeHex : (count : Nat) → (value : Nat) → List Char → Option (Nat × List Char)
  | 0, value, rest => some (value, rest)
  | _ + 1, _, [] => none
  | count + 1, value, digit :: rest => do
    takeHex count (value * 16 + (← hexValue? digit)) rest

def takeEscape : List Char → Option (Char × List Char)
  | 'b' :: rest => some (Char.ofNat 8, rest)
  | 't' :: rest => some ('\t', rest)
  | 'n' :: rest => some ('\n', rest)
  | 'f' :: rest => some (Char.ofNat 12, rest)
  | 'r' :: rest => some ('\r', rest)
  | '"' :: rest => some ('"', rest)
  | '\\' :: rest => some ('\\', rest)
  | 'u' :: digits => do
    let (code, rest) ← takeHex 4 0 digits
    return (← scalar? code, rest)
  | 'U' :: digits => do
    let (code, rest) ← takeHex 8 0 digits
    return (← scalar? code, rest)
  | _ => none

def takeQuoted : (fuel : Nat) → List Char → Option (List Char × List Char)
  | 0, _ => none
  | _ + 1, [] => none
  | _ + 1, '"' :: rest => some ([], rest)
  | fuel + 1, '\\' :: escape => do
    let (character, rest) ← takeEscape escape
    let (more, left) ← takeQuoted fuel rest
    return (character :: more, left)
  | fuel + 1, character :: rest =>
    if isPrintable character then do
      let (more, left) ← takeQuoted fuel rest
      return (character :: more, left)
    else none

/-- Read a text on several lines up to its three closing quotes; two more quotes may precede them.
A backslash at the end of a line joins the lines, dropping all blanks between them. -/
def takeQuotedLines : (fuel : Nat) → List Char → Option (List Char × List Char)
  | 0, _ => none
  | fuel + 1, characters =>
    let more (first : Char) (rest : List Char) : Option (List Char × List Char) := do
      let (later, left) ← takeQuotedLines fuel rest
      return (first :: later, left)
    match characters with
    | '"' :: '"' :: '"' :: '"' :: '"' :: rest => some (['"', '"'], rest)
    | '"' :: '"' :: '"' :: '"' :: rest => some (['"'], rest)
    | '"' :: '"' :: '"' :: rest => some ([], rest)
    | '\n' :: rest => more '\n' rest
    | '\r' :: '\n' :: rest => more '\n' rest
    | '\\' :: escape =>
      match takeNewline (skipBlanks escape) with
      | some rest => takeQuotedLines fuel (skipBlankLines rest)
      | none => do
        let (character, rest) ← takeEscape escape
        more character rest
    | character :: rest => if isPrintable character then more character rest else none
    | [] => none

/-- Read a text without escapes on one line up to its closing quote. -/
def takeLiteral : List Char → Option (List Char × List Char)
  | [] => none
  | '\'' :: rest => some ([], rest)
  | character :: rest =>
    if isPrintable character then do
      let (more, left) ← takeLiteral rest
      return (character :: more, left)
    else none

/-- Read a text without escapes on several lines up to its three closing quotes; two more quotes may
precede them. -/
def takeLiteralLines : List Char → Option (List Char × List Char)
  | '\'' :: '\'' :: '\'' :: '\'' :: '\'' :: rest => some (['\'', '\''], rest)
  | '\'' :: '\'' :: '\'' :: '\'' :: rest => some (['\''], rest)
  | '\'' :: '\'' :: '\'' :: rest => some ([], rest)
  | '\r' :: '\n' :: rest => do
    let (more, left) ← takeLiteralLines rest
    return ('\n' :: more, left)
  | character :: rest =>
    if isPrintable character ∨ character = '\n' then do
      let (more, left) ← takeLiteralLines rest
      return (character :: more, left)
    else none
  | [] => none

def dropNewline (characters : List Char) : List Char :=
  (takeNewline characters).getD characters

/-- Read a text of any of the four forms, when there is one. -/
def takeText (characters : List Char) : Option (String × List Char) := do
  let (text, rest) ←
    match characters with
    | '"' :: '"' :: '"' :: rest => takeQuotedLines (rest.length + 1) (dropNewline rest)
    | '"' :: rest => takeQuoted (rest.length + 1) rest
    | '\'' :: '\'' :: '\'' :: rest => takeLiteralLines (dropNewline rest)
    | '\'' :: rest => takeLiteral rest
    | _ => none
  return (String.ofList text, rest)

/-! ### Keys -/

/-- Whether a character may stand in a key without quotes. -/
def isBare (character : Char) : Bool :=
  ('a' ≤ character && character ≤ 'z') || ('A' ≤ character && character ≤ 'Z') ||
    isDigit character || character == '_' || character == '-'

def takeKeyPart (characters : List Char) : Option (String × List Char) :=
  match characters with
  | '"' :: rest => do
    let (part, left) ← takeQuoted (rest.length + 1) rest
    return (String.ofList part, left)
  | '\'' :: rest => do
    let (part, left) ← takeLiteral rest
    return (String.ofList part, left)
  | _ =>
    match characters.span isBare with
    | ([], _) => none
    | (part, rest) => some (String.ofList part, rest)

/-- Read the parts of a key that dots set apart, with the blanks around them. -/
def takeKeyParts : (fuel : Nat) → List Char → Option (List String × List Char)
  | 0, _ => none
  | fuel + 1, characters => do
    let (part, rest) ← takeKeyPart (skipBlanks characters)
    match skipBlanks rest with
    | '.' :: more => do
      let (parts, left) ← takeKeyParts fuel more
      return (part :: parts, left)
    | left => return ([part], left)

/-- The number of levels, in keys and in values, at which a document is refused. -/
def levelLimit : Nat := 80

/-- A key, as the path to its last part and that part. -/
structure Key where
  path : List String
  name : String

def takeKey (characters : List Char) : Option (Key × List Char) := do
  let (parts, rest) ← takeKeyParts (characters.length + 1) characters
  if parts.length < levelLimit then
    let name ← parts.getLast?
    return (⟨parts.dropLast, name⟩, rest)
  else none

/-! ### Numbers -/

/-- Read digits after the first, dropping underscores, of which each stands between two digits. -/
def takeMoreDigits (isValid : Char → Bool) : List Char → Option (List Char × List Char)
  | [] => some ([], [])
  | '_' :: digit :: rest =>
    if isValid digit then do
      let (digits, left) ← takeMoreDigits isValid rest
      return (digit :: digits, left)
    else none
  | digit :: rest =>
    if digit = '_' then none
    else if isValid digit then do
      let (digits, left) ← takeMoreDigits isValid rest
      return (digit :: digits, left)
    else some ([], digit :: rest)

def takeDigits (isValid : Char → Bool) : List Char → Option (List Char × List Char)
  | digit :: rest =>
    if isValid digit then do
      let (digits, left) ← takeMoreDigits isValid rest
      return (digit :: digits, left)
    else none
  | [] => none

def digitsValue (base : Nat) (digits : List Char) : Nat :=
  digits.foldl (fun value digit => value * base + (hexValue? digit).getD 0) 0

/-- Read a sign, when there is one; the answer says whether it was a minus. -/
def takeSign : List Char → Bool × List Char
  | '+' :: rest => (false, rest)
  | '-' :: rest => (true, rest)
  | characters => (false, characters)

/-- Read the digits of a decimal number: a zero, or digits that do not begin with one. -/
def takeWhole : List Char → Option (List Char × List Char)
  | '0' :: rest => some (['0'], rest)
  | characters => takeDigits isDigit characters

/-- A signed number, when it has 64 bits. -/
def integer? (negative : Bool) (magnitude : Nat) : Option Int :=
  let value : Int := if negative then -magnitude else magnitude
  if Int64.minValue.toInt ≤ value ∧ value ≤ Int64.maxValue.toInt then some value else none

/-- Whether a character is a digit to a base of at most ten. -/
def isDigitBelow (base : Nat) (character : Char) : Bool :=
  isDigit character && character.toNat - 48 < base

def isHexDigit (character : Char) : Bool :=
  (hexValue? character).isSome

/-- Read an integer: decimal, or to a base that is named in front. -/
def takeInteger (characters : List Char) : Option (TomlValue × List Char) := do
  let based (base : Nat) (isValid : Char → Bool) (digits : List Char) :
      Option (TomlValue × List Char) := do
    let (digits, rest) ← takeDigits isValid digits
    return (.integer (← integer? false (digitsValue base digits)), rest)
  match characters with
  | '0' :: 'x' :: digits => based 16 isHexDigit digits
  | '0' :: 'o' :: digits => based 8 (isDigitBelow 8) digits
  | '0' :: 'b' :: digits => based 2 (isDigitBelow 2) digits
  | _ =>
    let (negative, unsigned) := takeSign characters
    let (digits, rest) ← takeWhole unsigned
    return (.integer (← integer? negative (digitsValue 10 digits)), rest)

/-- Read an exponent: its sign, whether it is negative, and its digits. -/
def takeExponent : List Char → Option (Int × List Char)
  | letter :: rest =>
    if letter = 'e' ∨ letter = 'E' then do
      let (negative, unsigned) := takeSign rest
      let (digits, left) ← takeDigits isDigit unsigned
      let magnitude : Int := digitsValue 10 digits
      return (if negative then -magnitude else magnitude, left)
    else none
  | [] => none

/-- Whether the nearest double to a decimal number is beyond all numbers. -/
def exceedsDoubles (significand : Nat) (exponent : Int) : Bool :=
  let first := 1 <<< 1024 - 1 <<< 970
  let size : Int := (decimalDigits significand).length + exponent
  if significand = 0 ∨ size < 300 then false
  else if 320 < size then true
  else if 0 ≤ exponent then first ≤ significand * Nat.pow 10 exponent.toNat
  else first * Nat.pow 10 (-exponent).toNat ≤ significand

def spelling (characters rest : List Char) : String :=
  String.ofList (characters.take (characters.length - rest.length))

/-- Read a number with a fraction or an exponent, or one that is no number or beyond all. -/
def takeFloat (characters : List Char) : Option (TomlValue × List Char) := do
  let (negative, unsigned) := takeSign characters
  match unsigned with
  | 'i' :: 'n' :: 'f' :: rest => return (.float (spelling characters rest), rest)
  | 'n' :: 'a' :: 'n' :: rest => return (.float (spelling characters rest), rest)
  | _ =>
    let (whole, rest) ← takeWhole unsigned
    let (fraction, exponent, rest) ←
      match takeExponent rest with
      | some (exponent, rest) => some ([], exponent, rest)
      | none =>
        match rest with
        | '.' :: more => do
          let (fraction, rest) ← takeDigits isDigit more
          match takeExponent rest with
          | some (exponent, rest) => some (fraction, exponent, rest)
          | none => some (fraction, 0, rest)
        | _ => none
    if !negative && exceedsDoubles (digitsValue 10 (whole ++ fraction)) (exponent - fraction.length)
    then none
    else return (.float (spelling characters rest), rest)

/-! ### Dates and times -/

def takeFixed (count least greatest : Nat) (characters : List Char) :
    Option (Nat × List Char) :=
  let digits := characters.take count
  let value := digitsValue 10 digits
  if digits.length = count ∧ digits.all isDigit ∧ least ≤ value ∧ value ≤ greatest then
    some (value, characters.drop count)
  else none

def takeMark (mark : Char) : List Char → Option (List Char)
  | character :: rest => if character = mark then some rest else none
  | [] => none

def daysInMonth (year month : Nat) : Nat :=
  let isLeap := year % 4 = 0 ∧ (year % 100 ≠ 0 ∨ year % 400 = 0)
  if month = 2 then (if isLeap then 29 else 28)
  else if month = 4 ∨ month = 6 ∨ month = 9 ∨ month = 11 then 30
  else 31

def takeDate (characters : List Char) : Option (List Char) := do
  let (year, rest) ← takeFixed 4 0 9999 characters
  let (month, rest) ← takeFixed 2 1 12 (← takeMark '-' rest)
  let (_, rest) ← takeFixed 2 1 (daysInMonth year month) (← takeMark '-' rest)
  return rest

/-- Read a time of day, with a fraction of the second when there is one. -/
def takeTime (characters : List Char) : Option (List Char) := do
  let (_, rest) ← takeFixed 2 0 23 characters
  let (_, rest) ← takeFixed 2 0 59 (← takeMark ':' rest)
  let (_, rest) ← takeFixed 2 0 60 (← takeMark ':' rest)
  match rest with
  | '.' :: digit :: more =>
    if isDigit digit then return more.dropWhile isDigit else return rest
  | _ => return rest

def takeOffset : List Char → Option (List Char)
  | sign :: rest =>
    if sign = 'Z' ∨ sign = 'z' then some rest
    else if sign = '+' ∨ sign = '-' then do
      let (_, rest) ← takeFixed 2 0 23 rest
      let (_, rest) ← takeFixed 2 0 59 (← takeMark ':' rest)
      return rest
    else none
  | [] => none

/-- Read the time after a date, when there is one. -/
def takeTimeOfDate : List Char → Option (List Char)
  | mark :: rest =>
    if mark = 'T' ∨ mark = 't' ∨ mark = ' ' then do
      let rest ← takeTime rest
      return (takeOffset rest).getD rest
    else none
  | [] => none

def takeMoment (characters : List Char) : Option (TomlValue × List Char) := do
  let rest ←
    match takeDate characters with
    | some rest => some ((takeTimeOfDate rest).getD rest)
    | none => takeTime characters
  return (.moment (spelling characters rest), rest)

end SegmentOffload.Toml
