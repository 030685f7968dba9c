import SegmentOffload.Text.Alphanumeric
import SegmentOffload.Text

/-!
Which texts are regular expressions.

Groups, classes, repetitions and alternatives are the usual ones, and flags change how what follows
is taken.  Expressions are about Unicode characters until a flag says otherwise; what needs tables
of Unicode characters (classes such as `\d`, word boundaries, ignoring case) is then not available.
With ASCII only, an expression must not be able to match part of a character.

A text is scanned from the left with a bound on the steps; every step takes at least one character,
so the length of the text is bound enough.
-/

namespace SegmentOffload

namespace Pattern

structure Mode where
  ignoresCase : Bool
  isUnicode : Bool
  /-- Whether blanks and comments between the parts mean nothing. -/
  ignoresBlanks : Bool
deriving DecidableEq, Repr

def Mode.default : Mode := ⟨false, true, false⟩

def Mode.allowsLiteral (mode : Mode) (character : Char) : Bool :=
  if mode.isUnicode then !mode.ignoresCase else character.toNat < 0x80

def Mode.allowsClass (mode : Mode) (isNegated : Bool) : Bool :=
  if mode.isUnicode then !mode.ignoresCase else !isNegated

/-- Without the blanks and comments in front, given whether a comment is being left out. -/
def dropBlanks : (inComment : Bool) → List Char → List Char
  | _, [] => []
  | true, character :: rest => dropBlanks (character != '\n') rest
  | false, character :: rest =>
    if isBlank character then dropBlanks false rest
    else if character = '#' then dropBlanks true rest
    else character :: rest

def Mode.next (mode : Mode) (characters : List Char) : List Char :=
  if mode.ignoresBlanks then dropBlanks false characters else characters

/-! ### Escapes -/

inductive Escape where
  | literal (character : Char)
  /-- The digits, blanks or word characters, or all others. -/
  | listed (isNegated : Bool)
  | wordEdge
  | textEdge
deriving DecidableEq, Repr

def hexDigit? (character : Char) : Option Nat :=
  let code := character.toNat
  if character.isDigit then some (code - 48)
  else if 'a' ≤ character ∧ character ≤ 'f' then some (code - 87)
  else if 'A' ≤ character ∧ character ≤ 'F' then some (code - 55)
  else none

def readHex? (mode : Mode) : (count value : Nat) → List Char → Option (Nat × List Char)
  | 0, value, characters => some (value, characters)
  | count + 1, value, characters =>
    match mode.next characters with
    | [] => none
    | character :: rest =>
      match hexDigit? character with
      | some digit => readHex? mode count (value * 16 + digit) rest
      | none => none

def readCode? (mode : Mode) (count : Nat) (characters : List Char) :
    Option (Escape × List Char) :=
  match readHex? mode count 0 characters with
  | none => none
  | some (code, rest) =>
    if code.isValidChar then some (.literal (Char.ofNat code), mode.next rest) else none

def readEscape? (mode : Mode) : List Char → Option (Escape × List Char)
  | [] => none
  | 'x' :: rest => readCode? mode 2 rest
  | 'u' :: rest => readCode? mode 4 rest
  | 'U' :: rest => readCode? mode 8 rest
  | 'b' :: rest => some (.wordEdge, rest)
  | 'B' :: rest => some (.wordEdge, rest)
  | '<' :: rest => some (.wordEdge, rest)
  | '>' :: rest => some (.wordEdge, rest)
  | 'A' :: rest => some (.textEdge, rest)
  | 'z' :: rest => some (.textEdge, rest)
  | character :: rest =>
    if ['d', 's', 'w'].contains character then some (.listed false, rest)
    else if ['D', 'S', 'W'].contains character then some (.listed true, rest)
    else if ['a', 'f', 't', 'n', 'r', 'v'].contains character then
      some (.literal '\t', rest)
    else if character.isAlphanum || 0x80 ≤ character.toNat then none
    else some (.literal character, rest)

def Mode.allowsEscape (mode : Mode) : Escape → Bool
  | .literal character => mode.allowsLiteral character
  | .listed isNegated => !mode.isUnicode && !isNegated
  | .wordEdge => !mode.isUnicode
  | .textEdge => true

/-! ### Classes -/

def classNames : List String :=
  ["alnum", "alpha", "ascii", "blank", "cntrl", "digit", "graph", "lower", "print", "punct",
    "space", "upper", "word", "xdigit"]

/-- What follows a class with a name, and whether the class is negated, after the bracket. -/
def readNamedClass? : List Char → Option (Bool × List Char)
  | ':' :: rest =>
    let (isNegated, rest) :=
      match rest with
      | '^' :: rest => (true, rest)
      | rest => (false, rest)
    match rest.span (· != ':') with
    | (name, ':' :: ']' :: rest) =>
      if classNames.contains (String.ofList name) then some (isNegated, rest) else none
    | _ => none
  | _ => none

/-- What follows the beginning of a class: a negation, hyphens, and a bracket that belongs to it. -/
def openClass? (mode : Mode) (characters : List Char) : Option (List Char) :=
  let (isNegated, characters) :=
    match mode.next characters with
    | '^' :: rest => (true, mode.next rest)
    | characters => (false, characters)
  if mode.allowsClass isNegated then
    match characters with
    | ']' :: rest => some rest
    | characters => some (characters.dropWhile (· == '-'))
  else none

/-- One member of a class.  A character comes with itself, so that a range can be made of it. -/
def readMember? (mode : Mode) : List Char → Option (Option Char × List Char)
  | [] => none
  | '\\' :: rest =>
    match readEscape? mode rest with
    | some (.literal character, rest) =>
      if mode.isUnicode || character.toNat < 0x80 then some (some character, rest) else none
    | some (.listed isNegated, rest) =>
      if mode.allowsEscape (.listed isNegated) then some (none, rest) else none
    | _ => none
  | character :: rest =>
    if mode.isUnicode || character.toNat < 0x80 then some (some character, rest) else none

def readRange? (mode : Mode) (characters : List Char) : Option (List Char) :=
  match readMember? mode characters with
  | none => none
  | some (first, rest) =>
    match mode.next rest with
    | [] => none
    | '-' :: later =>
      match mode.next later with
      | ']' :: _ => some ('-' :: later)
      | '-' :: _ => some ('-' :: later)
      | last =>
        match first, readMember? mode last with
        | some first, some (some last, rest) => if first ≤ last then some rest else none
        | _, _ => none
    | rest => some rest

/-- The rest of a class that is open, with so many classes open around it. -/
def readClass? (mode : Mode) : (steps depth : Nat) → List Char → Option (List Char)
  | 0, _, _ => none
  | steps + 1, depth, characters =>
    match mode.next characters with
    | [] => none
    | ']' :: rest =>
      match depth with
      | 0 => some rest
      | depth + 1 => readClass? mode steps depth rest
    | '&' :: '&' :: rest => readClass? mode steps depth rest
    | '-' :: '-' :: rest => readClass? mode steps depth rest
    | '~' :: '~' :: rest => readClass? mode steps depth rest
    | '[' :: rest =>
      match readNamedClass? rest with
      | some (isNegated, rest) =>
        if mode.allowsClass isNegated then readClass? mode steps depth rest else none
      | none =>
        match openClass? mode rest with
        | some rest => readClass? mode steps (depth + 1) rest
        | none => none
    | characters =>
      match readRange? mode characters with
      | some rest => readClass? mode steps depth rest
      | none => none

/-! ### Groups -/

/-- The name of a group, and what follows it. -/
def readName? (characters : List Char) : Option (String × List Char) :=
  match characters.span (· != '>') with
  | (first :: name, _ :: rest) =>
    let isLater (character : Char) :=
      isLetterOrNumber character || ['_', '.', '[', ']'].contains character
    if (first == '_' || isLetter first) && name.all isLater then
      some (String.ofList (first :: name), rest)
    else none
  | _ => none

def Mode.withFlag (mode : Mode) (isSet : Bool) (flag : Char) : Mode :=
  if flag = 'i' then { mode with ignoresCase := isSet }
  else if flag = 'u' then { mode with isUnicode := isSet }
  else if flag = 'x' then { mode with ignoresBlanks := isSet }
  else mode

/-- The flags, and the hyphen that takes back those after it. -/
def flags : List Char := ['-', 'i', 'm', 's', 'U', 'u', 'R', 'x']

/-- The mode that flags lead to, and what follows them, from the character that ends them on.  Each
flag may be named once, and after a hyphen there has to be one. -/
def readFlags? : (seen : List Char) → Mode → List Char → Option (Mode × List Char)
  | _, _, [] => none
  | seen, mode, flag :: rest =>
    if flag = ':' ∨ flag = ')' then
      if seen.head? = some '-' then none else some (mode, flag :: rest)
    else if seen.contains flag || !flags.contains flag then none
    else readFlags? (flag :: seen) (mode.withFlag (!seen.contains '-') flag) rest

/-! ### Expressions -/

structure Scan where
  mode : Mode
  /-- The modes around the groups that are open. -/
  outer : List Mode
  /-- Whether there is something in front that can be repeated. -/
  isRepeatable : Bool
  /-- The names of groups. -/
  names : List String

def Scan.enter (scan : Scan) (mode : Mode) : Scan :=
  { scan with mode, outer := scan.mode :: scan.outer, isRepeatable := false }

def Scan.openGroup? (scan : Scan) (characters : List Char) : Option (Scan × List Char) :=
  let named (characters : List Char) : Option (Scan × List Char) :=
    match readName? characters with
    | some (name, rest) =>
      if scan.names.contains name then none
      else some ({ scan.enter scan.mode with names := name :: scan.names }, rest)
    | none => none
  match scan.mode.next characters with
  | '?' :: 'P' :: '<' :: rest => named rest
  | '?' :: '<' :: rest => named rest
  | '?' :: ')' :: _ => none
  | '?' :: rest =>
    match readFlags? [] scan.mode rest with
    | some (mode, ')' :: rest) => some ({ scan with mode, isRepeatable := false }, rest)
    | some (mode, _ :: rest) => some (scan.enter mode, rest)
    | _ => none
  | rest => some (scan.enter scan.mode, rest)

def Scan.step? (scan : Scan) (steps : Nat) : Char → List Char → Option (Scan × List Char)
  | '(', rest => scan.openGroup? rest
  | ')', rest =>
    match scan.outer with
    | [] => none
    | mode :: outer => some ({ scan with mode, outer, isRepeatable := true }, rest)
  | '|', rest => some ({ scan with isRepeatable := false }, rest)
  | '[', rest =>
    match (openClass? scan.mode rest).bind (readClass? scan.mode steps 0) with
    | some rest => some ({ scan with isRepeatable := true }, rest)
    | none => none
  | '\x7b', _ => none
  | '\\', rest =>
    match readEscape? scan.mode rest with
    | some (escape, rest) =>
      if scan.mode.allowsEscape escape then some ({ scan with isRepeatable := true }, rest)
      else none
    | none => none
  | character, rest =>
    let isAllowed :=
      if ['?', '*', '+'].contains character then scan.isRepeatable
      else if character = '.' then scan.mode.isUnicode
      else if ['^', '$'].contains character then true
      else scan.mode.allowsLiteral character
    if isAllowed then some ({ scan with isRepeatable := true }, rest) else none

def completes : (steps : Nat) → Scan → List Char → Bool
  | 0, _, _ => false
  | steps + 1, scan, characters =>
    match scan.mode.next characters with
    | [] => scan.outer.isEmpty
    | character :: rest =>
      match scan.step? (steps + 1) character rest with
      | some (scan, rest) => completes steps scan rest
      | none => false

end Pattern

/-- Whether a text without counted repetitions is a regular expression. -/
def isPattern (text : String) : Bool :=
  Pattern.completes (text.length + 1) ⟨.default, [], false, []⟩ text.toList

end SegmentOffload
