import SegmentOffload.LogFilter.FieldMatch
import SegmentOffload.Text.Quoted
import SegmentOffload.Text.Slice
import SegmentOffload.Verbosity

/-!
Log directives.

A directive is a verbosity that may be bound to a target, to a span and to a field.  It is written
`target[span{field}]=level`; each part may be missing, and without a level it means everything.

The reading goes over a text without the blanks at its ends, but the pieces are taken from the whole
text at the positions found.  So blanks in front push every piece to the left, and may make a piece
end inside a character.
-/

namespace SegmentOffload

structure LogDirective where
  target : Option String
  span : Option String
  field : Option FieldMatch
  verbosity : Verbosity
deriving DecidableEq, Repr

/-- Why a text is no directive. -/
inductive DirectiveFault where
  | malformed
  | split (character : SplitCharacter)
deriving DecidableEq, Repr

/-- The part of a directive that is being read; positions are where it starts. -/
inductive DirectivePart where
  | beginning
  | targetOrLevel (start : Nat)
  | span (start : Nat)
  | field (start : Nat)
  | afterField
  | afterSpan
  | level (start : Nat)
deriving DecidableEq, Repr

namespace LogDirective

def ofVerbosity (verbosity : Verbosity) : LogDirective := ⟨none, none, none, verbosity⟩

def opens (character : Char) : Bool :=
  isLetterOrNumber character || ['-', ':', '_'].contains character

/-! ### Reading -/

def piece (text : String) (first last : Nat) : Except DirectiveFault String :=
  (slice text first last).mapError .split

def readField (text : String) (first last : Nat) : Except DirectiveFault FieldMatch :=
  match piece text first last with
  | .error fault => .error fault
  | .ok field =>
    match if field.isEmpty then none else FieldMatch.parse? field with
    | some field => .ok field
    | none => .error .malformed

def step (text : String) (position : Nat) (part : DirectivePart) (character : Char)
    (directive : LogDirective) : Except DirectiveFault (DirectivePart × LogDirective) :=
  match part with
  | .beginning =>
    if character = '[' then .ok (.span (position + 1), directive)
    else if opens character then .ok (.targetOrLevel position, directive)
    else .error .malformed
  | .targetOrLevel start =>
    if character = '=' ∨ character = '[' then do
      let target ← piece text start position
      let next : DirectivePart :=
        if character = '=' then .level (position + 1) else .span (position + 1)
      return (next, { directive with target := some target })
    else .ok (part, directive)
  | .span start =>
    if character = ']' then do
      let span ← piece text start position
      return (.afterSpan, { directive with span := some span })
    else if character = '\x7b' then do
      let span ← piece text start position
      return (.field (position + 1),
        { directive with span := if span.isEmpty then none else some span })
    else .ok (part, directive)
  | .field start =>
    if character = '\x7d' then do
      let field ← readField text start position
      return (.afterField, { directive with field := some field })
    else .ok (part, directive)
  | .afterField => if character = ']' then .ok (.afterSpan, directive) else .error .malformed
  | .afterSpan =>
    if character = '=' then .ok (.level (position + 1), directive) else .error .malformed
  | .level _ => .ok (part, directive)

def finish (text : String) (part : DirectivePart) (directive : LogDirective) :
    Except DirectiveFault LogDirective :=
  match part with
  | .targetOrLevel start => do
    let word ← piece text start text.utf8ByteSize
    match Verbosity.ofWord? word with
    | some verbosity => return ofVerbosity verbosity
    | none => return { ofVerbosity .trace with target := some word }
  | .level start => do
    let word ← piece text start text.utf8ByteSize
    match if word.isEmpty then some .trace else Verbosity.ofWord? word with
    | some verbosity => return { directive with verbosity }
    | none => throw .malformed
  | .afterSpan => .ok directive
  | _ => .error .malformed

/-- Take characters that start at a position, and then the end. -/
def read (text : String) : (position : Nat) → DirectivePart → List Char → LogDirective →
    Except DirectiveFault LogDirective
  | _, part, [], directive => finish text part directive
  | position, part, character :: rest, directive =>
    match step text position part character directive with
    | .error fault => .error fault
    | .ok (part, directive) => read text (position + character.utf8Size) part rest directive

def parse (text : String) : Except DirectiveFault LogDirective :=
  read text 0 .beginning (trimBlanks text).toList (ofVerbosity .trace)

/-! ### Writing -/

def scopeText (directive : LogDirective) : String :=
  match directive.span, directive.field with
  | none, none => ""
  | span, field =>
    "[" ++ span.getD "" ++
      (match field with
        | some field => "\x7b" ++ field.toText ++ "\x7d"
        | none => "") ++ "]"

def toText (directive : LogDirective) : String :=
  match directive.target, directive.scopeText with
  | none, "" => directive.verbosity.name
  | target, scope => target.getD "" ++ scope ++ "=" ++ directive.verbosity.name

/-! ### Kinds and order -/

/-- Whether a directive looks at the spans around a report, or at the fields of one. -/
def isBound (directive : LogDirective) : Bool :=
  directive.span.isSome || directive.field.isSome

/-- Whether a directive can be decided without spans and without values. -/
def isPlain (directive : LogDirective) : Bool :=
  directive.span.isNone && !(directive.field.any fun field => field.value.isSome)

/-- The order of texts that may be missing, missing ones first. -/
def textOrder : Option String → Option String → Ordering
  | none, none => .eq
  | none, some _ => .lt
  | some _, none => .gt
  | some one, some other => compare one other

/-- The order of fields that may be missing, missing ones first. -/
def fieldOrder : Option FieldMatch → Option FieldMatch → Ordering
  | none, none => .eq
  | none, some _ => .lt
  | some _, none => .gt
  | some one, some other => one.order other

/-- How narrow the target of a directive is. -/
def targetSize (directive : LogDirective) : Nat :=
  match directive.target with
  | some target => target.utf8ByteSize + 1
  | none => 0

/-- The order of directives from general to specific: longer targets, then a span, then a field make
a directive more specific; texts decide between equally specific ones. -/
def order (left right : LogDirective) : Ordering :=
  (compare left.targetSize right.targetSize).then <|
    (compare left.span.isSome.toNat right.span.isSome.toNat).then <|
      (compare left.field.isSome.toNat right.field.isSome.toNat).then <|
        (textOrder left.target right.target).then <|
          (textOrder left.span right.span).then (fieldOrder left.field right.field)

end LogDirective

/-- What stops the program when a text is cut inside a character. -/
def SplitCharacter.message (split : SplitCharacter) : String :=
  split.sliceEnd.name ++ " byte index " ++ decimal split.position ++
    " is not a char boundary; it is inside \x27" ++
    String.ofList (quotedCharacter split.character) ++ "\x27 (bytes " ++ decimal split.offset ++
    ".." ++ decimal (split.offset + split.character.utf8Size) ++ " of string)"

end SegmentOffload
