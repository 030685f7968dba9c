import SegmentOffload.CommandLine.Usage
import SegmentOffload.Environment

/-!
Reading the arguments of one level.

Arguments are taken from the left.  An option's value may follow it as the next argument; it is
looked at only when the next option or positional argument comes, so an argument that no rule knows
is noticed before a bad value in front of it.  After two dashes alone everything is positional.
-/

namespace SegmentOffload.CommandLine

structure Given where
  name : String
  values : List String
  isFromEnvironment : Bool
deriving DecidableEq, Repr

abbrev Matches := List Given

namespace Matches

def given? (found : Matches) (name : String) : Option Given :=
  found.find? fun given => given.name == name

def has (found : Matches) (name : String) : Bool :=
  (found.given? name).isSome

def add (found : Matches) (name : String) (values : List String) : Matches :=
  if found.has name then
    found.map fun given =>
      if given.name == name then { given with values := given.values ++ values } else given
  else found ++ [⟨name, values, false⟩]

def value? (found : Matches) (name : String) : Option String :=
  (found.given? name).bind fun given => given.values.head?

end Matches

structure Progress where
  found : Matches
  /-- An option whose value is awaited or has not been looked at. -/
  pending : Option (OptionRule × Option String)

namespace Progress

def note (progress : Progress) (rule : OptionRule) (value : String) :
    Except UsageError Progress :=
  match rule.effect with
  | .value kind repeats =>
    if !repeats && progress.found.has rule.name then .error .conflict
    else do
      kind.check value
      return { progress with found := progress.found.add rule.name [value] }
  | _ => .ok progress

def settle (progress : Progress) : Except UsageError Progress :=
  match progress.pending with
  | none => .ok progress
  | some (_, none) => .error .missingValue
  | some (rule, some value) => note ⟨progress.found, none⟩ rule value

def awaitsValue (progress : Progress) : Bool :=
  match progress.pending with
  | some (_, none) => true
  | _ => false

def switchOn (progress : Progress) (rule : OptionRule) : Except UsageError Progress := do
  let progress ← progress.settle
  match rule.effect with
  | .help => .error .help
  | .version => .error .version
  | .count => return { progress with found := progress.found.add rule.name [""] }
  | _ =>
    if progress.found.has rule.name then .error .conflict
    else return { progress with found := progress.found.add rule.name [""] }

def cutAtEquals : List Char → List Char × Option (List Char)
  | [] => ([], none)
  | '=' :: value => ([], some value)
  | character :: rest =>
    let (name, value) := cutAtEquals rest
    (character :: name, value)

def readNamed (level : Level) (progress : Progress) (argument : List Char) :
    Except UsageError Progress :=
  let (name, value) := cutAtEquals argument
  match level.options.find? fun rule => rule.name == String.ofList name with
  | none => .error .unknownArgument
  | some rule =>
    match rule.effect, value with
    | .value _ _, some value => do (← progress.settle).note rule (String.ofList value)
    | .value _ _, none => do
      let progress ← progress.settle
      return { progress with pending := some (rule, none) }
    | _, some _ => .error .needlessValue
    | _, none => progress.switchOn rule

def readLetters (level : Level) : Progress → List Char → Except UsageError Progress
  | progress, [] => .ok progress
  | progress, letter :: rest =>
    match level.options.find? fun rule => rule.letter == some letter with
    | none => .error .unknownArgument
    | some rule => do readLetters level (← progress.switchOn rule) rest

/-- Read a positional argument; `isTrailing` says that it follows two dashes alone. -/
def readPositional (level : Level) (isTrailing : Bool) (progress : Progress) (argument : String) :
    Except UsageError Progress :=
  match level.positional.filter fun name => !progress.found.has name with
  | some name => do
    let progress ← progress.settle
    return { progress with found := progress.found.add name [argument] }
  | none =>
    if level.commands.isEmpty || (isTrailing && level.commands.contains argument) then
      .error .unknownArgument
    else .error .unknownCommand

def readArgument (level : Level) (progress : Progress) (argument : String) :
    Except UsageError Progress :=
  match argument.toList with
  | '-' :: '-' :: name => readNamed level progress name
  | '-' :: first :: more => readLetters level progress (first :: more)
  | _ =>
    match progress.pending with
    | some (rule, none) => .ok { progress with pending := some (rule, some argument) }
    | _ => readPositional level false progress argument

end Progress

abbrev Call := String × List String

/-- Read the arguments of a level, up to the first command. -/
def scan (level : Level) : (isTrailing : Bool) → Progress → List String →
    Except UsageError (Progress × Option Call)
  | _, progress, [] => .ok (progress, none)
  | true, progress, argument :: rest => do
    scan level true (← Progress.readPositional level true progress argument) rest
  | false, progress, argument :: rest =>
    if !progress.awaitsValue && level.commands.contains argument then
      .ok (progress, some (argument, rest))
    else if argument = "--" then scan level true progress rest
    else do scan level false (← Progress.readArgument level progress argument) rest

/-! ### Rules -/

def withVariables (level : Level) (environment : Environment) (found : Matches) :
    Except UsageError Matches :=
  level.environmentNames.foldlM
    (fun found (name, variableName) =>
      match found.has name, environment.value? variableName with
      | false, some value => do
        ValueKind.path.check value
        return found ++ [⟨name, [value], true⟩]
      | _, _ => return found)
    found

def hasConflict (level : Level) (found : Matches) : Bool :=
  level.conflicts.any fun (one, other) => found.has one && found.has other

def lacksArgument (level : Level) (found : Matches) : Bool :=
  (level.required.any fun name => !found.has name) ||
    (level.alternatives.any fun (one, other) => !found.has one && !found.has other) ||
    (level.dependencies.any fun (one, other) => found.has one && !found.has other)

def validate (level : Level) (found : Matches) : Except UsageError Unit :=
  if hasConflict level found then .error .conflict
  else if lacksArgument level found then .error .missingArgument
  else .ok ()

/-- What was given at a level, with what the environment adds to it. -/
def close (level : Level) (environment : Environment) (progress : Progress) :
    Except UsageError Matches := do
  let progress ← progress.settle
  withVariables level environment progress.found

/-- Of two levels that know the same option, what the inner one was given counts, unless only the
environment gave it. -/
def innermost? (name : String) (outer inner : Matches) : Option Given :=
  match inner.given? name, outer.given? name with
  | some inside, some outside =>
    if inside.isFromEnvironment && !outside.isFromEnvironment then some outside else some inside
  | some inside, none => some inside
  | none, outside => outside

end SegmentOffload.CommandLine
