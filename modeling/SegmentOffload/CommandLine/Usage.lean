import SegmentOffload.Decimal

/-!
What a command line may hold: options by name, one positional argument, and commands.

A level of a command line is what stands before a command, or what follows it.  Its rules say which
options exclude each other and which are needed.
-/

namespace SegmentOffload.CommandLine

/-- Why a command line is not carried out. -/
inductive UsageError where
  | help
  | version
  /-- Nothing was asked for at all. -/
  | nothingAsked
  | missingCommand
  | unknownCommand
  | unknownArgument
  | conflict
  | missingArgument
  /-- An option has no value, or an empty one where a path is needed. -/
  | missingValue
  | badValue
  /-- An option that takes no value has one. -/
  | needlessValue
deriving DecidableEq, Repr

namespace UsageError

def name : UsageError → String
  | help => "DisplayHelp"
  | version => "DisplayVersion"
  | nothingAsked => "DisplayHelpOnMissingArgumentOrSubcommand"
  | missingCommand => "MissingSubcommand"
  | unknownCommand => "InvalidSubcommand"
  | unknownArgument => "UnknownArgument"
  | conflict => "ArgumentConflict"
  | missingArgument => "MissingRequiredArgument"
  | missingValue => "InvalidValue"
  | badValue => "ValueValidation"
  | needlessValue => "TooManyValues"

def exitCode : UsageError → Nat
  | help => 0
  | version => 0
  | _ => 2

end UsageError

/-! ### Values -/

inductive ValueKind where
  | text
  /-- A text that is not empty. -/
  | path
  | halfWord
  | word
  /-- Numbers of 32 bits with commas between them. -/
  | halfWords
deriving DecidableEq, Repr

/-- A number of 32 bits; minus zero is one. -/
def halfWord? (text : String) : Option UInt32 :=
  match text.toList with
  | '-' :: digits =>
    match parseDecimal 1 (String.ofList digits) with
    | .ok _ => if digits.head? = some '+' then none else some 0
    | _ => none
  | _ => (parseHalfWord text).toOption

def word? (text : String) : Option UInt64 :=
  (parseWord text).toOption

def halfWords? (text : String) : Option (List UInt32) :=
  (text.splitOn ",").mapM halfWord?

def ValueKind.check (kind : ValueKind) (value : String) : Except UsageError Unit :=
  let accepted (good : Bool) (error : UsageError) : Except UsageError Unit :=
    if good then .ok () else .error error
  match kind with
  | text => .ok ()
  | path => accepted (!value.isEmpty) .missingValue
  | halfWord => accepted (halfWord? value).isSome .badValue
  | word => accepted (word? value).isSome .badValue
  | halfWords => accepted (halfWords? value).isSome .badValue

/-! ### Levels -/

inductive OptionEffect where
  /-- It takes a value, once or, if it may be repeated, any number of times. -/
  | value (kind : ValueKind) (repeats : Bool)
  /-- It is on, and may be given once. -/
  | switch
  /-- It counts how often it is given. -/
  | count
  | help
  | version
deriving DecidableEq, Repr

/-- An option: its name after two dashes, its letter after one, and its effect. -/
structure OptionRule where
  name : String
  letter : Option Char
  effect : OptionEffect
deriving DecidableEq, Repr

structure Level where
  options : List OptionRule
  /-- The name of the positional argument, if there is one. -/
  positional : Option String
  commands : List String
  /-- Pairs of options of which only one may be given. -/
  conflicts : List (String × String)
  /-- What has to be given. -/
  required : List String
  /-- Options of which the first has to be given unless the second is. -/
  alternatives : List (String × String)
  /-- Options of which the first may be given only with the second. -/
  dependencies : List (String × String)
  /-- Options that the environment may give, with the names of their variables. -/
  environmentNames : List (String × String)

def valued (name : String) (kind : ValueKind) : OptionRule :=
  ⟨name, none, .value kind false⟩

def switched (name : String) : OptionRule :=
  ⟨name, none, .switch⟩

end SegmentOffload.CommandLine
