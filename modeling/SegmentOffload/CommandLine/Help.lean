import SegmentOffload.CommandLine.Parse

/-!
What a user is told about the command line: its form, and what is wrong with one that is refused.

The form is drawn up from the same rules by which command lines are read.
-/

namespace SegmentOffload.CommandLine

/-! ### The form -/

def ValueKind.placeholder : ValueKind → String
  | text => "<text>"
  | path => "<path>"
  | halfWord => "<number>"
  | word => "<number>"
  | halfWords => "<number>,..."

def OptionRule.form (rule : OptionRule) : String :=
  match rule.effect with
  | .value kind _ => "--" ++ rule.name ++ " " ++ kind.placeholder
  | _ => "--" ++ rule.name

namespace Level

/-- How an option is written, in brackets when it may be left out. -/
def optionForm (level : Level) (rule : OptionRule) : String :=
  if level.required.contains rule.name then rule.form else "[" ++ rule.form ++ "]"

def ownOptions (level : Level) : List OptionRule :=
  level.options.filter fun rule => !sharedOptions.contains rule

def form (level : Level) (command : String) : String :=
  let positional := (level.positional.map fun name => "<" ++ name ++ ">").toList
  " ".intercalate (command :: level.ownOptions.map level.optionForm ++ positional)

end Level

def programName : String := "yproxy-client"

def versionLine : String := programName ++ " 0.1.0\n"

def helpText : String :=
  let commands := outerLevel.commands.filter fun command => command != "help"
  let lines :=
    ["Usage: " ++ programName ++ " [options] <command>", "", "Options:"] ++
      outerLevel.options.map (fun rule => "  " ++ rule.form) ++
      ["", "Commands:"] ++ commands.map fun command => "  " ++ (innerLevel command).form command
  String.join (lines.map fun line => line ++ "\n")

/-! ### What is wrong -/

namespace UsageError

/-- What is wrong with a command line, in a few words. -/
def complaint : UsageError → String
  | help => ""
  | version => ""
  | nothingAsked => "nothing to do"
  | missingCommand => "a command is missing"
  | unknownCommand => "unknown command"
  | unknownArgument => "unknown argument"
  | conflict => "options that exclude each other, or one given twice"
  | missingArgument => "an option or argument is missing"
  | missingValue => "a value is missing"
  | badValue => "a value is not of the right kind"
  | needlessValue => "a value for an option that takes none"

def response : UsageError → String
  | help => helpText
  | version => versionLine
  | error => "error: " ++ error.complaint ++ "\n\n" ++ helpText

end UsageError

end SegmentOffload.CommandLine
