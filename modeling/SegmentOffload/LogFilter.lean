import SegmentOffload.Environment
import SegmentOffload.LogFilter.Directive

/-!
Which reports are shown.

A filter is a set of directives, kept in order with the more specific ones first; of equal ones it
has one.  Directives that look at spans and fields are kept apart from the plain ones; those of them
that can be decided without spans and values are also among the plain ones.
-/

namespace SegmentOffload

structure LogFilter where
  plain : List LogDirective
  bound : List LogDirective
deriving DecidableEq, Repr

namespace LogFilter

/-- Add a directive in its place, instead of an equal one. -/
def insert (directive : LogDirective) : List LogDirective → List LogDirective
  | [] => [directive]
  | first :: rest =>
    match directive.order first with
    | .eq => directive :: rest
    | .gt => directive :: first :: rest
    | .lt => first :: insert directive rest

/-- Directives in their order, of equal ones the last. -/
def arrange (directives : List LogDirective) : List LogDirective :=
  directives.foldl (fun arranged directive => insert directive arranged) []

def ofDirectives (directives : List LogDirective) : LogFilter :=
  let (bound, unbound) := directives.partition LogDirective.isBound
  { plain := arrange (unbound ++ bound.filter LogDirective.isPlain)
    bound := arrange bound }

def ofVerbosity (verbosity : Verbosity) : LogFilter :=
  ofDirectives [.ofVerbosity verbosity]

/-- The filter that a text spells, with directives between commas. -/
def parse (text : String) : Except DirectiveFault LogFilter :=
  (((text.splitOn ",").filter fun part => !part.isEmpty).mapM LogDirective.parse).map ofDirectives

def toText (filter : LogFilter) : String :=
  ",".intercalate ((filter.plain ++ filter.bound).map LogDirective.toText)

/-- The filter that the environment spells, else the one that the flags ask for. -/
def ofEnvironment (environment : Environment) (verbose : Nat) (quiet : Bool) :
    Except SplitCharacter LogFilter :=
  match (environment.value? "RUST_LOG").map parse with
  | some (.ok filter) => .ok filter
  | some (.error (.split character)) => .error character
  | _ => .ok (ofVerbosity (.ofFlags verbose quiet))

def shows (filter : LogFilter) (level : LogLevel) : Bool :=
  filter.plain.any fun directive =>
    directive.target.isNone && directive.field.isNone && directive.verbosity.shows level

end LogFilter

end SegmentOffload
