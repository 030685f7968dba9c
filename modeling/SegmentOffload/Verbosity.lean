import SegmentOffload.Decimal
import SegmentOffload.Journal

/-!
How much is shown, from nothing to everything.
-/

namespace SegmentOffload

inductive Verbosity where
  | off
  | error
  | warn
  | info
  | debug
  | trace
deriving DecidableEq, Repr

namespace Verbosity

def name : Verbosity → String
  | off => "off"
  | error => "error"
  | warn => "warn"
  | info => "info"
  | debug => "debug"
  | trace => "trace"

def shows : Verbosity → LogLevel → Bool
  | off, _ => false
  | error, level => level == .error
  | _, _ => true

/-- The verbosity that a user asks for by flags; asking for quiet wins. -/
def ofFlags (verbose : Nat) (quiet : Bool) : Verbosity :=
  if quiet then error
  else
    match verbose with
    | 0 => warn
    | 1 => info
    | 2 => debug
    | _ => trace

def ofNumber? : Nat → Option Verbosity
  | 0 => some off
  | 1 => some error
  | 2 => some warn
  | 3 => some info
  | 4 => some debug
  | 5 => some trace
  | _ => none

def ofWord? (word : String) : Option Verbosity :=
  match (parseDecimal UInt64.size word).toOption.bind ofNumber? with
  | some verbosity => some verbosity
  | none =>
    if word.isEmpty then some error
    else [off, error, warn, info, debug, trace].find? fun verbosity =>
      verbosity.name == word.map Char.toLower

end Verbosity

end SegmentOffload
