/-!
What the client reports while it works: warnings and errors with named values.
-/

namespace SegmentOffload

inductive LogLevel where
  | warning
  | error
deriving DecidableEq, Repr

/-- One report.  The values are texts, also where they stand for numbers. -/
structure LogEntry where
  level : LogLevel
  message : String
  fields : List (String × String)
deriving DecidableEq, Repr

namespace LogEntry

def warning (message : String) (fields : List (String × String)) : LogEntry :=
  ⟨.warning, message, fields⟩

def error (message : String) (fields : List (String × String)) : LogEntry :=
  ⟨.error, message, fields⟩

def line (entry : LogEntry) : String :=
  let level := match entry.level with
    | .warning => " WARN "
    | .error => "ERROR "
  level ++ entry.message ++ String.join (entry.fields.map fun field =>
    " " ++ field.1 ++ "=" ++ field.2)

end LogEntry

end SegmentOffload
