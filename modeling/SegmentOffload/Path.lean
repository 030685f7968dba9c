import SegmentOffload.Text

/-!
Paths, as texts.

Slashes set the components of a path apart; several slashes count as one.  A path with a slash in
front starts at the root.  A path is taken apart either as it is, for following it on a disk, or in
words only, where a component that is one dot says nothing.
-/

namespace SegmentOffload.Path

def isAbsolute (path : String) : Bool :=
  path.toList.head? == some '/'

/-- A path below another one.  An absolute path is not below anything and stays as it is. -/
def join (base below : String) : String :=
  if isAbsolute below then below
  else if base.isEmpty || base.toList.getLast? == some '/' then base ++ below
  else base ++ "/" ++ below

/-- Without what says nothing at the end, for characters in reverse order. -/
def trimEnd : List Char → List Char
  | ['/'] => ['/']
  | '/' :: rest => trimEnd rest
  | '.' :: '/' :: rest => trimEnd ('/' :: rest)
  | characters => characters
termination_by characters => characters.length

/-- The path without its last component.  The root and the empty path have none to give up. -/
def parent? (path : String) : Option String :=
  match trimEnd path.toList.reverse with
  | [] => none
  | ['/'] => none
  | trimmed => some (String.ofList (trimEnd (trimmed.dropWhile (· != '/'))).reverse)

/-- The directory that holds what a path names; a bare name is held by the current one. -/
def directory (path : String) : String :=
  match parent? path with
  | some parent => if parent.isEmpty then "." else parent
  | none => "."

def pieces : List Char → List (List Char)
  | [] => [[]]
  | '/' :: rest => [] :: pieces rest
  | character :: rest =>
    match pieces rest with
    | [] => [[character]]
    | first :: more => (character :: first) :: more

/-- The components in order.  A component that is one dot is kept: it demands that what stands before
it is a directory. -/
def components (path : String) : List String :=
  ((pieces path.toList).filter fun piece => piece ≠ []).map String.ofList

/-- Whether a path ends with a slash, which says that it names a directory. -/
def endsWithSlash (path : String) : Bool :=
  path.toList.getLast? == some '/'

/-- A path and the paths that it is below of, the nearest first, without the root and the empty
path. -/
def lineage : (steps : Nat) → String → List String
  | 0, _ => []
  | steps + 1, path =>
    match parent? path with
    | some parent => path :: lineage steps parent
    | none => []

/-- The directories that a path leads through, from the path itself upwards. -/
def ancestors (path : String) : List String :=
  lineage path.length path

end SegmentOffload.Path
