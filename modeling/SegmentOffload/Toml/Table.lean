/-!
TOML tables, and how the parts of a document add to them.

A table remembers what made it, because that decides what may still be added.  A table that a header
opened, or that was only passed through on the way to one, takes headers below it; a table that a
dotted key made takes further dotted keys; a table written inline takes nothing.  No key is ever
defined twice.
-/

namespace SegmentOffload

inductive TableOrigin where
  /-- The document itself, or a header that names the table. -/
  | header
  /-- A header that names something below the table. -/
  | passing
  /-- A dotted key that names something below the table. -/
  | dotted
  /-- Braces around the whole table. -/
  | braces
deriving DecidableEq, Repr

mutual

inductive TomlValue where
  | text (value : String)
  | integer (value : Int)
  | boolean (value : Bool)
  | float (spelling : String)
  /-- A date, a time, or both. -/
  | moment (spelling : String)
  | list (items : List TomlValue)
  | table (table : TomlTable)
  /-- The tables that repeated headers opened, and the one opened last. -/
  | tables (earlier : List TomlTable) (last : TomlTable)

inductive TomlTable where
  | mk (origin : TableOrigin) (entries : List (String × TomlValue))

end

namespace TomlTable

def origin : TomlTable → TableOrigin
  | mk origin _ => origin

def entries : TomlTable → List (String × TomlValue)
  | mk _ entries => entries

def empty (origin : TableOrigin) : TomlTable :=
  mk origin []

def value? (table : TomlTable) (key : String) : Option TomlValue :=
  (table.entries.find? fun entry => entry.1 == key).map Prod.snd

/-- Give a key its value, in the place it has if it has one. -/
def set (table : TomlTable) (key : String) (value : TomlValue) : TomlTable :=
  if (table.value? key).isSome then
    mk table.origin
      (table.entries.map fun entry => if entry.1 == key then (key, value) else entry)
  else mk table.origin (table.entries ++ [(key, value)])

/-- Change the table at the end of a path.  Tables that are missing on the way are made; `dotted`
says whether a dotted key or a header asks. -/
def within (dotted : Bool) (change : TomlTable → Option TomlTable) :
    List String → TomlTable → Option TomlTable
  | [], table => change table
  | key :: path, table =>
    match table.value? key with
    | none => do
      let made ← within dotted change path (empty (if dotted then .dotted else .passing))
      return table.set key (.table made)
    | some (.table found) =>
      if found.origin = .braces ∨ (dotted ∧ found.origin = .header) then none
      else do
        let changed ← within dotted change path found
        return table.set key (.table changed)
    | some (.tables earlier last) => do
      let changed ← within dotted change path last
      return table.set key (.tables earlier changed)
    | some _ => none

def define (path : List String) (key : String) (value : TomlValue) (table : TomlTable) :
    Option TomlTable :=
  within true
    (fun found =>
      if (found.origin == .dotted) == path.isEmpty then none
      else if (found.value? key).isSome then none
      else some (found.set key value))
    path table

def openTable (key : String) (parent : TomlTable) : Option TomlTable :=
  match parent.value? key with
  | none => some (parent.set key (.table (empty .header)))
  | some (.table found) =>
    if found.origin = .passing then some (parent.set key (.table (mk .header found.entries)))
    else none
  | some _ => none

def openElement (key : String) (parent : TomlTable) : Option TomlTable :=
  match parent.value? key with
  | none => some (parent.set key (.tables [] (empty .header)))
  | some (.tables earlier last) =>
    some (parent.set key (.tables (earlier ++ [last]) (empty .header)))
  | some _ => none

end TomlTable

end SegmentOffload
