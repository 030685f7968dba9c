import SegmentOffload.Toml.Scan

/-!
Reading TOML documents.

A document is a sequence of lines, each blank, a comment, a header, or a key with its value.  A
value in brackets may run over several lines, one in braces may not.  Values nest at most so deep
that eighty levels are never reached.
-/

namespace SegmentOffload.Toml

mutual

def takeValue : (fuel levels : Nat) → List Char → Option (TomlValue × List Char)
  | 0, _, _ => none
  | fuel + 1, levels, characters =>
    match characters with
    | '[' :: rest =>
      match levels with
      | 0 => none
      | levels + 1 => do
        let (items, left) ← takeItems fuel levels rest
        return (.list items, left)
    | '{' :: rest =>
      match levels with
      | 0 => none
      | levels + 1 =>
        match skipBlanks rest with
        | '}' :: left => return (.table (.empty .braces), left)
        | rest => do
          let (table, left) ← takeEntries fuel levels (.empty .braces) rest
          return (.table table, left)
    | 't' :: 'r' :: 'u' :: 'e' :: rest => some (.boolean true, rest)
    | 'f' :: 'a' :: 'l' :: 's' :: 'e' :: rest => some (.boolean false, rest)
    | '"' :: _ => do
      let (value, rest) ← takeText characters
      return (.text value, rest)
    | '\'' :: _ => do
      let (value, rest) ← takeText characters
      return (.text value, rest)
    | _ => takeMoment characters <|> takeFloat characters <|> takeInteger characters

/-- Read the items of a list and its closing bracket; a comma may follow the last item. -/
def takeItems : (fuel levels : Nat) → List Char → Option (List TomlValue × List Char)
  | 0, _, _ => none
  | fuel + 1, levels, characters => do
    match ← skipFiller (characters.length + 1) characters with
    | ']' :: left => return ([], left)
    | rest => do
      let (item, rest) ← takeValue fuel levels rest
      match ← skipFiller (rest.length + 1) rest with
      | ',' :: more => do
        let (items, left) ← takeItems fuel levels more
        return (item :: items, left)
      | ']' :: left => return ([item], left)
      | _ => none

/-- Read the entries of a table in braces that has some, and its closing brace. -/
def takeEntries : (fuel levels : Nat) → TomlTable → List Char → Option (TomlTable × List Char)
  | 0, _, _, _ => none
  | fuel + 1, levels, table, characters => do
    let (key, rest) ← takeKey characters
    let (value, rest) ← takeValue fuel levels (skipBlanks (← takeMark '=' rest))
    let table ← table.define key.path key.name value
    match skipBlanks rest with
    | ',' :: more => takeEntries fuel levels table more
    | '}' :: left => return (table, left)
    | _ => none

end

/-- What has been read of a document: its tables, and the path of the one that is open. -/
structure Document where
  root : TomlTable
  opened : List String

namespace Document

def empty : Document :=
  ⟨.empty .header, []⟩

def define (document : Document) (key : Key) (value : TomlValue) : Option Document := do
  let root ←
    TomlTable.within false (TomlTable.define key.path key.name value) document.opened document.root
  return { document with root }

/-- Follow a header; `make` opens the table that its last part names. -/
def follow (document : Document) (key : Key) (make : String → TomlTable → Option TomlTable) :
    Option Document := do
  let root ← TomlTable.within false (make key.name) key.path document.root
  return ⟨root, key.path ++ [key.name]⟩

end Document

def takeLines : (fuel : Nat) → Document → List Char → Option Document
  | 0, _, _ => none
  | fuel + 1, document, characters => do
    match skipBlanks characters with
    | [] => return document
    | '#' :: rest => takeLines fuel document (← takeLineEnd ('#' :: rest))
    | '\n' :: rest => takeLines fuel document rest
    | '\r' :: rest => takeLines fuel document (← takeNewline ('\r' :: rest))
    | '[' :: '[' :: rest => do
      let (key, rest) ← takeKey rest
      let rest ← takeMark ']' (← takeMark ']' rest)
      takeLines fuel (← document.follow key TomlTable.openElement) (← takeLineEnd rest)
    | '[' :: rest => do
      let (key, rest) ← takeKey rest
      let rest ← takeMark ']' rest
      takeLines fuel (← document.follow key TomlTable.openTable) (← takeLineEnd rest)
    | rest => do
      let (key, rest) ← takeKey rest
      let rest := skipBlanks (← takeMark '=' rest)
      let (value, rest) ← takeValue (2 * rest.length + 2) (levelLimit - 1) rest
      takeLines fuel (← document.define key value) (← takeLineEnd rest)

def byteOrderMark : Char := Char.ofNat 0xFEFF

def parse (text : String) : Option TomlTable := do
  let characters :=
    match text.toList with
    | first :: rest => if first = byteOrderMark then rest else first :: rest
    | [] => []
  let document ← takeLines (characters.length + 1) .empty characters
  return document.root

end SegmentOffload.Toml
