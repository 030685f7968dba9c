/-!
Pieces of a text between two byte positions.

Positions count the bytes of the UTF-8 encoding.  Only positions between characters bound a piece;
one that lies inside a character is a fault, and of two such positions the first is reported.
-/

namespace SegmentOffload

/-- Which end of a piece a position bounds. -/
inductive SliceEnd where
  | first
  | last
deriving DecidableEq, Repr

def SliceEnd.name : SliceEnd → String
  | first => "start"
  | last => "end"

structure SplitCharacter where
  sliceEnd : SliceEnd
  position : Nat
  character : Char
  /-- Where the character starts. -/
  offset : Nat
deriving DecidableEq, Repr

/-- The character that a position lies inside of, and where it starts; `offset` is where the
characters start. -/
def characterAcross? (position : Nat) : (offset : Nat) → List Char → Option (Char × Nat)
  | _, [] => none
  | offset, character :: rest =>
    if position ≤ offset then none
    else if position < offset + character.utf8Size then some (character, offset)
    else characterAcross? position (offset + character.utf8Size) rest

def charactersBetween (first last : Nat) : (offset : Nat) → List Char → List Char
  | _, [] => []
  | offset, character :: rest =>
    let later := charactersBetween first last (offset + character.utf8Size) rest
    if first ≤ offset ∧ offset < last then character :: later else later

def slice (text : String) (first last : Nat) : Except SplitCharacter String :=
  match characterAcross? first 0 text.toList, characterAcross? last 0 text.toList with
  | some (character, offset), _ => .error ⟨.first, first, character, offset⟩
  | none, some (character, offset) => .error ⟨.last, last, character, offset⟩
  | none, none => .ok (String.ofList (charactersBetween first last 0 text.toList))

end SegmentOffload
