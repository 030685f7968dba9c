import SegmentOffload.Text.Printable

/-!
Texts between quotes, for messages.

Quotes, backslashes, line ends and everything that cannot be shown are written as escapes, so a
quoted text stays on its line and can be told from every other one.
-/

namespace SegmentOffload

/-- The hexadecimal digits of a number, most significant first. -/
def hexDigits (number : Nat) : List Char :=
  if number < 16 then [Nat.digitChar number]
  else hexDigits (number / 16) ++ [Nat.digitChar (number % 16)]

def quotedCharacter (character : Char) : List Char :=
  let code := character.toNat
  if code = 0 then ['\\', '0']
  else if character = '\t' then ['\\', 't']
  else if character = '\r' then ['\\', 'r']
  else if character = '\n' then ['\\', 'n']
  else if character = '\\' ∨ character = '"' then ['\\', character]
  else if (0x20 ≤ code && code < 0x7F) || (0x80 ≤ code && isShown code) then [character]
  else ['\\', 'u', '\x7b'] ++ hexDigits code ++ ['\x7d']

def quoted (text : String) : String :=
  String.ofList ('"' :: text.toList.flatMap quotedCharacter ++ ['"'])

/-- How a character of a path is written between quotes: an apostrophe is escaped too. -/
def quotedPathCharacter (character : Char) : List Char :=
  if character = '\x27' then ['\\', character] else quotedCharacter character

def quotedPath (path : String) : String :=
  String.ofList ('"' :: path.toList.flatMap quotedPathCharacter ++ ['"'])

end SegmentOffload
