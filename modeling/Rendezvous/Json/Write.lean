import Rendezvous.Json.Value
import Rendezvous.Number.Shortest
import Rendezvous.Text.Quoted

/-!
Contract: writing a document.

Owns: `Json.write`, one line without blanks.  Marks, backslashes and control
characters in strings are escaped; numbers that are not finite have names.
Halves of surrogate pairs are written as escapes.
-/

namespace Rendezvous.Json

/-- One character of a string. -/
def writeCharacter (c : Char) : Text :=
  if c = '"' ∨ c = '\\' then ['\\', c]
  else if c.toNat < 0x20 then '\\' :: 'u' :: Text.hexPadded 4 c.toNat
  else [c]

/-- One code point of a string. -/
def writePoint : CodePoint → Text
  | .char c => writeCharacter c
  | .half index => '\\' :: 'u' :: Text.hexPadded 4 (0xD800 + index.val)

/-- A string between its marks. -/
def writeString (content : LooseText) : Text :=
  '"' :: content.flatMap writePoint ++ ['"']

/-- A number that is not whole by its form. -/
def writeReal : Binary64 → Text
  | .nan => "NaN".toList
  | .infinite negative => if negative then "-Infinity".toList else "Infinity".toList
  | value => value.render

mutual

/-- A value on one line. -/
def write : Json → Text
  | .null => "null".toList
  | .bool value => if value then "true".toList else "false".toList
  | .integer value => Text.ofInt value
  | .real value => writeReal value
  | .string content => writeString content
  | .array items => '[' :: writeItems items ++ [']']
  | .object members => '\x7b' :: writeMembers members ++ ['\x7d']

/-- Items separated by commas. -/
def writeItems : List Json → Text
  | [] => []
  | [item] => write item
  | item :: others => write item ++ ',' :: writeItems others

/-- Members separated by commas. -/
def writeMembers : List (LooseText × Json) → Text
  | [] => []
  | [(name, value)] => writeString name ++ ':' :: write value
  | (name, value) :: others =>
      writeString name ++ ':' :: write value ++ ',' :: writeMembers others

end

end Rendezvous.Json
