import Rendezvous.Text.Digit
import Rendezvous.Text.Printable

/-!
Contract: texts shown between quotation marks in error messages.

Owns:
- the choice of the mark: single marks, unless the text has a single mark and no
  double one;
- the escapes of the mark, the backslash and every character that is not printable.

A quoted text is a single line, and different texts have different quoted forms.
-/

namespace Rendezvous.Text

/-- The quotation mark that surrounds a text. -/
def quotationMark (text : Text) : Char :=
  if text.contains '\x27' && !text.contains '"' then '"' else '\x27'

/-- A number in at least `width` hexadecimal digits. -/
def hexPadded (width value : Nat) : Text :=
  let digits := Nat.toDigits 16 value
  List.replicate (width - digits.length) '0' ++ digits

/-- One character of a quoted text. -/
def quotedCharacter (mark c : Char) : Text :=
  if c = mark ∨ c = '\\' then ['\\', c]
  else if c = '\n' then ['\\', 'n']
  else if c = '\r' then ['\\', 'r']
  else if c = '\t' then ['\\', 't']
  else if isPrintable c then [c]
  else if c.toNat < 0x100 then '\\' :: 'x' :: hexPadded 2 c.toNat
  else if c.toNat < 0x10000 then '\\' :: 'u' :: hexPadded 4 c.toNat
  else '\\' :: 'U' :: hexPadded 8 c.toNat

/-- A text between quotation marks. -/
def quoted (text : Text) : Text :=
  let mark := quotationMark text
  mark :: text.flatMap (quotedCharacter mark) ++ [mark]

end Rendezvous.Text
