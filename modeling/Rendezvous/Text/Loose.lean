import Rendezvous.Text.Basic

/-!
Contract: texts in which halves of surrogate pairs may stand alone.

Owns:
- `CodePoint` and `LooseText`;
- the code points that 16-bit units stand for, alone and in pairs;
- the loose text of a text, and the text of a loose text without halves.

Strings of documents are loose texts.  No sequence of bytes encodes a half, so a loose
text with one can be kept and compared, but not be sent.
-/

namespace Rendezvous

/-- A character, or one half of a surrogate pair that stands without the other one. -/
inductive CodePoint where
  | char (c : Char)
  | half (index : Fin 2048)
deriving DecidableEq, Repr

namespace CodePoint

/-- The character of a code point, if it is one. -/
def char? : CodePoint → Option Char
  | .char c => some c
  | .half _ => none

/-- Whether a unit is the first half of a surrogate pair. -/
def isHighHalf (unit : Nat) : Bool :=
  0xD800 ≤ unit && unit ≤ 0xDBFF

/-- Whether a unit is the second half of a surrogate pair. -/
def isLowHalf (unit : Nat) : Bool :=
  0xDC00 ≤ unit && unit ≤ 0xDFFF

/-- The character of a surrogate pair. -/
def ofPair (high low : Nat) : CodePoint :=
  .char (Char.ofNat (0x10000 + (high - 0xD800) * 0x400 + (low - 0xDC00)))

/-- The code point that a unit, or a larger number, stands for by itself. -/
def ofNumber (number : Nat) : CodePoint :=
  if isHighHalf number || isLowHalf number then
    .half ⟨(number - 0xD800) % 2048, Nat.mod_lt _ (by decide)⟩
  else .char (Char.ofNat number)

end CodePoint

/-- A list of code points. -/
abbrev LooseText := List CodePoint

/-- A text as a loose text. -/
def Text.loose (text : Text) : LooseText :=
  text.map CodePoint.char

namespace LooseText

/-- The loose text that units stand for: two halves of a surrogate pair in a row stand
for one character. -/
def ofUnits : List Nat → LooseText
  | [] => []
  | [unit] => [.ofNumber unit]
  | high :: low :: rest =>
      if CodePoint.isHighHalf high && CodePoint.isLowHalf low then
        .ofPair high low :: ofUnits rest
      else .ofNumber high :: ofUnits (low :: rest)

/-- The text of a loose text without halves. -/
def text? : LooseText → Option Text
  | [] => some []
  | .char c :: rest => (text? rest).map (c :: ·)
  | .half _ :: _ => none

/-- Whether a loose text has no halves. -/
def isText (content : LooseText) : Bool :=
  content.text?.isSome

/-- A loose text with the replacement character in place of every half.  Neither is a
letter, a digit or a blank. -/
def withoutHalves (content : LooseText) : Text :=
  content.map fun point => point.char?.getD '\ufffd'

end LooseText

end Rendezvous
