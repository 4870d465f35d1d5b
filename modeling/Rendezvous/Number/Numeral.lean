import Rendezvous.Number.Binary64

/-!
Contract: decimal numerals in ASCII and the numbers they write.

Owns:
- `scanDigits`, the run of digits at the beginning of a text;
- `Binary64.ofNumeral?`: sign, digits with an optional point, optional power of
  ten, or one of the names of the numbers that are not finite.  Low lines may stand
  between the characters of a numeral, each of them alone.

Does not own: numerals of whole numbers (`Number.WholeNumeral`).
-/

namespace Rendezvous

namespace Numeral

/-- The digits zero to nine. -/
def isAsciiDigit (c : Char) : Bool :=
  '0' ≤ c && c ≤ '9'

/-- The digits at the beginning of a text, and the rest. -/
def scanDigits (text : Text) : Text × Text :=
  (text.takeWhile isAsciiDigit, text.dropWhile isAsciiDigit)

/-- Whether the text begins with a minus sign, and what stands behind a sign. -/
def scanSign : Text → Bool × Text
  | '-' :: rest => (true, rest)
  | '+' :: rest => (false, rest)
  | text => (false, text)

/-- Blanks that may surround a numeral: all but the four information separators. -/
def isSurrounding (c : Char) : Bool :=
  Text.isBlank c && !(0x1C ≤ c.toNat && c.toNat ≤ 0x1F)

/-- A text without the blanks around it. -/
def trimSurrounding (text : Text) : Text :=
  Text.dropEndWhile isSurrounding (text.dropWhile isSurrounding)

/-- Whether two low lines are neighbours. -/
def hasDoubledLowLine : Text → Bool
  | '_' :: '_' :: _ => true
  | _ :: rest => hasDoubledLowLine rest
  | [] => false

/-- A text without its low lines, if each of them stands alone inside the text. -/
def withoutLowLines? (text : Text) : Option Text :=
  if text.head? = some '_' ∨ text.getLast? = some '_' ∨ hasDoubledLowLine text then none
  else some (text.filter (· ≠ '_'))

/-- The power of ten at the end of a numeral; nothing if the text is no such power. -/
def exponent? : Text → Option Int
  | [] => some 0
  | c :: rest =>
      if c = 'e' ∨ c = 'E' then
        let (negative, unsigned) := scanSign rest
        let (digits, trailing) := scanDigits unsigned
        if digits.isEmpty ∨ !trailing.isEmpty then none
        else some (if negative then -(Text.digitsValue digits : Int) else Text.digitsValue digits)
      else none

/-- The names of the numbers that are not finite. -/
def named? (negative : Bool) (text : Text) : Option Binary64 :=
  let name := text.map Char.toLower
  if name = "inf".toList ∨ name = "infinity".toList then some (.infinite negative)
  else if name = "nan".toList then some .nan
  else none

/-- The number that digits with an optional point and power of ten write. -/
def unsigned? (negative : Bool) (text : Text) : Option Binary64 :=
  let (whole, afterWhole) := scanDigits text
  let (behind, tail) :=
    match afterWhole with
    | '.' :: rest => scanDigits rest
    | _ => ([], afterWhole)
  if whole.isEmpty ∧ behind.isEmpty then named? negative text
  else
    (exponent? tail).map fun exponent =>
      Binary64.ofDecimal negative (Text.digitsValue (whole ++ behind))
        (exponent - behind.length)

/-- The number that a numeral writes, without low lines or blanks around it. -/
def plain? (text : Text) : Option Binary64 :=
  let (negative, unsigned) := scanSign text
  unsigned? negative unsigned

end Numeral

open Numeral

/-- The number that a numeral writes.  Around a numeral with low lines no blanks may
stand. -/
def Binary64.ofNumeral? (text : Text) : Option Binary64 :=
  match plain? (trimSurrounding text) with
  | some number => some number
  | none => (withoutLowLines? text).bind plain?

end Rendezvous
