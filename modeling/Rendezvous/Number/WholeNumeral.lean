import Rendezvous.Number.Numeral

/-!
Contract: numerals that write a whole number.

Owns: `WholeNumeral.read`, which reads a numeral in its plain form or, failing that, in
the plain form that is left when everything without meaning is dropped from it.

The plain form is an optional minus sign and digits, which begin with zero only for zero
itself.  Without meaning are blanks around a numeral, a plus sign, leading zeros and low
lines among them, a fraction of zeros, and low lines that stand alone.  A minus sign may
also stand behind the leading zeros, unless there is one before them.
-/

namespace Rendezvous.WholeNumeral

open Numeral

/-- Why a text writes no whole number. -/
inductive Defect where
  | malformed
  | tooLong
deriving DecidableEq, Repr

/-- The sign and the digits of a plain form together are at most this long. -/
def sizeLimit : Nat := 4300

/-- The sign at the beginning of a text, and the rest. -/
def splitMinus : Text → Text × Text
  | '-' :: rest => (['-'], rest)
  | text => ([], text)

/-- The number with these digits and this sign. -/
def signed (minus digits : Text) : Int :=
  if minus.isEmpty then Text.digitsValue digits else -(Text.digitsValue digits : Int)

/-- The number in its plain form.  Too many digits are noticed whatever stands behind
them. -/
def readPlain (text : Text) : Except Defect Int :=
  let (minus, unsigned) := splitMinus text
  let (digits, tail) := scanDigits unsigned
  if digits.isEmpty ∨ (digits.head? = some '0' ∧ digits ≠ ['0']) then .error .malformed
  else if sizeLimit < minus.length + digits.length then .error .tooLong
  else if tail.isEmpty then .ok (signed minus digits)
  else .error .malformed

/-- Whether a character is a digit other than zero. -/
def isLeadingDigit (c : Char) : Bool :=
  '1' ≤ c && c ≤ '9'

/-- What stands behind leading zeros, of which `last` is the last character read.  That
character is kept if nothing or a fraction stands behind it. -/
def behindZeros? (last : Char) : Text → Option Text
  | [] => some [last]
  | c :: rest =>
      if c = '0' ∨ c = '_' then behindZeros? c rest
      else if isLeadingDigit c ∨ c = '-' then some (c :: rest)
      else if c = '.' then some (last :: c :: rest)
      else none

/-- A text that begins with a digit, without leading zeros. -/
def dropZeros? : Text → Option Text
  | [] => none
  | c :: rest =>
      if c = '0' then behindZeros? c rest
      else if isLeadingDigit c then some (c :: rest)
      else none

/-- A text without a fraction of zeros behind its first point. -/
def dropZeroFraction (text : Text) : Text :=
  match text.dropWhile (· ≠ '.') with
  | '.' :: '0' :: zeros => if zeros.all (· == '0') then text.takeWhile (· ≠ '.') else text
  | _ => text

/-- A text with its sign and without a plus sign; nothing if both signs are there. -/
def splitSign? : Text → Option (Text × Text)
  | '+' :: '-' :: _ => none
  | '+' :: rest => some ([], rest)
  | text => some (splitMinus text)

/-- What is left of a numeral without everything that has no meaning. -/
def simplify? (text : Text) : Option Text := do
  let (minus, unsigned) ← splitSign? (trimSurrounding text)
  let significant := dropZeroFraction (← dropZeros? unsigned)
  return minus ++ (withoutLowLines? significant).getD significant

/-- The whole number that a numeral writes. -/
def read (text : Text) : Except Defect Int :=
  match readPlain text with
  | .error .malformed =>
      match simplify? text with
      | some simplified => readPlain simplified
      | none => .error .malformed
  | result => result

end Rendezvous.WholeNumeral
