import Rendezvous.Text.Basic

/-!
Contract: decimal digits of every script and the numbers they write.

Owns:
- the value of one digit (`digitValue?`), whatever its script;
- the number that a run of digits denotes (`digitsValue`), most significant first.

Every script has its ten digits in a row, so the zeros alone describe the set.
-/

namespace Rendezvous.Text

/-- The digit zero of every script beyond ASCII. -/
def zeroDigits : List Nat := [
  0x660, 0x6F0, 0x7C0, 0x966, 0x9E6, 0xA66, 0xAE6, 0xB66, 0xBE6,
  0xC66, 0xCE6, 0xD66, 0xDE6, 0xE50, 0xED0, 0xF20, 0x1040, 0x1090, 0x17E0,
  0x1810, 0x1946, 0x19D0, 0x1A80, 0x1A90, 0x1B50, 0x1BB0, 0x1C40, 0x1C50, 0xA620,
  0xA8D0, 0xA900, 0xA9D0, 0xA9F0, 0xAA50, 0xABF0, 0xFF10, 0x104A0, 0x10D30, 0x11066,
  0x110F0, 0x11136, 0x111D0, 0x112F0, 0x11450, 0x114D0, 0x11650, 0x116C0, 0x11730, 0x118E0,
  0x11950, 0x11C50, 0x11D50, 0x11DA0, 0x16A60, 0x16AC0, 0x16B50, 0x1D7CE, 0x1D7D8, 0x1D7E2,
  0x1D7EC, 0x1D7F6, 0x1E140, 0x1E2F0, 0x1E950, 0x1FBF0]

/-- The value of a decimal digit, or nothing for any other character. -/
def digitValue? (c : Char) : Option Nat :=
  let code := c.toNat
  if code < 128 then
    if 48 ≤ code ∧ code ≤ 57 then some (code - 48) else none
  else
    (zeroDigits.find? fun first => decide (first ≤ code ∧ code < first + 10)).map (code - ·)

/-- Decimal digits of any script. -/
def isDigit (c : Char) : Bool :=
  (digitValue? c).isSome

/-- The number that a run of digits denotes; characters that are no digits count as zero. -/
def digitsValue (digits : Text) : Nat :=
  digits.foldl (fun value c => value * 10 + (digitValue? c).getD 0) 0

/-- The ASCII digit of a value below ten. -/
def digitOf (value : Nat) : Char :=
  Char.ofNat (48 + value % 10)

/-- A number in decimal digits, without leading zeros. -/
def ofNat (value : Nat) : Text :=
  (Nat.toDigits 10 value)

/-- A number in decimal digits, a minus sign in front of a negative one. -/
def ofInt : Int → Text
  | .ofNat value => ofNat value
  | .negSucc value => '-' :: ofNat (value + 1)

/-- A number in at least `width` digits, filled up with leading zeros. -/
def ofNatPadded (width value : Nat) : Text :=
  let digits := ofNat value
  List.replicate (width - digits.length) '0' ++ digits

end Rendezvous.Text
