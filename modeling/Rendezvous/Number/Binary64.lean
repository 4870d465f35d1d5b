import Rendezvous.Number.Power
import Rendezvous.Text.Digit

/-!
Contract: double-precision numbers as exact values.

Owns:
- `Binary64`: a finite value is a significand times a power of two, so every
  comparison and product is arithmetic on whole numbers;
- `ofRatio`, the one place where a value is rounded: to the nearest
  representable number, a tie to the one with the even significand;
- order (nothing is comparable with `nan`), product, and whole part.

Does not own: decimal text (`Number.Numeral` reads it, `Number.Shortest` writes it).
-/

namespace Rendezvous

/-- A double-precision number.  The value of `finite negative significand exponent`
is `significand * 2 ^ exponent`, with the sign given by `negative`. -/
inductive Binary64 where
  | nan
  | infinite (negative : Bool)
  | finite (negative : Bool) (significand : Nat) (exponent : Int)
deriving DecidableEq, Repr

namespace Binary64

/-- Significands are below this bound. -/
def significandBound : Nat := powerOfTwo 53

/-- The exponent of the numbers next to zero. -/
def leastExponent : Int := -1074

/-- The exponent of the largest numbers. -/
def greatestExponent : Int := 971

/-- Zero, with a sign. -/
def zero (negative : Bool) : Binary64 :=
  finite negative 0 leastExponent

/-- The quotient of two whole numbers rounded to the nearest one, a half to the
even neighbour. -/
def roundEven (numerator denominator : Nat) : Nat :=
  let quotient := numerator / denominator
  let twice := 2 * (numerator % denominator)
  if twice < denominator then quotient
  else if denominator < twice then quotient + 1
  else if quotient % 2 = 0 then quotient else quotient + 1

/-- Numerator and denominator of `numerator / denominator / 2 ^ exponent`. -/
def scaled (numerator denominator : Nat) (exponent : Int) : Nat × Nat :=
  if 0 ≤ exponent then (numerator, denominator * powerOfTwo exponent.toNat)
  else (numerator * powerOfTwo (-exponent).toNat, denominator)

/-- The exponent at which a positive ratio is rounded: the one that gives the
significand 53 bits, but not below the least one. -/
def roundingExponent (numerator denominator : Nat) : Int :=
  let low := max ((Nat.log2 numerator : Int) - Nat.log2 denominator - 53) leastExponent
  let wide := scaled numerator denominator low
  if wide.1 / wide.2 < significandBound then low else low + 1

/-- The number nearest to a ratio with a sign; the denominator is positive. -/
def ofRatio (negative : Bool) (numerator denominator : Nat) : Binary64 :=
  if numerator = 0 then zero negative
  else
    let exponent := roundingExponent numerator denominator
    let ratio := scaled numerator denominator exponent
    let significand := roundEven ratio.1 ratio.2
    let carried := significand = significandBound
    let exponent := if carried then exponent + 1 else exponent
    let significand := if carried then significandBound / 2 else significand
    if greatestExponent < exponent then infinite negative
    else finite negative significand exponent

/-- The number nearest to `significand * 2 ^ exponent`, with a sign. -/
def ofScaled (negative : Bool) (significand : Nat) (exponent : Int) : Binary64 :=
  if 0 ≤ exponent then ofRatio negative (significand * powerOfTwo exponent.toNat) 1
  else ofRatio negative significand (powerOfTwo (-exponent).toNat)

/-- The number nearest to a whole number. -/
def ofInt (value : Int) : Binary64 :=
  ofRatio (decide (value < 0)) value.natAbs 1

/-- The number nearest to `digits * 10 ^ exponent`, with a sign.  Exponents far
outside the range of finite numbers are recognized by the count of digits. -/
def ofDecimal (negative : Bool) (digits : Nat) (exponent : Int) : Binary64 :=
  if digits = 0 then zero negative
  else
    let magnitude := ((Nat.repr digits).length : Int) + exponent
    if 330 < magnitude then infinite negative
    else if magnitude < -340 then zero negative
    else if 0 ≤ exponent then ofRatio negative (digits * powerOfTen exponent.toNat) 1
    else ofRatio negative digits (powerOfTen (-exponent).toNat)

/-! ## Order -/

/-- The whole number `significand * 2 ^ (exponent - base)` with its sign, for a
`base` not above the exponent. -/
def signedAt (base : Int) (negative : Bool) (significand : Nat) (exponent : Int) : Int :=
  let magnitude : Nat := significand * powerOfTwo (exponent - base).toNat
  if negative then -(magnitude : Int) else magnitude

/-- The order of two numbers; `nan` is not comparable with any. -/
def order? : Binary64 → Binary64 → Option Ordering
  | nan, _ | _, nan => none
  | infinite true, infinite true => some .eq
  | infinite true, _ => some .lt
  | infinite false, infinite false => some .eq
  | infinite false, _ => some .gt
  | finite .., infinite true => some .gt
  | finite .., infinite false => some .lt
  | finite leftNegative leftSignificand leftExponent,
      finite rightNegative rightSignificand rightExponent =>
      let base := min leftExponent rightExponent
      some (compare (signedAt base leftNegative leftSignificand leftExponent)
        (signedAt base rightNegative rightSignificand rightExponent))

/-- Whether a number is less than another; never so with `nan`. -/
def less (left right : Binary64) : Bool :=
  left.order? right == some .lt

/-- Whether a number is at least another; never so with `nan`. -/
def atLeast (left right : Binary64) : Bool :=
  match left.order? right with
  | some .gt | some .eq => true
  | _ => false

/-! ## Arithmetic -/

/-- The product, rounded to the nearest number. -/
def mul : Binary64 → Binary64 → Binary64
  | nan, _ | _, nan => nan
  | infinite left, infinite right => infinite (left != right)
  | infinite left, finite right significand _ =>
      if significand = 0 then nan else infinite (left != right)
  | finite left significand _, infinite right =>
      if significand = 0 then nan else infinite (left != right)
  | finite left leftSignificand leftExponent, finite right rightSignificand rightExponent =>
      ofScaled (left != right) (leftSignificand * rightSignificand)
        (leftExponent + rightExponent)

/-- The whole part, rounded toward zero; nothing for numbers that are not finite. -/
def whole? : Binary64 → Option Int
  | finite negative significand exponent =>
      let magnitude : Nat :=
        if 0 ≤ exponent then significand * powerOfTwo exponent.toNat
        else significand / powerOfTwo (-exponent).toNat
      some (if negative then -(magnitude : Int) else magnitude)
  | _ => none

/-- The exact value as a ratio with a positive denominator; nothing for numbers that are
not finite. -/
def ratio? : Binary64 → Option (Int × Nat)
  | finite negative significand exponent =>
      if 0 ≤ exponent then
        some (signedAt 0 negative significand exponent, 1)
      else some (signedAt exponent negative significand exponent, powerOfTwo (-exponent).toNat)
  | _ => none

/-- The greatest whole number that is not above a number, and the rest, rounded to the
nearest number. -/
def floor? (value : Binary64) : Option (Int × Binary64) :=
  value.ratio?.map fun (numerator, denominator) =>
    (numerator / denominator, ofRatio false (numerator % denominator).toNat denominator)

/-- The quotient of a number and a positive whole number, rounded to the nearest number. -/
def divide (value : Binary64) (divisor : Nat) : Binary64 :=
  match value with
  | finite negative _ _ =>
      match value.ratio? with
      | some (numerator, denominator) =>
          ofRatio negative numerator.natAbs (denominator * divisor)
      | none => value
  | _ => value

/-- The nearest whole number to a number that is not negative, a half going up. -/
def roundUp? (value : Binary64) : Option Nat :=
  value.ratio?.map fun (numerator, denominator) =>
    (2 * numerator.toNat + denominator) / (2 * denominator)

/-- What the whole part leaves over, with the sign of the number. -/
def fraction : Binary64 → Binary64
  | finite negative significand exponent =>
      if 0 ≤ exponent then zero negative
      else ofScaled negative (significand % powerOfTwo (-exponent).toNat) exponent
  | _ => zero false

/-- Whether a number has no fraction; not so for numbers that are not finite. -/
def isWhole : Binary64 → Bool
  | finite _ significand exponent =>
      decide (0 ≤ exponent) || significand % powerOfTwo (-exponent).toNat == 0
  | _ => false

/-- Whether a number is zero, of either sign. -/
def isZero : Binary64 → Bool
  | finite _ significand _ => significand == 0
  | _ => false

/-- Whether a number is neither infinite nor `nan`. -/
def isFinite : Binary64 → Bool
  | finite .. => true
  | _ => false

end Binary64

end Rendezvous
