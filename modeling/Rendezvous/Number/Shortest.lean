import Rendezvous.Number.Binary64

/-!
Contract: the decimal text of a double-precision number.

Owns:
- `shortestDigits`: the fewest decimal digits that read back as the number and,
  among those, the nearest to it (of two equally near ones the even one);
- `Binary64.render`: positional from 0.0001 to below 10 ^ 16 with at least one
  digit behind the point, and with an exponent of at least two digits elsewhere.
-/

namespace Rendezvous.Binary64

/-- A positive value `units * 2 ^ exponent` with the limits of the reals that round
to it, all as numerators over one denominator.  The limits belong to the reals in
question when `closed` holds. -/
structure RoundingInterval where
  value : Nat
  lower : Nat
  upper : Nat
  denominator : Nat
  closed : Bool
deriving DecidableEq, Repr

/-- The reals that round to `significand * 2 ^ exponent`: half a step to each side,
and half of that below a power of two, where the step changes. -/
def roundingInterval (significand : Nat) (exponent : Int) : RoundingInterval :=
  let below :=
    if significand = significandBound / 2 ∧ leastExponent < exponent then 1 else 2
  let quarter := exponent - 2
  let factor := powerOfTwo quarter.toNat
  { value := 4 * significand * factor
    lower := (4 * significand - below) * factor
    upper := (4 * significand + 2) * factor
    denominator := powerOfTwo (-quarter).toNat
    closed := significand % 2 = 0 }

namespace RoundingInterval

/-- Compare `candidate * 10 ^ exponent` with a numerator over the denominator. -/
def compareDecimal (interval : RoundingInterval) (candidate : Nat) (exponent : Int)
    (numerator : Nat) : Ordering :=
  compare (candidate * powerOfTen exponent.toNat * interval.denominator)
    (numerator * powerOfTen (-exponent).toNat)

/-- Whether `candidate * 10 ^ exponent` reads back as the value. -/
def readsBack (interval : RoundingInterval) (candidate : Nat) (exponent : Int) : Bool :=
  match interval.compareDecimal candidate exponent interval.lower,
      interval.compareDecimal candidate exponent interval.upper with
  | .gt, .lt => true
  | .eq, _ | _, .eq => interval.closed
  | _, _ => false

/-- The last multiple of `10 ^ exponent` not above the value, as a count. -/
def gridFloor (interval : RoundingInterval) (exponent : Int) : Nat :=
  interval.value * powerOfTen (-exponent).toNat / (interval.denominator * powerOfTen exponent.toNat)

/-- Of the value's two neighbours on a decimal grid, the one that reads back; of
two such neighbours the nearer, and of two equally near ones the even. -/
def onGrid? (interval : RoundingInterval) (exponent : Int) : Option Nat :=
  let low := interval.gridFloor exponent
  let high := low + 1
  match interval.readsBack low exponent, interval.readsBack high exponent with
  | false, false => none
  | true, false => some low
  | false, true => some high
  | true, true =>
      match interval.compareDecimal (low + high) exponent (2 * interval.value) with
      | .gt => some low
      | .lt => some high
      | .eq => some (if low % 2 = 0 then low else high)

/-- How often a value below one has to be multiplied by ten to reach one. -/
def leadingZeros (value denominator : Nat) : Nat → Nat
  | 0 => 0
  | fuel + 1 =>
      if denominator ≤ value then 0
      else leadingZeros (value * 10) denominator fuel + 1

/-- The exponent of the value's first decimal digit. -/
def firstExponent (interval : RoundingInterval) : Int :=
  let size := interval.value / interval.denominator
  if 0 < size then ((Nat.repr size).length : Int) - 1
  else -(leadingZeros interval.value interval.denominator 400 : Int)

/-- Try decimal grids with one digit more at each step. -/
def search (interval : RoundingInterval) (exponent : Int) : Nat → Nat × Int
  | 0 => (interval.gridFloor exponent, exponent)
  | more + 1 =>
      match interval.onGrid? exponent with
      | some candidate => (candidate, exponent)
      | none => search interval (exponent - 1) more

end RoundingInterval

/-- The shortest decimal `digits * 10 ^ exponent` that reads back as a positive
number; seventeen digits always do. -/
def shortestDigits (significand : Nat) (exponent : Int) : Nat × Int :=
  let interval := roundingInterval significand exponent
  interval.search interval.firstExponent 17

/-- Drop the zeros at the end of a list of digits. -/
def dropFinalZeros (digits : Text) : Text :=
  Text.dropEndWhile (· == '0') digits

/-- Digits with the point behind the first `point` of them, filled up with zeros
on either side. -/
def renderPositional (digits : Text) (point : Int) : Text :=
  if point ≤ 0 then
    '0' :: '.' :: (List.replicate (-point).toNat '0' ++ digits)
  else
    let whole := digits.take point.toNat
    let behind := digits.drop point.toNat
    whole ++ List.replicate (point.toNat - digits.length) '0'
      ++ '.' :: (if behind.isEmpty then ['0'] else behind)

/-- Digits with the point behind the first one and a power of ten. -/
def renderScientific (digits : Text) (power : Int) : Text :=
  let mantissa :=
    match digits with
    | first :: second :: rest => first :: '.' :: second :: rest
    | _ => digits
  mantissa ++ 'e' :: (if power < 0 then '-' else '+') :: Text.ofNatPadded 2 power.natAbs

/-- The text of the digits `digits * 10 ^ exponent`. -/
def renderDecimal (digits : Nat) (exponent : Int) : Text :=
  let written := Text.ofNat digits
  let point := (written.length : Int) + exponent
  let kept := dropFinalZeros written
  if -4 < point ∧ point ≤ 16 then renderPositional kept point
  else renderScientific kept (point - 1)

/-- The text of a number: its shortest decimal, or its name. -/
def render : Binary64 → Text
  | nan => "nan".toList
  | infinite negative => if negative then "-inf".toList else "inf".toList
  | finite negative significand exponent =>
      let magnitude :=
        if significand = 0 then "0.0".toList
        else
          let shortest := shortestDigits significand exponent
          renderDecimal shortest.1 shortest.2
      if negative then '-' :: magnitude else magnitude

end Rendezvous.Binary64
