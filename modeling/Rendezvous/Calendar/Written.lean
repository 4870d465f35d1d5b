import Rendezvous.Calendar.Day
import Rendezvous.Number.Numeral

/-!
Contract: the ways in which a document can name a day.

Owns:
- the text "YYYY-MM-DD", alone or followed by the midnight with which the day begins,
  in any time zone;
- counts of seconds, or of milliseconds if they are large, since the beginning of
  1970, as numbers and as numerals, which have to fall on midnight.

Does not own: the standard text of a day and its variants (`Calendar.Iso`).
-/

namespace Rendezvous.Day

/-! ## Counts since 1970 -/

/-- The number of 1 January 1970. -/
def epochOrdinal : Int := 719163

/-- Counts above this are milliseconds. -/
def secondsLimit : Nat := 20000000000

/-- The day that begins after a count of seconds. -/
def ofSeconds? (seconds : Int) : Option Day :=
  if seconds % 86400 = 0 then ofOrdinal? (epochOrdinal + seconds / 86400) else none

/-- The day that begins after a count of seconds or milliseconds. -/
def ofCount? (count : Int) : Option Day :=
  if count.natAbs ≤ secondsLimit then ofSeconds? count
  else if count % 1000 = 0 then ofSeconds? (count / 1000)
  else none

/-- A count in seconds: a large one counts milliseconds. -/
def secondsOf (count : Binary64) : Binary64 :=
  let limit := Binary64.ofInt secondsLimit
  if limit.less count || count.less (.ofInt (-secondsLimit)) then count.divide 1000 else count

/-- The day that begins after a count that need not be whole, but has to be so after it
is rounded to a millionth of a second. -/
def ofRealCount? (count : Binary64) : Option Day := do
  let (seconds, rest) ← (secondsOf count).floor?
  let millionths ← (rest.mul (.ofInt 1000000)).roundUp?
  if millionths = 0 then ofSeconds? seconds
  else if millionths = 1000000 then ofSeconds? (seconds + 1)
  else none

/-- Whether a number fits into 64 bits with a sign. -/
def fitsWord (value : Int) : Bool :=
  -(powerOfTwo 63 : Int) ≤ value && value < (powerOfTwo 63 : Int)

/-- The day that a numeral counts. -/
def ofNumeralCount? (text : Text) : Option Day :=
  let (negative, unsigned) := Numeral.scanSign text
  let (digits, tail) := Numeral.scanDigits unsigned
  let magnitude : Int := Text.digitsValue digits
  let count := if negative then -magnitude else magnitude
  if !fitsWord count then none
  else
    match tail with
    | [] => if digits.isEmpty then none else ofCount? count
    | '.' :: _ => (Numeral.plain? text).bind ofRealCount?
    | _ => none

/-! ## Dates with a midnight -/

/-- The day "YYYY-MM-DD" at the beginning of a text, and the rest. -/
def takeDate? (text : Text) : Option (Day × Text) := do
  let part := text.take 10
  let digits (start count : Nat) : Option Nat :=
    let piece := (part.drop start).take count
    if piece.length = count ∧ piece.all Numeral.isAsciiDigit then some (Text.digitsValue piece)
    else none
  let year ← digits 0 4
  let month ← digits 5 2
  let day ← digits 8 2
  if part[4]? = some '-' ∧ part[7]? = some '-' then
    match ofCivil year month day with
    | .ok found => some (found, text.drop 10)
    | .error _ => none
  else none

/-- Whether a text is a time zone: the letter for the prime meridian, or an offset of
less than a day, or nothing. -/
def isZone : Text → Bool
  | [] => true
  | ['Z'] | ['z'] => true
  | sign :: h₁ :: h₂ :: rest =>
      let minutes := match rest with
        | ':' :: digits => digits
        | digits => digits
      ['+', '-', '\u2212'].contains sign && minutes.length == 2
        && (h₁ :: h₂ :: minutes).all Numeral.isAsciiDigit
        && Text.digitsValue minutes < 60 && Text.digitsValue [h₁, h₂] < 24
  | _ => false

/-- Whether a text is the fraction of a second, down to the millionth zero, and a zone. -/
def isZeroFraction (text : Text) : Bool :=
  let (digits, zone) := Numeral.scanDigits text
  !digits.isEmpty && (digits.take 6).all (· == '0') && isZone zone

/-- Whether a text is a midnight with a zone. -/
def isMidnight : Text → Bool
  | '0' :: '0' :: ':' :: '0' :: '0' :: ':' :: '0' :: '0' :: '.' :: fraction
  | '0' :: '0' :: ':' :: '0' :: '0' :: ':' :: '0' :: '0' :: ',' :: fraction =>
      isZeroFraction fraction
  | '0' :: '0' :: ':' :: '0' :: '0' :: ':' :: '0' :: '0' :: zone => isZone zone
  | '0' :: '0' :: ':' :: '0' :: '0' :: zone => isZone zone
  | _ => false

/-- The day of a date, alone or with a midnight behind it. -/
def ofDated? (text : Text) : Option Day := do
  let (day, rest) ← takeDate? text
  match rest with
  | [] => some day
  | separator :: clock =>
      if ['T', 't', ' ', '_'].contains separator && isMidnight clock then some day else none

/-- The day that a text names in a document. -/
def ofWritten? (text : Text) : Option Day :=
  match ofDated? text with
  | some day => some day
  | none => ofNumeralCount? text

end Rendezvous.Day
