import Rendezvous.Calendar.Moment

/-!
Contract: instants, moments that may carry a time zone, and their standard texts.

Owns:
- `Instant`; one with a time zone is not comparable with one without;
- `WrittenClock`, the parts of a written time of day, which need not be in range;
- `Instant.ofIso`, the reading of a day, or of a day and a time of day with any
  character between them and an optional time zone behind.

Hours, minutes and seconds have two digits each; the minutes and seconds may be left
out.  A colon behind the hours asks for colons between the others.  A point or a comma
behind any of them begins a fraction of a second, and behind the seconds so does whatever
stands between the other parts.
-/

namespace Rendezvous

/-- The parts of a written time of day, whatever their size, and whether the text ends
behind them. -/
structure WrittenClock where
  hour : Nat
  minute : Nat
  second : Nat
  microsecond : Nat
  isWhole : Bool
deriving DecidableEq, Repr

namespace WrittenClock

/-- A fraction of a second in microseconds, and whether the text ends behind it.  Further
digits are dropped; six digits at least stand before anything else. -/
def readFraction? (text : Text) : Option (Nat × Bool) :=
  let (digits, rest) := Numeral.scanDigits text
  if digits.isEmpty ∨ (digits.length < 6 ∧ !rest.isEmpty) then none
  else some (Text.digitsValue (digits.take 6) * powerOfTen (6 - digits.length), rest.isEmpty)

/-- The text of the next part, behind a colon where colons are due. -/
def behindSeparator? : Bool → Text → Option Text
  | true, ':' :: rest => some rest
  | true, _ => none
  | false, text => some text

/-- Up to `count` parts of two digits, the fraction behind them in microseconds, and
whether the text ends there.  One ASCII character may be left over behind a part. -/
def readParts? (colons : Bool) : Nat → Text → Option (List Nat × Nat × Bool)
  | 0, text => do
      let (microsecond, isWhole) ← readFraction? text
      return ([], microsecond, isWhole)
  | count + 1, text => do
      let (part, rest) ← Day.takeDigits? 2 text
      match rest with
      | [] => return ([part], 0, true)
      | [c] => if c.toNat < 128 then return ([part], 0, false) else none
      | c :: fraction =>
          if c = '.' ∨ c = ',' then
            let (microsecond, isWhole) ← readFraction? fraction
            return ([part], microsecond, isWhole)
          else
            let (parts, behind) ← readParts? colons count (← behindSeparator? colons rest)
            return (part :: parts, behind)

/-- The parts of the time of day that a text writes. -/
def read? (text : Text) : Option WrittenClock := do
  let (parts, microsecond, isWhole) ← readParts? (text[2]? == some ':') 3 text
  return ⟨parts.getD 0 0, parts.getD 1 0, parts.getD 2 0, microsecond, isWhole⟩

/-- The number of microseconds that the parts stand for. -/
def microseconds (written : WrittenClock) : Nat :=
  ((written.hour * 60 + written.minute) * 60 + written.second) * 1000000
    + written.microsecond

/-- The time of day with these parts. -/
def clock (written : WrittenClock) : Result Clock :=
  if hour : written.hour < 24 then
    if minute : written.minute < 60 then
      if second : written.second < 60 then
        .ok ⟨⟨written.hour, hour⟩, ⟨written.minute, minute⟩, ⟨written.second, second⟩,
          ⟨written.microsecond % 1000000, Nat.mod_lt _ (by decide)⟩⟩
      else .error .secondOutOfRange
    else .error .minuteOutOfRange
  else .error .hourOutOfRange

end WrittenClock

/-- A moment that may carry a time zone. -/
structure Instant where
  moment : Moment
  hasZone : Bool
deriving DecidableEq

namespace Instant

/-- Where the day ends in a text that writes an instant.  The form of the day shows in
the characters behind the year; digits behind a week without hyphens are a weekday if
otherwise one digit would be left over. -/
def dayLength (text : Text) : Nat :=
  if text.byteSize = 7 then 7
  else if text[4]? = some '-' then
    if text[5]? = some 'W' then
      if text[8]? = some '-' ∧ !(text[10]?.any Numeral.isAsciiDigit) then 10 else 8
    else 10
  else if text[4]? = some 'W' then
    let stop := 7 + (Numeral.scanDigits (text.drop 7)).1.length
    if stop < 9 then stop else if stop % 2 = 0 then 7 else 8
  else 8

/-- How far a time zone lies east of the prime meridian, in microseconds: the letter of
the meridian, or a sign and a time. -/
def readZone? : Text → Option Int
  | [] => none
  | ['Z'] => some 0
  | sign :: offset => do
      let written ← WrittenClock.read? offset
      if !written.isWhole then none
      else if sign = '+' then return written.microseconds
      else if sign = '-' then return -written.microseconds
      else none

/-- The time of day and the time zone behind a day; midnight and none behind a day that
stands alone.  Something may be left over before a time zone, but not at the end. -/
def readClock? : Text → Option (WrittenClock × Option Int)
  | [] => some (⟨0, 0, 0, 0, true⟩, none)
  | _ :: text => do
      let clockText := text.takeWhile fun c => c ≠ '+' ∧ c ≠ '-' ∧ c ≠ 'Z'
      let written ← WrittenClock.read? clockText
      let zoneText := text.drop clockText.length
      if zoneText.isEmpty then
        if written.isWhole then return (written, none) else none
      else return (written, some (← readZone? zoneText))

/-- A time zone less than a day from the prime meridian. -/
def checkZone (offset : Int) : Result Unit :=
  if offset.natAbs < 86400000000 then .ok () else .error (.zoneTooFar offset)

/-- The instant that a text writes. -/
def ofIso (text : Text) : Result Instant :=
  let length := dayLength text
  match Day.ofIso (text.take length), readClock? (text.drop length) with
  | .error (.malformedDay _), _ | _, none => .error (.malformedDay text)
  | day, some (written, zone) => do
      zone.forM checkZone
      let moment : Moment := ⟨← day, ← written.clock⟩
      return ⟨moment, zone.isSome⟩

end Instant

end Rendezvous
