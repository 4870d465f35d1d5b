import Rendezvous.Calendar.Month
import Rendezvous.Calendar.Moment
import Rendezvous.Number.Binary64
import Rendezvous.Recognizer.English.Lexicon

/-!
Contract: moments in the making, and spans of time.

Owns:
- `Stamp`, a date and a time of day as they are read, together with a weekday.  The
  date need not exist, and the weekday is that of the moment the reading began with
  until the stamp is reckoned anew;
- the moment of a stamp, and the stamp of a moment;
- steps by a quantity of a unit.  Seconds to weeks are spans of fixed length, rounded
  to the microsecond; months and years keep the day of the month where they can.
-/

namespace Rendezvous.English

/-- A date and a time of day as they are read. -/
structure Stamp where
  year : Int
  month : Nat
  day : Nat
  hour : Fin 24
  minute : Fin 60
  second : Fin 60
  /-- The weekday, counted from Monday. -/
  weekday : Nat
deriving DecidableEq, Repr

namespace Stamp

/-- The stamp of a moment; the parts of a second are dropped. -/
def ofMoment (moment : Moment) : Stamp :=
  let date := moment.day.civil
  { year := date.year
    month := date.month
    day := date.day
    hour := moment.clock.hour
    minute := moment.clock.minute
    second := moment.clock.second
    weekday := (moment.day.ordinal + 6) % 7 }

/-- The moment of a stamp, if its date exists. -/
def toMoment (stamp : Stamp) : Result Moment := do
  let day ← Day.ofCivil stamp.year stamp.month stamp.day
  return ⟨day, ⟨stamp.hour, stamp.minute, stamp.second, ⟨0, by decide⟩⟩⟩

/-- The same date at a full hour. -/
def atHour (stamp : Stamp) (hour : Fin 24) : Stamp :=
  { stamp with hour := hour, minute := ⟨0, by decide⟩, second := ⟨0, by decide⟩ }

/-- The hour at which days begin that are named without a time. -/
def dayStart : Fin 24 := ⟨9, by decide⟩

/-- The number of seconds from a fixed moment, also for years outside the calendar. -/
def seconds (stamp : Stamp) : Int :=
  let past := stamp.year - 1
  let days := past * 365 + past / 4 - past / 100 + past / 400
    + daysBeforeMonth stamp.year.natAbs stamp.month + stamp.day
  ((days * 24 + stamp.hour.val) * 60 + stamp.minute.val) * 60 + stamp.second.val

/-- The length of the month of a stamp. -/
def monthLength (stamp : Stamp) : Nat :=
  Rendezvous.monthLength stamp.year.natAbs stamp.month

end Stamp

/-! ## Spans of fixed length -/

/-- The number of microseconds in a day. -/
def microsecondsPerDay : Int := 86400000000

/-- The moment a number of microseconds later. -/
def addMicroseconds (moment : Moment) (span : Int) : Result Moment :=
  let total : Int := moment.day.ordinal * microsecondsPerDay + moment.clock.microseconds + span
  let inDay := (total % microsecondsPerDay).toNat
  match Day.ofOrdinal? (total / microsecondsPerDay) with
  | none => .error .outOfCalendar
  | some day =>
      .ok ⟨day,
        { hour := ⟨inDay / 3600000000 % 24, Nat.mod_lt _ (by decide)⟩
          minute := ⟨inDay / 60000000 % 60, Nat.mod_lt _ (by decide)⟩
          second := ⟨inDay / 1000000 % 60, Nat.mod_lt _ (by decide)⟩
          microsecond := ⟨inDay % 1000000, Nat.mod_lt _ (by decide)⟩ }⟩

/-- The number of microseconds in a unit of fixed length. -/
def TimeUnit.microseconds? : TimeUnit → Option Nat
  | .second => some 1000000
  | .minute => some 60000000
  | .hour => some 3600000000
  | .day => some 86400000000
  | .week => some 604800000000
  | .month | .year => none

/-- A whole number and a fraction of one, rounded to a whole number, a half to the
even neighbour. -/
def roundOnto (whole : Int) : Binary64 → Int
  | .finite negative significand exponent =>
      let unit := powerOfTwo (-exponent).toNat
      let twice := 2 * significand
      let outward : Int := if negative then -1 else 1
      if twice < unit then whole
      else if unit < twice then whole + outward
      else if whole % 2 = 0 then whole else whole + outward
  | _ => whole

/-- The number of microseconds in a quantity of a unit; nothing for quantities that are
not finite.  The whole part of the quantity counts exactly, and the fraction through
its product with the length of the unit. -/
def spanOf? (quantity : Binary64) (unit : Nat) : Option Int := do
  let whole ← quantity.whole?
  let part := quantity.fraction.mul (.ofInt unit)
  let partWhole ← part.whole?
  return roundOnto (whole * unit + partWhole) part.fraction

/-- The moment a quantity of a unit of fixed length later. -/
def addSpan (moment : Moment) (quantity : Binary64) (unit : Nat) : Result Moment :=
  match spanOf? quantity unit with
  | some span => addMicroseconds moment span
  | none => .error .outOfCalendar

/-! ## Months -/

/-- A number of months as years and months.  The years are the quotient by twelve
rounded to a double-precision number and then toward zero, which is exact for every
number of months that leads to a day of the calendar. -/
def splitMonths (months : Int) : Int × Int :=
  let years := ((Binary64.ofRatio (decide (months < 0)) months.natAbs 12).whole?).getD 0
  (years, months - years * 12)

/-- The moment a number of months later.  The day is the last of the month where the
month is too short, and a fraction of a month counts as that part of the month's days. -/
def addMonths (moment : Moment) (quantity : Binary64) : Result Moment := do
  let some months := quantity.whole? | .error .outOfCalendar
  let date := moment.day.civil
  let (years, rest) := splitMonths months
  let shifted := (date.month : Int) + rest
  let carry : Int := if shifted < 1 then -1 else if 12 < shifted then 1 else 0
  let month := shifted - carry * 12
  let year := date.year + years + carry
  let length := if 1 ≤ month then Rendezvous.monthLength year.natAbs month.toNat else 0
  if !quantity.isZero ∧ length = 0 then .error .unsplittableMonths
  else if year < 1 ∨ 9999 < year then .error .outOfCalendar
  else do
    let dayOfMonth := if quantity.isZero then date.day else min date.day length
    let day ← Day.ofCivil year month dayOfMonth
    let reached : Moment := ⟨day, moment.clock⟩
    if quantity.isWhole then return reached
    else addSpan reached (quantity.fraction.mul (.ofInt length)) 86400000000

/-- The moment a quantity of a unit later. -/
def addQuantity (moment : Moment) (quantity : Binary64) (unit : TimeUnit) : Result Moment :=
  match unit.microseconds? with
  | some length => addSpan moment quantity length
  | none =>
      addMonths moment (if unit = .year then quantity.mul (.ofInt 12) else quantity)

end Rendezvous.English
