import Rendezvous.Calendar.Day

/-!
Contract: steps by whole months and the bounds of a month.

Owns:
- `Day.addMonths`: the same day of another month, or the last one of that month
  if it is shorter;
- `Day.monthBounds`: the first and the last day of the month of a day.

The last day of a month is found as the day before the first of the next month, so
the last month of the calendar has no bounds.
-/

namespace Rendezvous.Day

/-- Years that fit a signed 32-bit number are named when they lie outside the calendar. -/
def isNameableYear (year : Int) : Bool :=
  -2147483648 ≤ year && year ≤ 2147483647

/-- Why a year is not in the calendar. -/
def yearFault (year : Int) : Fault :=
  if isNameableYear year then .yearOutOfRange year else .outOfCalendar

/-- The number of the month of a day, counted from January of year 0. -/
def monthIndex (day : Day) : Int :=
  day.year * 12 + (day.month - 1 : Int)

/-- The day a number of months later, or earlier for a negative number: with the
same day of the month, or the last one if the month is shorter. -/
def addMonths (day : Day) (months : Int) : Result Day :=
  let index := day.monthIndex + months
  let year := index / 12
  let month := index % 12 + 1
  if year < 1 ∨ 9999 < year then .error (yearFault year)
  else
    let length := monthLength year.toNat month.toNat
    ofCivil year month (min day.dayOfMonth length : Nat)

/-- The first day of the month of a day. -/
def firstOfMonth (day : Day) : Result Day :=
  ofCivil day.year day.month 1

/-- The first and the last day of the month of a day. -/
def monthBounds (day : Day) : Result (Day × Day) := do
  let start ← day.firstOfMonth
  let next ← start.addMonths 1
  let stop ← next.shift (-1)
  return (start, stop)

end Rendezvous.Day
