/-!
Contract: years, months and days of the Gregorian calendar as numbers.

Owns:
- leap years and the lengths of the months;
- the count of days before a year and before a month;
- the passage from a count of days to year, month and day, and back.

The calendar is extended to all years from 1 on; day 0 is 1 January of year 1.
Nothing here bounds the years: `Calendar.Day` does.
-/

namespace Rendezvous

/-- Whether a year has a 29 February. -/
def isLeapYear (year : Nat) : Bool :=
  year % 4 == 0 && (year % 100 != 0 || year % 400 == 0)

/-- The lengths of the months of a year, January first. -/
def monthLengths (year : Nat) : List Nat :=
  [31, if isLeapYear year then 29 else 28, 31, 30, 31, 30, 31, 31, 30, 31, 30, 31]

/-- The length of a month counted from 1; zero for a number that is no month. -/
def monthLength (year month : Nat) : Nat :=
  if month = 0 then 0 else (monthLengths year).getD (month - 1) 0

/-- The number of days before 1 January of a year. -/
def daysBeforeYear (year : Nat) : Nat :=
  let past := year - 1
  past * 365 + past / 4 - past / 100 + past / 400

/-- The number of days of a year before the first of a month. -/
def daysBeforeMonth (year month : Nat) : Nat :=
  ((monthLengths year).take (month - 1)).foldr (· + ·) 0

/-- A day as year, month and day of the month, each counted from 1. -/
structure CivilDate where
  year : Nat
  month : Nat
  day : Nat
deriving DecidableEq, Repr

namespace CivilDate

/-- The number of days before a date. -/
def dayIndex (date : CivilDate) : Nat :=
  daysBeforeYear date.year + daysBeforeMonth date.year date.month + (date.day - 1)

/-- The year in which a day lies, and the number of days before it in that year.

Four centuries have 146097 days, a century 36524 with the surplus day in the last
of four, four years 1461, and a year 365 with the surplus day in the last of four. -/
def splitYear (index : Nat) : Nat × Nat :=
  let inCycle := index % 146097
  let century := min (inCycle / 36524) 3
  let inCentury := inCycle - century * 36524
  let inQuartet := inCentury % 1461
  let inner := min (inQuartet / 365) 3
  (index / 146097 * 400 + century * 100 + inCentury / 1461 * 4 + inner + 1,
    inQuartet - inner * 365)

/-- The number of whole months before a day of the year, and the days left over. -/
def splitMonth : List Nat → Nat → Nat × Nat
  | [], days => (0, days)
  | length :: others, days =>
      if days < length then (0, days)
      else
        let later := splitMonth others (days - length)
        (later.1 + 1, later.2)

/-- The date of a day. -/
def ofDayIndex (index : Nat) : CivilDate :=
  let inYear := splitYear index
  let inMonth := splitMonth (monthLengths inYear.1) inYear.2
  ⟨inYear.1, inMonth.1 + 1, inMonth.2 + 1⟩

end CivilDate

end Rendezvous
