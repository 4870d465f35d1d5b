import Rendezvous.Calendar.Day

/-!
Contract: weeks, which run from Sunday to Saturday, and the names of weekdays.

Owns:
- `Day.weekBounds`: the Sunday and the Saturday of the week of a day;
- the short and the full names of weekdays.
-/

namespace Rendezvous

namespace Weekday

/-- The full names of the weekdays, Sunday first. -/
def names : List Text :=
  ["Sunday".toList, "Monday".toList, "Tuesday".toList, "Wednesday".toList,
    "Thursday".toList, "Friday".toList, "Saturday".toList]

/-- The short names of the weekdays, Sunday first. -/
def abbreviations : List Text :=
  ["Sun".toList, "Mon".toList, "Tue".toList, "Wed".toList, "Thu".toList, "Fri".toList,
    "Sat".toList]

/-- The full name of a weekday. -/
def name (weekday : Weekday) : Text :=
  names.getD weekday.val []

/-- The short name of the weekday with a number; empty if no weekday has it. -/
def abbreviationAt (index : Int) : Text :=
  if index < 0 then [] else abbreviations.getD index.toNat []

/-- The short name of a weekday. -/
def abbreviation (weekday : Weekday) : Text :=
  abbreviationAt weekday.val

end Weekday

namespace Day

/-- The Sunday and the Saturday of the week of a day. -/
def weekBounds (day : Day) : Result (Day × Day) := do
  let start ← day.shift (-day.weekday.val)
  let stop ← start.shift 6
  return (start, stop)

end Day

end Rendezvous
