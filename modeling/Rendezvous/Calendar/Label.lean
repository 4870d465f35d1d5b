import Rendezvous.Calendar.Week

/-!
Contract: the texts under which days are shown.

Owns:
- `Day.label`: "Fri Jan 10";
- `Day.labelWithYear`: "Fri Jan 10, 2025";
- `Day.fullLabel`: "Friday, January 10, 2025".

Days and years are written without leading zeros.
-/

namespace Rendezvous

/-- The full names of the months, January first. -/
def monthNames : List Text :=
  ["January".toList, "February".toList, "March".toList, "April".toList, "May".toList,
    "June".toList, "July".toList, "August".toList, "September".toList, "October".toList,
    "November".toList, "December".toList]

/-- The full name of a month counted from 1. -/
def monthName (month : Nat) : Text :=
  monthNames.getD (month - 1) []

/-- The short name of a month: the first three letters. -/
def monthAbbreviation (month : Nat) : Text :=
  (monthName month).take 3

namespace Day

/-- Weekday, month and day, the first two in short form. -/
def label (day : Day) : Text :=
  day.weekday.abbreviation ++ ' ' :: monthAbbreviation day.month
    ++ ' ' :: Text.ofNat day.dayOfMonth

/-- The label of a day with its year. -/
def labelWithYear (day : Day) : Text :=
  day.label ++ ", ".toList ++ Text.ofNat day.year

/-- Weekday, month, day and year with full names. -/
def fullLabel (day : Day) : Text :=
  Weekday.name day.weekday ++ ", ".toList ++ monthName day.month
    ++ ' ' :: Text.ofNat day.dayOfMonth ++ ", ".toList ++ Text.ofNat day.year

end Day

end Rendezvous
