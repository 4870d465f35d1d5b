import Rendezvous.Ascending
import Rendezvous.Calendar.Civil
import Rendezvous.Fault

/-!
Contract: the days that can be proposed, 1 January of year 1 to 31 December of
year 9999.

Owns:
- `Day`, a count of days within these limits, so that every day is valid;
- its date, its order, its weekday and the step by a number of days;
- the days from one day to another, and sorted lists of days without repetitions.

Weekdays are counted from Sunday.  Since 1 January of year 1 is a Monday and has
the number 1, the weekday of a day is its number modulo 7.
-/

namespace Rendezvous

/-- A weekday; Sunday is 0 and Saturday 6. -/
abbrev Weekday := Fin 7

/-- The number of the last day of the calendar. -/
def lastOrdinal : Nat := 3652059

/-- A day, counted from 1 January of year 1, which has the number 1. -/
structure Day where
  ordinal : Nat
  first_le : 1 ≤ ordinal
  le_last : ordinal ≤ lastOrdinal
deriving DecidableEq

namespace Day

instance : LE Day := ⟨fun left right => left.ordinal ≤ right.ordinal⟩

instance : LT Day := ⟨fun left right => left.ordinal < right.ordinal⟩

instance (left right : Day) : Decidable (left ≤ right) :=
  inferInstanceAs (Decidable (left.ordinal ≤ right.ordinal))

instance (left right : Day) : Decidable (left < right) :=
  inferInstanceAs (Decidable (left.ordinal < right.ordinal))

/-- The first day of the calendar. -/
def first : Day := ⟨1, by decide, by decide⟩

/-- The last day of the calendar. -/
def last : Day := ⟨lastOrdinal, by decide, by decide⟩

instance : Inhabited Day := ⟨first⟩

/-- The day with a number, if the calendar has it. -/
def ofOrdinal? (ordinal : Int) : Option Day :=
  if h : 1 ≤ ordinal.toNat ∧ ordinal.toNat ≤ lastOrdinal then some ⟨ordinal.toNat, h.1, h.2⟩
  else none

/-- The day a number of days later, or earlier for a negative number. -/
def shift (day : Day) (days : Int) : Result Day :=
  match ofOrdinal? (day.ordinal + days) with
  | some shifted => .ok shifted
  | none => .error .outOfCalendar

/-- The weekday of a day. -/
def weekday (day : Day) : Weekday :=
  ⟨day.ordinal % 7, Nat.mod_lt _ (by decide)⟩

/-! ## Dates -/

/-- The date of a day. -/
def civil (day : Day) : CivilDate :=
  CivilDate.ofDayIndex (day.ordinal - 1)

/-- The year of a day. -/
def year (day : Day) : Nat := day.civil.year

/-- The month of a day, January being 1. -/
def month (day : Day) : Nat := day.civil.month

/-- The day of the month. -/
def dayOfMonth (day : Day) : Nat := day.civil.day

/-- The day of a date; the year is checked first, then the month, then the day. -/
def ofCivil (year month day : Int) : Result Day :=
  if year < 1 ∨ 9999 < year then .error (.yearOutOfRange year)
  else if month < 1 ∨ 12 < month then .error .monthOutOfRange
  else if day < 1 ∨ (monthLength year.toNat month.toNat : Int) < day then .error .dayOutOfMonth
  else
    let date : CivilDate := ⟨year.toNat, month.toNat, day.toNat⟩
    match ofOrdinal? (date.dayIndex + 1) with
    | some found => .ok found
    | none => .error .dayOutOfMonth

/-! ## Lists of days -/

/-- The days from one day to another, both included, in ascending order. -/
def range (start stop : Day) : List Day :=
  (List.range' start.ordinal (stop.ordinal + 1 - start.ordinal)).filterMap
    fun (ordinal : Nat) => ofOrdinal? (ordinal : Int)

/-- The days of a list in ascending order, each once. -/
def sorted (days : List Day) : List Day :=
  ascending (fun left right => decide (left ≤ right)) days

end Day

end Rendezvous
