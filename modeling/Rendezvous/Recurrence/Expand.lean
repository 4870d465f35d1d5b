import Rendezvous.Calendar.Moment
import Rendezvous.Recurrence.Selector

/-!
Contract: the days of a recurring event between two days.

Owns:
- `Recurrence.walk`, which goes from day to day and gathers the selected ones;
- `Recurrence.daysOn`, the selected days of a range in ascending order;
- `Recurrence.Bound`, a day or a moment as a bound of a range.

The walk over a range ends on the day after its last one, so a range up to the
last day of the calendar is refused unless nothing is selected.
-/

namespace Rendezvous.Recurrence

/-- Go on from `day` as many days as remain, and add the selected ones to those passed so far. -/
def walk (selector : Selector) : Nat → Day → List Day → Result (List Day)
  | 0, _, passed => .ok passed.reverse
  | remaining + 1, day, passed => do
      let next ← day.shift 1
      walk selector remaining next (if selector.selects day then day :: passed else passed)

/-- The days from `start` to `stop` whose weekday is selected. -/
def daysOn (start stop : Day) (selector : Selector) : Result (List Day) :=
  if selector.isEmpty then .ok []
  else walk selector (stop.ordinal + 1 - start.ordinal) start []

/-- The standard texts of the selected days. -/
def datesOn (start stop : Day) (selector : Selector) : Result (List Text) := do
  return (← daysOn start stop selector).map Day.iso

/-- A bound of a range; a moment stands for its day. -/
inductive Bound where
  | day (day : Day)
  | moment (moment : Moment)

/-- The day of a bound. -/
def Bound.toDay : Bound → Day
  | day own => own
  | moment own => own.day

/-- The selected days from one bound to another. -/
def daysBetween (start stop : Bound) (selector : Selector) : Result (List Day) :=
  daysOn start.toDay stop.toDay selector

end Rendezvous.Recurrence
