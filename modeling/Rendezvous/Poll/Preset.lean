import Rendezvous.Calendar.Month
import Rendezvous.Recurrence.Expand

/-!
Contract: the ready-made lists of days a poll can start from.

Owns:
- the coming weekends, this weekend, and the weekends of a quarter;
- the selected days of whole months.

Every list is reckoned from a given day and is ascending.  The first of the coming weekends is
found by `seek`, from day to day; for this weekend `onOrAfter` reckons it from the weekday.
-/

namespace Rendezvous.Poll

/-- The days of a weekend, with or without its Friday. -/
def weekendSelector (withFriday : Bool) : Selector :=
  if withFriday then Selector.longWeekend else Selector.weekend

/-- The weekday with which a weekend begins. -/
def weekendStart (withFriday : Bool) : Weekday :=
  if withFriday then 5 else 6

/-- Go on from `day` to a day with a weekday, the days that remain being those up to the last
one of the calendar. -/
def seek (weekday : Weekday) : Nat → Day → Result Day
  | 0, _ => .error .outOfCalendar
  | remaining + 1, day =>
      if day.weekday = weekday then .ok day
      else do
        let next ← day.shift 1
        seek weekday remaining next

/-- The first day on or after `today` with a weekday. -/
def onOrAfter (weekday : Weekday) (today : Day) : Result Day :=
  today.shift ((weekday.val + 7 - today.weekday.val) % 7 : Nat)

/-- The days of a list before the first day of the group after the `count`-th one,
where groups begin on a weekday. -/
def takeGroups (weekday : Weekday) (count : Int) : List Day → List Day
  | [] => []
  | day :: rest =>
      if day.weekday = weekday then
        if count ≤ 0 then [] else day :: takeGroups weekday (count - 1) rest
      else day :: takeGroups weekday count rest

/-- The next `count` weekends, beginning with the one that starts on or after today. -/
def nextWeekends (count : Int) (withFriday : Bool) (today : Day) : Result (List Day) := do
  let start ← seek (weekendStart withFriday) (lastOrdinal + 1 - today.ordinal) today
  let stop ← start.shift (count * 7)
  let days ← Recurrence.daysOn start stop (weekendSelector withFriday)
  return takeGroups (weekendStart withFriday) count days

/-- The weekend that starts on or after today, up to its Sunday. -/
def thisWeekend (withFriday : Bool) (today : Day) : Result (List Day) := do
  let start ← onOrAfter (weekendStart withFriday) today
  let stop ← onOrAfter 0 start
  Recurrence.daysOn start stop (weekendSelector withFriday)

/-- The selected days of `monthCount` whole months, the first of them `monthsAhead`
months after the month of today. -/
def wholeMonths (selector : Selector) (monthsAhead monthCount : Int) (today : Day) :
    Result (List Day) := do
  let start ← (← today.firstOfMonth).addMonths monthsAhead
  let stop ← (← start.addMonths monthCount).shift (-1)
  Recurrence.daysOn start stop selector

/-- The weekends, Fridays included, of this month and the two after it. -/
def quarterlyWeekends (today : Day) : Result (List Day) := do
  let start ← today.firstOfMonth
  let stop ← (← start.addMonths 3).shift (-1)
  Recurrence.daysOn start stop Selector.longWeekend

end Rendezvous.Poll
