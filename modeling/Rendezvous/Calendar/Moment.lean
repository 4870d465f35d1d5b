import Rendezvous.Calendar.Iso

/-!
Contract: moments, a day with a time of day down to the microsecond.

Owns:
- `Moment`, its order, and the midnight with which a day begins;
- the time of day on a twelve-hour clock;
- the standard text of a moment.
-/

namespace Rendezvous

/-- A time of day. -/
structure Clock where
  hour : Fin 24
  minute : Fin 60
  second : Fin 60
  microsecond : Fin 1000000
deriving DecidableEq, Repr

/-- The beginning of a day. -/
def Clock.midnight : Clock := ⟨0, 0, 0, 0⟩

/-- The number of microseconds since midnight. -/
def Clock.microseconds (clock : Clock) : Nat :=
  ((clock.hour.val * 60 + clock.minute.val) * 60 + clock.second.val) * 1000000
    + clock.microsecond.val

/-- A time of day on a twelve-hour clock, as in "7:05 PM". -/
def Clock.display (clock : Clock) : Text :=
  let hour := clock.hour.val % 12
  Text.ofNat (if hour = 0 then 12 else hour) ++ ':' :: Text.ofNatPadded 2 clock.minute.val
    ++ (if clock.hour.val < 12 then " AM".toList else " PM".toList)

/-- A moment of the calendar. -/
structure Moment where
  day : Day
  clock : Clock
deriving DecidableEq

namespace Moment

/-- The moment with which a day begins. -/
def midnight (day : Day) : Moment := ⟨day, .midnight⟩

/-- Whether a moment comes before another. -/
def isBefore (left right : Moment) : Bool :=
  left.day < right.day ||
    (left.day == right.day && left.clock.microseconds < right.clock.microseconds)

/-- A moment without the parts of its second. -/
def wholeSeconds (moment : Moment) : Moment :=
  ⟨moment.day, { moment.clock with microsecond := 0 }⟩

/-- The standard text of a moment; the parts of a second are left out when zero. -/
def iso (moment : Moment) : Text :=
  let clock := moment.clock
  moment.day.iso ++ 'T' :: Text.ofNatPadded 2 clock.hour.val
    ++ ':' :: Text.ofNatPadded 2 clock.minute.val
    ++ ':' :: Text.ofNatPadded 2 clock.second.val
    ++ (if clock.microsecond.val = 0 then []
      else '.' :: Text.ofNatPadded 6 clock.microsecond.val)

end Moment

end Rendezvous
