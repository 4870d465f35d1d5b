import Rendezvous.Calendar.Instant
import Rendezvous.Calendar.Label
import Rendezvous.Event

/-!
Contract: what speaks against putting an event to a vote.

Owns:
- `Objection`, one constructor for each rule that an event can break, and its wording;
- the objections to an event at a moment, in a fixed order, and `Event.verdict`.

A day counts as past once its midnight is.  Midnights have no time zone, so they are not
comparable with a moment that has one.
-/

namespace Rendezvous

/-- A rule that an event breaks. -/
inductive Objection where
  | shortTitle
  | longTitle
  | noDays
  | manyDays
  | pastDay
deriving DecidableEq, Repr

namespace Objection

/-- Titles have at least this many characters. -/
def leastTitle : Nat := 3

/-- Titles have at most this many characters. -/
def greatestTitle : Nat := 100

/-- Events have at most this many days. -/
def greatestCount : Nat := 50

/-- The wording of an objection. -/
def wording : Objection → Text
  | shortTitle => "Event title must be at least 3 characters".toList
  | longTitle => "Event title must be less than 100 characters".toList
  | noDays => "At least one date must be specified".toList
  | manyDays => "Maximum of 50 dates allowed".toList
  | pastDay => "All dates must be in the future".toList

/-- All objections in the order in which they are reported. -/
def all : List Objection := [shortTitle, longTitle, noDays, manyDays, pastDay]

/-- Whether an objection stands against an event at a moment. -/
def standsAgainst (event : Event) (now : Moment) : Objection → Bool
  | shortTitle => event.title.length < leastTitle
  | longTitle => greatestTitle < event.title.length
  | noDays => event.days.isEmpty
  | manyDays => greatestCount < event.days.length
  | pastDay => event.days.any fun day => (Moment.midnight day).isBefore now

end Objection

namespace Event

/-- The objections to an event at a moment. -/
def objections (event : Event) (now : Moment) : List Objection :=
  Objection.all.filter (Objection.standsAgainst event now)

/-- The objections to an event at an instant, which has to be comparable with the days
of the event. -/
def verdict (event : Event) (now : Instant) : Result (List Objection) :=
  if now.hasZone ∧ !event.days.isEmpty then .error .incomparableMoments
  else .ok (event.objections now.moment)

/-- The days of an event as they are shown to voters. -/
def labels (event : Event) : List Text :=
  event.days.map Day.labelWithYear

end Event

end Rendezvous
