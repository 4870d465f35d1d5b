import Rendezvous.Calendar.Month
import Rendezvous.Phrase.Grammar
import Rendezvous.Phrase.Title
import Rendezvous.Recognizer.Extract
import Rendezvous.Recurrence.Expand

/-!
Contract: the days, times and title that a description means.

Owns:
- `Draft`, what is read off a description, and by which form of phrase;
- the meaning of each form of phrase;
- the meaning of a description without such a phrase, which is that of the dates
  and times mentioned in it.

Days are reckoned from the day of a given moment.  Times are those mentioned behind
the phrase, and the title is what stands before it.
-/

namespace Rendezvous

open Pattern

/-- What is read off a description. -/
structure Draft where
  /-- The form of phrase, or nothing where only mentions count. -/
  phrase : Option Phrase
  days : List Day
  times : List Text
  title : Option Text
deriving DecidableEq

namespace Draft

/-- The name of the form that a draft was read by. -/
def formName (draft : Draft) : Text :=
  match draft.phrase with
  | some phrase => phrase.name
  | none => "generic".toList

end Draft

namespace Phrase

/-- The times mentioned behind a phrase. -/
def timesAfter (recognizer : Recognizer) (text : Text) (found : Match Part) (now : Moment) :
    Result (List Text) := do
  return Mention.times (← recognizer.extract (text.drop found.stop) now)

/-- The draft of a phrase that means the given days. -/
def draftOf (phrase : Phrase) (recognizer : Recognizer) (text : Text) (found : Match Part)
    (now : Moment) (days : List Day) : Result Draft := do
  let times ← timesAfter recognizer text found now
  return ⟨some phrase, days, times, Title.before? text found.start⟩

/-! ## Weekends of the next weeks or months -/

/-- The last day of a number of weeks or months from today on. -/
def horizon (unit : Text) (count : Nat) (today : Day) : Result Day :=
  if unit.lower.beginsWith "month".toList then today.addMonths count
  else today.shift (count * 7)

/-- The days of "weekends for the next 3 months". -/
def weekendsNextDays (found : Match Part) (today : Day) : Result (List Day) := do
  let count ← (found.textOf .count).readDigits
  let stop ← horizon (found.textOf .unit) count today
  Recurrence.daysOn today stop Selector.weekend

/-! ## Weekdays of this or the next week or month -/

/-- The period that a timeframe names, and the one after it. -/
structure Periods where
  start : Day
  stop : Day
  nextStart : Day
  nextStop : Day

/-- This month from today on, or the next one, and the month after it. -/
def monthPeriods (isThis : Bool) (today : Day) : Result Periods := do
  let anchor ← if isThis then .ok today else today.addMonths 1
  let bounds ← anchor.monthBounds
  let next ← (← anchor.addMonths 1).monthBounds
  return ⟨if isThis then today else bounds.1, bounds.2, next.1, next.2⟩

/-- This week or the next one, and the week after it. -/
def weekPeriods (isThis : Bool) (today : Day) : Result Periods := do
  let anchor ← if isThis then .ok today else today.shift 7
  let bounds ← anchor.weekBounds
  let next ← (← anchor.shift 7).weekBounds
  return ⟨bounds.1, bounds.2, next.1, next.2⟩

/-- The periods that the pieces of a phrase name. -/
def periods (found : Match Part) (today : Day) : Result Periods :=
  let isThis := (found.textOf .timeframe).lower == "this".toList
  if (found.textOf .unit).lower == "month".toList then monthPeriods isThis today
  else weekPeriods isThis today

/-- The days of "every friday and saturday this and next week". -/
def everyDayThisNextDays (found : Match Part) (today : Day) : Result (List Day) := do
  let selector := Selector.ofText (found.textOf .days)
  let spans ← periods found today
  let days ← Recurrence.daysOn spans.start spans.stop selector
  if (found.text? .andNext).isSome then
    let further ← Recurrence.daysOn spans.nextStart spans.nextStop selector
    return Day.sorted (days ++ further)
  else return days

/-! ## Days of a month -/

/-- The weekdays that a kind of day names. -/
def selectorOf (kind : Text) : Selector :=
  let lowered := kind.lower
  if lowered.beginsWith "weekend".toList then Selector.weekend
  else if lowered.beginsWith "weekday".toList then Selector.workdays
  else if Text.dropEndWhile (· == 's') lowered = "day".toList then Selector.everyDay
  else Selector.ofText lowered

/-- The year for a month without a year: the recognizer moves the current month to
the next year once its first day is over, which is taken back here. -/
def impliedYear (now resolved : Moment) : Nat :=
  if resolved.day.month = now.day.month ∧ resolved.day.year = now.day.year + 1 then now.day.year
  else resolved.day.year

/-- The first day of the month that a phrase names, if the recognizer knows the month. -/
def namedMonth (recognizer : Recognizer) (found : Match Part) (now : Moment) :
    Result (Option Day) := do
  match ← recognizer.resolve (found.textOf .month) now with
  | none => return none
  | some resolved =>
      let year ← match found.text? .year with
        | some digits => digits.readDigits
        | none => .ok (impliedYear now resolved)
      return some (← Day.ofCivil year resolved.day.month 1)

/-- The days of "every weekend in december". -/
def daysInMonth (recognizer : Recognizer) (found : Match Part) (now : Moment) :
    Result (List Day) := do
  match ← namedMonth recognizer found now with
  | none => return []
  | some start =>
      let bounds ← start.monthBounds
      Recurrence.daysOn bounds.1 bounds.2 (selectorOf (found.textOf .kind))

/-! ## Drafts -/

/-- The days that a phrase means. -/
def days (phrase : Phrase) (recognizer : Recognizer) (found : Match Part) (now : Moment) :
    Result (List Day) :=
  match phrase with
  | weekendsNext => weekendsNextDays found now.day
  | everyDayThisNext => everyDayThisNextDays found now.day
  | everyInMonth | pluralDaysInMonth => daysInMonth recognizer found now

/-- The draft of a description with a phrase. -/
def draft (phrase : Phrase) (recognizer : Recognizer) (text : Text) (found : Match Part)
    (now : Moment) : Result Draft := do
  let days ← phrase.days recognizer found now
  phrase.draftOf recognizer text found now days

end Phrase

namespace Draft

/-- The draft of a description with no phrase for a recurring event: the days and
times it mentions, and what stands before the first mention as the title. -/
def ofMentions (recognizer : Recognizer) (text : Text) (now : Moment) : Result Draft := do
  let mentions := (← recognizer.extract text now).filter fun mention => !mention.isVague
  match mentions with
  | [] => return ⟨none, [], [], none⟩
  | first :: _ =>
      let (days, times) := Mention.gather mentions
      return ⟨none, days, times, Title.distinctive? text first.start⟩

/-- The draft of a description. -/
def ofText (recognizer : Recognizer) (text : Text) (now : Moment) : Result Draft :=
  match Phrase.first? text with
  | some (phrase, found) => phrase.draft recognizer text found now
  | none => ofMentions recognizer text now

end Draft

end Rendezvous
