import Rendezvous.Number.Shortest
import Rendezvous.Recognizer.English.Date
import Rendezvous.Recognizer.English.Quantity

/-!
Contract: modifiers, words such as "next" and "before" that place one phrase by another.

Owns: `stepModifier`, which moves the stamp by the unit, the weekday, the time of day or
the phrase behind a modifier, and by the phrase before it.

The phrases around a modifier are reckoned by a function that is passed in, so nothing
here depends on how deep phrases are nested.
-/

namespace Rendezvous.English

open Pattern

/-- How a text is reckoned as a phrase of its own. -/
abbrev Nested := Text → Stamp → Result Reckoning

/-- A modifier between two texts. -/
structure Modified where
  modifier : Text
  offset : Int
  before : Text
  behind : Text
deriving DecidableEq, Repr

/-- The first word behind a modifier, and what stands behind the blank that ends it. -/
def splitUnit (behind : Text) : Text × Text :=
  (behind.takeWhile fun c => !Text.isBlank c,
    (behind.dropWhile fun c => !Text.isBlank c).drop 1)

/-- The stamp a number of days after the beginning of a day. -/
def daysAfter (stamp : Stamp) (hour : Fin 24) (days : Int) : Result Stamp := do
  let start ← (stamp.atHour hour).toMoment
  return .ofMoment { start with day := ← start.day.shift days }

/-- The stamp a number of months after the beginning of the month. -/
def monthsAfter (stamp : Stamp) (months : Int) : Result Stamp := do
  let start ← ({ stamp with day := 1 }.atHour Stamp.dayStart).toMoment
  return .ofMoment (← addMonths start (.ofInt months))

/-- The stamp a number of hours after the beginning of the hour. -/
def hoursAfter (stamp : Stamp) (hours : Int) : Result Stamp := do
  let start ← (stamp.atHour stamp.hour).toMoment
  return .ofMoment (← addMicroseconds start (hours * 3600000000))

/-- Move to the last, this or the next one of a unit. -/
def modifyUnit (unit : TimeUnit) (offset : Int) (reckoning : Reckoning) :
    Result Reckoning := do
  let stamp := reckoning.stamp
  let found := reckoning.withUnit unit
  match unit with
  | .month =>
      if offset = 0 then
        return found.moveTo { stamp.atHour Stamp.dayStart with day := stamp.monthLength }
      else return found.moveTo (← monthsAfter stamp offset)
  | .week =>
      if offset = 0 then
        return found.moveTo (← daysAfter stamp closingHour (4 - (stamp.weekday : Int)))
      else return found.moveTo (← daysAfter stamp Stamp.dayStart (7 * offset))
  | .day =>
      if offset = 0 then return (found.moveTo (stamp.atHour closingHour)).withTime
      else return found.moveTo (← daysAfter stamp Stamp.dayStart offset)
  | .hour =>
      if offset = 0 then return found.moveTo (stamp.atHour stamp.hour)
      else return found.moveTo (← hoursAfter stamp offset)
  | .year =>
      if offset = 0 then return found.moveTo { stamp with month := 12, day := 31 }
      else
        return found.moveTo
          { stamp.atHour Stamp.dayStart with year := stamp.year + offset, month := 1, day := 1 }
  | .minute | .second => return reckoning

/-- Units that a modifier can move by. -/
def modifiableUnit? (word : Text) : Option TimeUnit :=
  (units.find? word).filter fun unit => unit ≠ .minute ∧ unit ≠ .second

/-- Move to the end of the month or of the year, for the modifiers that name it. -/
def modifyToEnd? (modifier : Text) (reckoning : Reckoning) : Option Reckoning :=
  let stamp := reckoning.stamp.atHour Stamp.dayStart
  if modifier = "eom".toList then
    some (reckoning.moveTo { stamp with day := stamp.monthLength }).withDate
  else if modifier = "eoy".toList then
    some (reckoning.moveTo { stamp with month := 12, day := 31 }).withDate
  else none

/-- Move to the hour that a modifier names, if it names one. -/
def modifyToHour (modifier : Text) (reckoning : Reckoning) : Reckoning :=
  match hoursOfDay.find? modifier with
  | some hour => (reckoning.moveTo (reckoning.stamp.atHour hour)).withTime
  | none => reckoning

/-- The end of the day with a weekday. -/
def modifyWeekdayEnd (nested : Nested) (modifier word : Text) (reckoning : Reckoning) :
    Result Reckoning := do
  let found := reckoning.withTime
  let inner ← nested word found.stamp
  return (modifyToHour modifier ((found.moveTo inner.stamp).noting inner)).withDate

/-- Move to a weekday: in the week that the modifier names, or counted from that
weekday by the span that the text before the modifier means.  The text that is left
before the modifier is returned. -/
def modifyWeekday (nested : Nested) (phrase : Modified) (word : Text) (reckoning : Reckoning) :
    Result (Text × Reckoning) := do
  let stamp := reckoning.stamp
  let counts := !(weekModifiers.any fun modifier => modifier.toList == phrase.modifier)
  let weekday ← weekdays.get word
  let days := daysToWeekday stamp.weekday weekday (if counts then 0 else phrase.offset)
  let start ← (stamp.atHour Stamp.dayStart).toMoment
  let target : Moment := { start with day := ← start.day.shift days }
  if counts && !phrase.before.isEmpty then do
    let inner ← nested phrase.before stamp
    let found := reckoning.noting inner
    if inner.evidence.any then do
      let span := (inner.stamp.seconds - stamp.seconds) * phrase.offset
      let moved ← addMicroseconds target (span * 1000000)
      return ([], (found.moveTo (.ofMoment moved)).withDate)
    else return (phrase.before, (found.moveTo (.ofMoment target)).withDate)
  else return (phrase.before, (reckoning.moveTo (.ofMoment target)).withDate)

/-- Move to a time of day, and then by a number of days. -/
def modifyHourWord (nested : Nested) (offset : Int) (unit : Text) (reckoning : Reckoning) :
    Result Reckoning := do
  let inner ← nested unit reckoning.stamp
  let start ← inner.stamp.toMoment
  let day ← start.day.shift offset
  return (reckoning.noting inner).moveTo (.ofMoment { start with day := day })

/-- Move by years if a word is the name of a month. -/
def modifyNamedMonth (offset : Int) (unit : Text) (stamp : Stamp) : Result Stamp :=
  if (months.find? unit.lower).isSome then do
    let start ← stamp.toMoment
    return .ofMoment (← addMonths start (.ofInt (offset * 12)))
  else .ok stamp

/-- Move to what the text behind a modifier means; the text that is left behind the
modifier is returned. -/
def modifyBehind (nested : Nested) (offset : Int) (unit behind : Text)
    (reckoning : Reckoning) : Result (Text × Reckoning) := do
  let word := unit.trim
  if word.isEmpty then return (behind, reckoning)
  else do
    let inner ← nested (besides word behind) reckoning.stamp
    let found := reckoning.noting inner
    let stamp ←
      if inner.evidence.date then modifyNamedMonth offset word inner.stamp
      else .ok inner.stamp
    if inner.evidence.any then return ([], found.moveTo stamp) else return (behind, found)

/-- A text with the product of its last number and a direction in place of that number. -/
def redirect (offset : Int) (text : Text) : Text :=
  match numberForm.searchLast text with
  | none => text
  | some found =>
      let number := (quantityOf (matched text found)).mul (.ofInt offset)
      text.take found.start ++ number.render ++ text.drop found.stop

/-- Move by what the text before a modifier means, in the direction of the modifier. -/
def modifyBefore (nested : Nested) (offset : Int) (before : Text) (reckoning : Reckoning) :
    Result Reckoning := do
  let text := before.trim
  if text.isEmpty then return reckoning
  else do
    let inner ← nested (redirect offset text) reckoning.stamp
    let found := reckoning.noting inner
    return if inner.evidence.any then found.moveTo inner.stamp else found

/-- Take the text before and behind a modifier into account; the text that is left is
returned. -/
def evaluateModifier (nested : Nested) (phrase : Modified) (reckoning : Reckoning) :
    Result (Text × Reckoning) := do
  let (unit, behind) := splitUnit phrase.behind
  match modifiableUnit? unit with
  | some length =>
      return (besides phrase.before behind, ← modifyUnit length phrase.offset reckoning)
  | none =>
  match modifyToEnd? phrase.modifier reckoning with
  | some reached => return (besides phrase.before behind, reached)
  | none =>
  match weekdayForm.matchStart? unit with
  | some found =>
      let word := matched unit found
      if phrase.modifier = "eod".toList then
        return (besides phrase.before behind,
          ← modifyWeekdayEnd nested phrase.modifier word reckoning)
      else do
        let (before, reached) ← modifyWeekday nested phrase word reckoning
        return (besides before behind, reached)
  | none =>
  if phrase.before.isEmpty && behind.isEmpty && (hourWordForm.matchStart? unit).isSome then
    return (besides [] [], ← modifyHourWord nested phrase.offset unit reckoning)
  else do
    let (left, reached) ← modifyBehind nested phrase.offset unit behind reckoning
    let moved ← modifyBefore nested phrase.offset phrase.before reached
    return (besides [] left, modifyToHour phrase.modifier moved)

/-- The step of the first modifier. -/
def stepModifier (nested : Nested) (text : Text) (reckoning : Reckoning) : Step :=
  match modifierForm.search text with
  | none => .ok none
  | some found => do
      let modifier := matched text found
      let offset ← modifiers.get modifier
      return some (← evaluateModifier nested
        { modifier := modifier
          offset := offset
          before := Text.trim (text.take found.start)
          behind := Text.trim (text.drop found.stop) }
        reckoning)

end Rendezvous.English
