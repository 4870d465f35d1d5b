import Rendezvous.Recognizer.English.Reckoning

/-!
Contract: the phrases that name a day.

Owns: the steps of a date with the name of its month, of a date in numbers, of a day
next to today, and of a weekday.  A date that does not exist moves nothing.
-/

namespace Rendezvous.English

open Pattern

/-- A year of two digits belongs to the century that brings it nearest: up to 49 to the
twenty-first, from 50 on to the twentieth. -/
def fullYear (year : Int) : Int :=
  if year < 50 then year + 2000 else if year < 100 then year + 1900 else year

/-- Move to a date with the name of its month.  Without a day it is the first, and
without a year the next such day. -/
def evaluateWordyDate (piece : Text) (reckoning : Reckoning) : Result Reckoning := do
  let stamp := reckoning.stamp
  match wordyDateForm.search piece.trim.lower with
  | none => .error .unlistedWord
  | some found =>
      let month ← months.get (found.textOf .monthName)
      let day :=
        match found.text? .day with
        | some digits => Text.digitsValue digits
        | none => 1
      let year :=
        match found.text? .year with
        | some digits => fullYear (Text.digitsValue digits)
        | none =>
            if month < stamp.month ∨ (month = stamp.month ∧ day < stamp.day) then
              stamp.year + 1
            else stamp.year
      let target := { stamp with year := year, month := month, day := day }
      if 0 < day ∧ day ≤ target.monthLength then return (reckoning.moveTo target).withDate
      else return reckoning

/-- Where a date with the name of its month ends: at the hours of a time of day that
begins inside its year. -/
def wordyDateStop (text : Text) (found : Match Piece) (date : Capture) : Nat :=
  match found.capture? .year, halfDayForm.search text with
  | some year, some time =>
      match time.capture? .hours with
      | some hours => if hours.start < year.stop then hours.start else date.stop
      | none => date.stop
  | _, _ => date.stop

/-- The step of a date with the name of its month. -/
def stepWordyDate (text : Text) (reckoning : Reckoning) : Step :=
  match wordyDateForm.search text with
  | none => .ok none
  | some found =>
      match found.capture? .date with
      | none => .ok none
      | some date =>
          if date.text = text then do
            return some ([], ← evaluateWordyDate text reckoning)
          else
            let stop := wordyDateStop text found date
            let piece := (text.take stop).drop date.start
            if piece.isEmpty then .ok none
            else do
              return some (without text date.start stop, ← evaluateWordyDate piece reckoning)

/-- The numbers of a date: two or three. -/
structure DateNumbers where
  first : Nat
  second : Nat
  third : Option Nat
deriving DecidableEq, Repr

/-- The numbers that stand between the signs of a date. -/
def dateNumbers (piece : Text) : DateNumbers :=
  let first := piece.takeWhile fun c => !isDateSign c
  let afterFirst := (piece.dropWhile fun c => !isDateSign c).drop 1
  let second := afterFirst.takeWhile fun c => !isDateSign c
  let third := (afterFirst.dropWhile fun c => !isDateSign c).drop 1
  ⟨Text.digitsValue first, Text.digitsValue second,
    if third.isEmpty then none else some (Text.digitsValue third)⟩

/-- The date that numbers write: month, day and year, or year, month and day if the
first number is above 31.  A part that is not written is that of the stamp, but without
a third number the year is the next one if the day would be past. -/
def datedStamp (numbers : DateNumbers) (stamp : Stamp) : Stamp :=
  let (year, month, day) :=
    if numbers.first ≤ 31 then
      ((numbers.third.map fun year => (year : Int)).getD stamp.year, numbers.first,
        numbers.second)
    else ((numbers.first : Int), numbers.second, numbers.third.getD stamp.day)
  let isPast := stamp.month > month || (stamp.month == month && stamp.day > day)
  let reached := if numbers.third.isNone && isPast then year + 1 else year
  { stamp with year := fullYear reached, month := month, day := day }

/-- Move to a date in numbers, if it exists. -/
def evaluateNumericDate (piece : Text) (reckoning : Reckoning) : Reckoning :=
  let target := datedStamp (dateNumbers piece.trim) reckoning.stamp
  if 0 < target.month ∧ target.month ≤ 12 ∧ 0 < target.day ∧ target.day ≤ target.monthLength then
    (reckoning.moveTo target).withDate
  else reckoning

/-- The step of a date in numbers. -/
def stepNumericDate (text : Text) (reckoning : Reckoning) : Step :=
  match (numericDateForm.search text).bind fun found => found.capture? .date with
  | none => .ok none
  | some date =>
      let left := if date.text = text then [] else without text date.start date.stop
      .ok (some (left, evaluateNumericDate date.text reckoning))

/-- Move to the beginning of a day next to today. -/
def evaluateDayWord (word : Text) (reckoning : Reckoning) : Result Reckoning := do
  let start ← (reckoning.stamp.atHour Stamp.dayStart).toMoment
  let day ← start.day.shift ((dayWords.find? word).getD 0)
  return (reckoning.moveTo (.ofMoment { start with day := day })).withDate

/-- The step of a day next to today. -/
def stepDayWord (text : Text) (reckoning : Reckoning) : Step :=
  match dayWordForm.search text with
  | none => .ok none
  | some found => do
      return some (leave text found, ← evaluateDayWord (matched text found) reckoning)

/-- The number of days to a weekday of the week that an offset names. -/
def daysToWeekday (today weekday : Nat) (weeks : Int) : Int :=
  let days := (weekday : Int) - today + 7 * weeks
  if days < -7 then days + 7 else days

/-- Move to the next day with a weekday. -/
def evaluateWeekday (word : Text) (reckoning : Reckoning) : Result Reckoning := do
  let start ← reckoning.stamp.toMoment
  let weekday ← weekdays.get word
  let today := reckoning.stamp.weekday
  let day ← start.day.shift (daysToWeekday today weekday (if today < weekday then 0 else 1))
  return (reckoning.moveTo (.ofMoment { start with day := day })).withDate

/-- The step of a weekday, which moves nothing once a day has been found. -/
def stepWeekday (text : Text) (reckoning : Reckoning) : Step :=
  match weekdayForm.search text with
  | none => .ok none
  | some found =>
      if reckoning.evidence.date then .ok (some (leave text found, reckoning))
      else do
        return some (leave text found, ← evaluateWeekday (matched text found) reckoning)

end Rendezvous.English
