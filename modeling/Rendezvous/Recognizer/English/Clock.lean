import Rendezvous.Recognizer.English.Reckoning

/-!
Contract: the phrases that name a time of day.

Owns: the steps of a word for a time of day, of a time with the half of the day, and of
a time on a clock of twenty-four hours.  A time that does not exist moves nothing.
-/

namespace Rendezvous.English

open Pattern

/-- Move to the hour of a word for a time of day, if the word is listed. -/
def evaluateHourWord (word : Text) (reckoning : Reckoning) : Reckoning :=
  match hoursOfDay.find? word with
  | some hour => (reckoning.moveTo (reckoning.stamp.atHour hour)).withTime
  | none => reckoning.withTime

/-- The step of a word for a time of day, or for the present moment. -/
def stepHourWord (text : Text) (reckoning : Reckoning) : Step :=
  match hourWordForm.search text with
  | some found =>
      .ok (some (leave text found, evaluateHourWord (matched text found) reckoning))
  | none =>
      if presentWords.any fun word => word.toList == text then
        .ok (some ([], reckoning.withTime))
      else .ok none

/-- Move to a time of day in numbers, if it exists; the hour 24 has become 0 before. -/
def setClock (reckoning : Reckoning) (hour minute second : Nat) : Reckoning :=
  if h : hour < 24 ∧ minute < 60 ∧ second < 60 then
    (reckoning.moveTo { reckoning.stamp with
      hour := ⟨hour, h.1⟩, minute := ⟨minute, h.2.1⟩, second := ⟨second, h.2.2⟩ }).withTime
  else reckoning

/-- The number that a piece of a match writes, zero if there is none. -/
def numberAt (found : Match Piece) (piece : Piece) : Nat :=
  Text.digitsValue ((found.textOf piece).takeWhile Text.isDigit)

/-- The hour 24 is the hour 0. -/
def hourOfDay (hour : Nat) : Nat :=
  if hour = 24 then 0 else hour

/-- An hour of a half of the day. -/
def hourInHalf (hour : Nat) (half : Option Bool) : Nat :=
  match half with
  | some false => if hour = 12 then 0 else hour
  | some true => if hour < 12 then hour + 12 else hour
  | none => hour

/-- Hours, minutes and seconds as they are read again. -/
def clockText (found : Match Piece) : Text :=
  match found.text? .minutes, found.text? .seconds with
  | some minutes, some seconds =>
      found.textOf .hours ++ ':' :: minutes ++ ':' :: seconds
  | some minutes, none => found.textOf .hours ++ ':' :: minutes
  | none, _ => found.textOf .hours

/-- Move to a time of day with its half. -/
def evaluateHalfDay (piece : Text) (reckoning : Reckoning) : Reckoning :=
  match halfDayForm.search piece.trim with
  | none => reckoning
  | some found =>
      let hour := hourInHalf (hourOfDay (numberAt found .hours))
        (halves.find? (found.textOf .half).lower)
      setClock reckoning hour (numberAt found .minutes) (numberAt found .seconds)

/-- The step of a time of day with its half. -/
def stepHalfDay (text : Text) (reckoning : Reckoning) : Step :=
  match halfDayForm.search text with
  | none => .ok none
  | some found =>
      let piece := besides (clockText found) (found.textOf .half)
      .ok (some (without text found.start found.stop, evaluateHalfDay piece reckoning))

/-- Move to a time of day on a clock of twenty-four hours. -/
def evaluateClock (piece : Text) (reckoning : Reckoning) : Reckoning :=
  match clockForm.search piece.trim with
  | none => reckoning
  | some found =>
      setClock reckoning (hourOfDay (numberAt found .hours)) (numberAt found .minutes)
        (numberAt found .seconds)

/-- Where a time of day on a clock begins and ends. -/
def clockSpan (found : Match Piece) : Nat × Nat :=
  let start := ((found.capture? .hours).map (·.start)).getD found.start
  let stop :=
    match found.capture? .seconds, found.capture? .minutes with
    | some seconds, _ => seconds.stop
    | none, some minutes => minutes.stop
    | none, none => found.stop
  (start, stop)

/-- The step of a time of day on a clock of twenty-four hours. -/
def stepClock (text : Text) (reckoning : Reckoning) : Step :=
  match clockForm.search text with
  | none => .ok none
  | some found =>
      let (start, stop) := clockSpan found
      .ok (some (without text start stop, evaluateClock (clockText found) reckoning))

end Rendezvous.English
