import Rendezvous.Calendar.Day
import Rendezvous.Number.Numeral

/-!
Contract: the standard text of a day.

Owns:
- `Day.iso`: year, month and day in four, two and two digits, with hyphens;
- `Day.ofIso`: the reading of that text, of the same without hyphens, and of a week
  of a year with or without a weekday, again with or without hyphens.

A week belongs to the year that has its Thursday, and begins on a Monday, which is
weekday 1; the weekday is 1 if it is not written.  A text has seven, eight or ten
bytes; of a text of ten bytes without hyphens the last two are not read.
-/

namespace Rendezvous.Day

/-- The standard text of a day. -/
def iso (day : Day) : Text :=
  let date := day.civil
  Text.ofNatPadded 4 date.year ++ '-' :: Text.ofNatPadded 2 date.month
    ++ '-' :: Text.ofNatPadded 2 date.day

/-- A number of exactly `count` ASCII digits, and the rest of the text. -/
def takeDigits? (count : Nat) (text : Text) : Option (Nat × Text) :=
  let digits := text.take count
  if digits.length = count ∧ digits.all Numeral.isAsciiDigit then
    some (Text.digitsValue digits, text.drop count)
  else none

/-- What stands behind a hyphen, where a hyphen is due. -/
def takeHyphen? (due : Bool) (text : Text) : Option Text :=
  if due then
    match text with
    | '-' :: rest => some rest
    | _ => none
  else some text

/-- The number of the Monday with which the first week of a year begins. -/
def firstMonday (year : Nat) : Nat :=
  let newYear := daysBeforeYear year + 1
  let sinceMonday := (newYear + 6) % 7
  if 3 < sinceMonday then newYear + 7 - sinceMonday else newYear - sinceMonday

/-- Whether a year has 53 weeks: it begins on a Thursday, or is a leap year that
begins on a Wednesday. -/
def hasLongWeekYear (year : Nat) : Bool :=
  let sinceMonday := (daysBeforeYear year + 7) % 7
  0 < year && (sinceMonday == 3 || (sinceMonday == 2 && isLeapYear year))

/-- What a written day says. -/
inductive Written where
  | civil (year month day : Nat)
  | week (year week weekday : Nat)
deriving DecidableEq, Repr

/-- The weekday behind a week, or 1 if the text ends there, and the rest. -/
def takeWeekday? (hyphens : Bool) (text : Text) : Option (Nat × Text) :=
  if text.isEmpty then some (1, [])
  else do
    let rest ← takeHyphen? hyphens text
    takeDigits? 1 rest

/-- The parts of a day written at the beginning of a text, and the rest. -/
def takeWritten? (text : Text) : Option (Written × Text) := do
  let (year, afterYear) ← takeDigits? 4 text
  let hyphens := afterYear.head? == some '-'
  let rest ← takeHyphen? hyphens afterYear
  match rest with
  | 'W' :: weekText =>
      let (week, afterWeek) ← takeDigits? 2 weekText
      let (weekday, left) ← takeWeekday? hyphens afterWeek
      return (.week year week weekday, left)
  | _ =>
      let (month, afterMonth) ← takeDigits? 2 rest
      let dayText ← takeHyphen? hyphens afterMonth
      let (day, left) ← takeDigits? 2 dayText
      return (.civil year month day, left)

/-- Whether a text has one of the sizes of written days. -/
def hasWrittenSize (text : Text) : Bool :=
  text.byteSize == 7 || text.byteSize == 8 || text.byteSize == 10

/-- The parts of a written day, if the text has one of its shapes. -/
def readWritten? (text : Text) : Option Written :=
  if hasWrittenSize text then (takeWritten? text).map (·.1) else none

/-- Whether a year has a week, and weeks have a weekday. -/
def isWeek (year week weekday : Nat) : Bool :=
  1 ≤ week && (week ≤ 52 || (week == 53 && hasLongWeekYear year))
    && 1 ≤ weekday && weekday ≤ 7

/-- The day of a week of a year.  Year 0 has no months. -/
def ofWeek (year week weekday : Nat) : Result Day :=
  if year = 0 then .error .monthOutOfRange
  else
    let ordinal := firstMonday year + (week - 1) * 7 + (weekday - 1)
    match ofOrdinal? ordinal with
    | some day => .ok day
    | none => .error (.yearOutOfRange (CivilDate.ofDayIndex (ordinal - 1)).year)

/-- The day that a text writes. -/
def ofIso (text : Text) : Result Day :=
  match readWritten? text with
  | some (.civil year month day) => ofCivil year month day
  | some (.week year week weekday) =>
      if isWeek year week weekday then ofWeek year week weekday
      else .error (.malformedDay text)
  | none => .error (.malformedDay text)

end Rendezvous.Day
