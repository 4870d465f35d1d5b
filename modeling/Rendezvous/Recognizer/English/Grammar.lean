import Rendezvous.Pattern.Search

/-!
Contract: the forms of English phrases for dates and times.

Owns: one expression for each form, over texts in lower case.

Does not own: what a phrase means (`English.reckon`) and which phrases of a text
belong together (`English.Finding`).
-/

namespace Rendezvous.English

open Pattern

/-- A piece of a phrase on which its meaning depends. -/
inductive Piece where
  | quantity
  | unit
  | date
  | monthName
  | day
  | suffix
  | year
  | hours
  | colon
  | minutes
  | seconds
  | half
  | opening
deriving DecidableEq, Repr

/-- An expression over the pieces of phrases. -/
abbrev Form := Expr Piece

/-- A whole word out of a list. -/
def wholeWord (words : List String) : Form :=
  .inRow [.boundary, .wordOf words, .boundary]

/-! ## Quantities -/

/-- The words for numbers, an earlier one preferred. -/
def numberWord : Form :=
  .wordOf ["zero", "one", "a", "an", "two", "three", "four", "five", "six", "seven", "eight",
    "nine", "ten", "eleven", "thirteen", "fourteen", "fifteen", "sixteen", "seventeen",
    "eighteen", "nineteen", "twenty"]

/-- A number in digits, with or without a fraction. -/
def decimalNumber : Form :=
  .seq (.plus .digit) (.opt (.seq (.letter '.') (.plus .digit)))

/-- The words for units, an earlier one preferred. -/
def unitWords : List String :=
  ["seconds", "minutes", "second", "minute", "months", "hours", "weeks", "month", "years",
    "secs", "mins", "hour", "days", "week", "year", "sec", "min", "day", "mth", "hr", "dy",
    "wk", "yr", "s", "m", "h", "d", "w", "y"]

/-- A quantity of a unit, as in "3 weeks" or "an hour". -/
def quantityForm : Form :=
  .inRow [.boundary,
    .group .quantity (.inRow [
      .opt (.letter '-'),
      .alt decimalNumber (.seq numberWord .boundary),
      .anyBlanks,
      .group .unit (.wordOf unitWords)]),
    .boundary]

/-- A quantity of a unit in one letter, as in "3 w". -/
def shortQuantityForm : Form :=
  .inRow [.boundary,
    .group .quantity (.inRow [
      .opt (.letter '-'),
      .alt decimalNumber (.seq numberWord .blanks),
      .anyBlanks,
      .group .unit (.wordOf ["h", "m", "s", "d", "w", "y"])]),
    .boundary]

/-- A unit alone. -/
def unitForm : Form :=
  wholeWord unitWords

/-- A number, in a word or in digits. -/
def numberForm : Form :=
  .alt (.inRow [.boundary, numberWord, .boundary]) decimalNumber

/-! ## Dates -/

/-- A blank, an opening bracket, a quotation mark or a hyphen, or the beginning. -/
def leftEdge : Form :=
  .alt (.char fun c => Text.isBlank c || ['(', '[', '"', '\x27', '-'].contains c) .atStart

/-- One or two digits. -/
def oneOrTwoDigits : Form :=
  .seq .digit (.opt .digit)

/-- The signs between the numbers of a date. -/
def isDateSign (c : Char) : Bool :=
  c == '/' || c == '.' || c == '-'

/-- One of the signs between the numbers of a date. -/
def dateSign : Form :=
  .char isDateSign

/-- A date in numbers, as in "1/24", "1/24/2025" or "2025-01-24". -/
def numericDateForm : Form :=
  .inRow [leftEdge,
    .group .date (.alt
      (.inRow [oneOrTwoDigits, dateSign, oneOrTwoDigits,
        .opt (.inRow [dateSign, .digit, .digit, .opt (.seq .digit .digit)])])
      (.inRow [.times 4 .digit, dateSign, oneOrTwoDigits, dateSign, oneOrTwoDigits])),
    .boundary]

/-- The words for months, an earlier one preferred. -/
def monthWords : List String :=
  ["january", "february", "march", "april", "may", "june", "july", "august", "september",
    "october", "november", "december", "jan", "feb", "mar", "apr", "may", "jun", "jul", "aug",
    "sep", "oct", "nov", "dec"]

/-- The end of a number that does not begin a time of day. -/
def notTime : Form :=
  .seq .boundary (.notAhead (.seq .anyBlanks (.choice [.letter ':', .word "am", .word "pm"])))

/-- Blanks, or the beginning of the text. -/
def blanksOrStart : Form :=
  .alt .atStart .blanks

/-- The number of a day with its suffix, as in "24" or "1st". -/
def dayNumber : Form :=
  .seq
    (.group .day (.choice [
      .char fun c => '1' ≤ c && c ≤ '9',
      .seq (.oneOf ['0', '1', '2']) .digit,
      .seq (.letter '3') (.oneOf ['0', '1'])]))
    (.group .suffix (.choice [.word "rd", .word "st", .word "nd", .word "th", .empty]))

/-- A month, a day or a year. -/
def datePart : Form :=
  .choice [
    .inRow [blanksOrStart, .group .monthName (.wordOf monthWords), .boundary],
    .inRow [blanksOrStart, dayNumber, notTime],
    .inRow [.opt (.letter ','), .blanks,
      .group .year (.inRow [.digit, .digit, .opt (.seq .digit .digit)]), notTime]]

/-- A date with the name of its month, as in "January 24th, 2025". -/
def wordyDateForm : Form :=
  .group .date (.seq
    (.seq datePart (.opt (.seq datePart (.opt datePart))))
    (.kept .monthName))

/-- A day next to today. -/
def dayWordForm : Form :=
  wholeWord ["tomorrow", "today", "yesterday"]

/-- A number of one or two digits with the suffix of a day, if it has one. -/
def ordinalForm : Form :=
  .seq (.group .day oneOrTwoDigits) (.opt (.group .suffix (.wordOf ["rd", "st", "nd", "th"])))

/-- A weekday. -/
def weekdayForm : Form :=
  wholeWord ["monday", "tuesday", "wednesday", "thursday", "friday", "saturday", "sunday",
    "mon", "tues", "tue", "wed", "thu", "fri", "sat", "sun"]

/-! ## Times of day -/

/-- A word for a time of day. -/
def hourWordForm : Form :=
  wholeWord ["noon", "afternoon", "lunch", "morning", "breakfast", "dinner", "evening",
    "midnight", "night", "tonight", "eod"]

/-- A colon or nothing. -/
def optionalColon : Form :=
  .group .colon (.alt (.letter ':') .empty)

/-- The fraction of a second. -/
def secondFraction : Form :=
  .opt (.seq (.oneOf ['.', ',']) (.plus .digit))

/-- A time of day on a clock of twenty-four hours, as in "19:30". -/
def clockForm : Form :=
  .inRow [leftEdge, .group .hours oneOrTwoDigits, optionalColon,
    .group .minutes (.seq .digit .digit),
    .opt (.seq (.again .colon) (.group .seconds (.inRow [.digit, .digit, secondFraction]))),
    .boundary]

/-- A time of day with its half, as in "7:30 pm". -/
def halfDayForm : Form :=
  .inRow [leftEdge, .group .hours oneOrTwoDigits,
    .opt (.inRow [optionalColon, .group .minutes oneOrTwoDigits,
      .opt (.seq (.again .colon)
        (.group .seconds (.seq oneOrTwoDigits secondFraction)))]),
    .anyBlanks,
    .group .half (.wordOf ["am", "pm", "a.m.", "p.m.", "a", "p"]),
    .boundary]

/-! ## Words around a phrase -/

/-- A word that modifies what stands around it. -/
def modifierForm : Form :=
  wholeWord ["from", "before", "after", "ago", "prior", "prev", "last", "next", "previous",
    "end of", "this", "eod", "eom", "eoy"]

/-- A preposition before a phrase: "on" before a date, "at" or "in" before a time, "in"
before a quantity.  The kind of the phrase stands behind as a digit. -/
def prepositionForm : Form :=
  .seq .boundary (.group .opening (.choice [
    .inRow [.word "on", .blanks, .letter '1'],
    .inRow [.wordOf ["at", "in"], .blanks, .letter '2'],
    .inRow [.word "in", .blanks, .letter '3']]))

end Rendezvous.English
