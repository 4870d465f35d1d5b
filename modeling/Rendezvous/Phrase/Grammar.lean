import Rendezvous.Pattern.Search

/-!
Contract: the phrases for recurring events.

Owns:
- `Phrase`, the four forms of such phrases, with their names;
- `Part`, the pieces of a phrase on which its meaning depends;
- the expression of each form.

Words may stand in any letter case.  Does not own: the days that a phrase means
(`Phrase.Draft`).
-/

namespace Rendezvous

open Pattern

/-- A form of phrases for recurring events. -/
inductive Phrase where
  /-- "weekends for the next 3 months" -/
  | weekendsNext
  /-- "every friday and saturday this and next week" -/
  | everyDayThisNext
  /-- "every weekend in december" -/
  | everyInMonth
  /-- "fridays and saturdays in january" -/
  | pluralDaysInMonth
deriving DecidableEq, Repr

/-- A piece of a phrase on which its meaning depends. -/
inductive Part where
  | count
  | unit
  | days
  | timeframe
  | andNext
  | kind
  | month
  | year
deriving DecidableEq, Repr

namespace Part

/-- The name of a piece. -/
def name : Part → Text
  | count => "count".toList
  | unit => "unit".toList
  | days => "days".toList
  | timeframe => "timeframe".toList
  | andNext => "and_next".toList
  | kind => "kind".toList
  | month => "month".toList
  | year => "year".toList

end Part

namespace Phrase

/-- All forms, an earlier one preferred. -/
def all : List Phrase :=
  [weekendsNext, everyDayThisNext, everyInMonth, pluralDaysInMonth]

/-- The name of a form. -/
def name : Phrase → Text
  | weekendsNext => "weekends_next".toList
  | everyDayThisNext => "every_day_this_next".toList
  | everyInMonth => "every_in_month".toList
  | pluralDaysInMonth => "plural_days_in_month".toList

/-- The pieces that a form keeps. -/
def parts : Phrase → List Part
  | weekendsNext => [.count, .unit]
  | everyDayThisNext => [.days, .timeframe, .andNext, .unit]
  | everyInMonth | pluralDaysInMonth => [.kind, .month, .year]

/-- A weekday. -/
def dayName : Expr Part :=
  .wordOf ["sunday", "monday", "tuesday", "wednesday", "thursday", "friday", "saturday"]

/-- Several weekdays. -/
def dayNames : Expr Part :=
  .seq dayName (.letter 's')

/-- A weekday, or several of them. -/
def dayNameOrNames : Expr Part :=
  .seq dayName (.opt (.letter 's'))

/-- What stands between the entries of a list. -/
def separator : Expr Part :=
  .choice [
    .inRow [.anyBlanks, .letter ',', .anyBlanks, .word "and", .blanks],
    .inRow [.anyBlanks, .letter ',', .anyBlanks],
    .inRow [.blanks, .word "and", .blanks],
    .inRow [.anyBlanks, .letter '&', .anyBlanks]]

/-- Entries with separators between them. -/
def listOf (entry : Expr Part) : Expr Part :=
  .seq entry (.star (.seq separator entry))

/-- A month, by its full name or a short one. -/
def monthWord : Expr Part :=
  .wordOf ["january", "february", "march", "april", "may", "june", "july", "august",
    "september", "october", "november", "december", "jan", "feb", "mar", "apr", "jun",
    "jul", "aug", "sep", "sept", "oct", "nov", "dec"]

/-- A year of four digits, if there is one. -/
def optionalYear : Expr Part :=
  .opt (.seq .blanks (.group .year (.times 4 .digit)))

/-- The unit of a number of weekends, which may be a plural. -/
def unitOrUnits : Expr Part :=
  .choice [
    .seq (.word "month") (.opt (.letter 's')),
    .seq (.word "week") (.opt (.letter 's'))]

/-- A further weekday of a list without commas. -/
def furtherDay : Expr Part :=
  .inRow [.blanks, .word "and", .blanks, dayName]

/-- The words for a second timeframe. -/
def andNextWords : Expr Part :=
  .inRow [.word "and", .blanks, .word "next", .blanks]

/-- The kinds of days that "every" may stand before. -/
def everyKind : Expr Part :=
  .choice [.word "weekend", .word "weekday", .word "day", listOf dayNameOrNames]

/-- The expression of "weekends for the next 3 months". -/
def weekendsNextForm : Expr Part :=
  .inRow [
    .word "weekend", .opt (.letter 's'), .blanks, .wordOf ["for", "over"], .blanks,
    .opt (.seq (.word "the") .blanks), .word "next", .blanks,
    .group .count (.plus .digit), .blanks,
    .group .unit unitOrUnits]

/-- The expression of "every friday and saturday this and next week". -/
def everyDayThisNextForm : Expr Part :=
  .inRow [
    .word "every", .blanks,
    .group .days (.seq dayName (.star furtherDay)),
    .blanks, .group .timeframe (.wordOf ["this", "next"]), .blanks,
    .opt (.group .andNext andNextWords),
    .group .unit (.wordOf ["week", "month"])]

/-- The expression of "every weekend in december". -/
def everyInMonthForm : Expr Part :=
  .inRow [
    .word "every", .blanks,
    .group .kind everyKind, .opt (.letter 's'), .blanks, .word "in", .blanks,
    .group .month (.plus (.char Text.isLetterLike)), optionalYear]

/-- The expression of "fridays and saturdays in january". -/
def pluralDaysInMonthForm : Expr Part :=
  .inRow [
    .boundary, .group .kind (listOf dayNames), .blanks, .word "in", .blanks,
    .group .month monthWord, .boundary, optionalYear]

/-- The expression of a form. -/
def form : Phrase → Expr Part
  | weekendsNext => weekendsNextForm
  | everyDayThisNext => everyDayThisNextForm
  | everyInMonth => everyInMonthForm
  | pluralDaysInMonth => pluralDaysInMonthForm

/-- The leftmost phrase of a form in a text. -/
def find? (phrase : Phrase) (text : Text) : Option (Match Part) :=
  phrase.form.search text

/-- The phrase in a text, of the first form of which there is one. -/
def first? (text : Text) : Option (Phrase × Match Part) :=
  all.findSome? fun phrase => (phrase.find? text).map fun found => (phrase, found)

end Phrase

end Rendezvous
