import Rendezvous.Distinct
import Rendezvous.Pattern.Search
import Rendezvous.Recognizer.Basic

/-!
Contract: the mentions of dates and times that an event description has.

Owns:
- `Recognizer.extract`, which leaves a time word such as "night" in front of a date
  to the title, and lets a mention have a time only if its text states one;
- `Recognizer.resolve`, the moment of a phrase;
- the vague mentions, bare time words without a day;
- the days and the times that a list of mentions names.

Times are shown on a twelve-hour clock, each once, at the first place it is mentioned.
-/

namespace Rendezvous

open Pattern

/-- Words for a time of day that also occur in titles. -/
def timeWords : List String :=
  ["night", "morning", "evening", "afternoon", "breakfast", "lunch", "dinner"]

/-- A time word and nothing else. -/
def bareTimeWord : Expr Unit :=
  .inRow [.atStart, .wordOf timeWords, .atEnd]

/-- A time word and the blanks behind it at the beginning of a text. -/
def leadingTimeWord : Expr Unit :=
  .inRow [.atStart, .wordOf timeWords, .blanks]

/-- A time stated by the clock: an hour with a half of the day, hours and minutes,
"at" with a number, a name of twelve o'clock, or the word itself. -/
def statedTime : Expr Unit :=
  .choice [
    .inRow [.digit, .anyBlanks, .wordOf ["am", "pm", "a.m.", "p.m."]],
    .inRow [.digit, .letter ':', .digit, .digit],
    .inRow [.boundary, .word "at", .blanks, .digit],
    .inRow [.boundary, .wordOf ["noon", "midday", "midnight"], .boundary],
    .word "o\x27clock"]

namespace Mention

/-- A bare time word without a day. -/
def isVague (mention : Mention) : Bool :=
  (bareTimeWord.matchStart? mention.text.trim).isSome && !mention.hasDate

/-- The time of a mention as it is shown. -/
def display (mention : Mention) : Text :=
  mention.value.clock.display

/-- Add the day and the time of a mention to those found so far, unless it is vague. -/
def gatherStep (found : List Day × List Text) (mention : Mention) : List Day × List Text :=
  if mention.isVague then found
  else
    (mention.value.day :: found.1,
      if mention.hasTime then addNew found.2 mention.display else found.2)

/-- The days of a list of mentions in ascending order, and their times. -/
def gather (mentions : List Mention) : List Day × List Text :=
  let found := mentions.foldl gatherStep ([], [])
  (Day.sorted found.1, found.2)

/-- The times of a list of mentions. -/
def times (mentions : List Mention) : List Text :=
  mentions.foldl (fun found mention =>
    if mention.hasTime && !mention.isVague then addNew found mention.display else found) []

/-- Let a mention have a time only if its text states one. -/
def withStatedTime (mention : Mention) : Mention :=
  { mention with hasTime := mention.hasTime && statedTime.occursIn mention.text }

/-- A mention without the first characters of its text, with a reading of the rest. -/
def reread (mention : Mention) (skipped : Nat) (reading : Reading) : Mention :=
  { text := mention.text.drop skipped
    start := mention.start + skipped
    stop := mention.stop
    value := reading.value
    hasDate := reading.hasDate
    hasTime := reading.hasTime }

end Mention

namespace Recognizer

/-- Leave a time word at the beginning of a mention out of it, if the rest still names
a day or a time. -/
def withoutTimeWord (recognizer : Recognizer) (now : Moment) (mention : Mention) :
    Result Mention :=
  match leadingTimeWord.matchStart? mention.text with
  | none => .ok mention
  | some found => do
      match ← recognizer.reading? (mention.text.drop found.stop) now with
      | some reading => return mention.reread found.stop reading
      | none => return mention

/-- The mention that an entry of the recognizer stands for. -/
def refine (recognizer : Recognizer) (now : Moment) (mention : Mention) : Result Mention := do
  return (← recognizer.withoutTimeWord now mention).withStatedTime

/-- The mentions of dates and times in a text, in order. -/
def extract (recognizer : Recognizer) (text : Text) (now : Moment) :
    Result (List Mention) := do
  if text.isAllBlank then return []
  (← recognizer.mentions text now).mapM (recognizer.refine now)

/-- The moment that a phrase names, if it names a day or a time. -/
def resolve (recognizer : Recognizer) (phrase : Text) (now : Moment) :
    Result (Option Moment) := do
  if phrase.isAllBlank then return none
  return (← recognizer.reading? phrase now).map (·.value)

end Recognizer

end Rendezvous
