import Rendezvous.Calendar.Moment

/-!
Contract: what is expected of a recognizer of dates and times in prose.

Owns:
- `Mention`, a piece of a text that names a date or a time, with the moment meant;
- `Reading`, the moment that a phrase as a whole names;
- `Recognizer`, the two questions that can be asked: which pieces of a text are
  mentions, and what a phrase means;
- the recognizer that answers from a table.

Does not own: any knowledge of words.  The recognizer of English phrases is
`Rendezvous.Recognizer.English`.
-/

namespace Rendezvous

/-- A piece of a text that names a date or a time. -/
structure Mention where
  text : Text
  start : Int
  stop : Int
  value : Moment
  hasDate : Bool
  hasTime : Bool
deriving DecidableEq

/-- The moment that a phrase names, and whether the phrase names its day and its time. -/
structure Reading where
  value : Moment
  hasDate : Bool
  hasTime : Bool
deriving DecidableEq

/-- A recognizer of dates and times, reckoned from a given moment. -/
structure Recognizer where
  /-- The mentions in a text, in order. -/
  mentions : Text → Moment → Result (List Mention)
  /-- The moment that a phrase names; nothing if it names neither a day nor a time. -/
  reading? : Text → Moment → Result (Option Reading)

namespace Recognizer

/-- Answers listed for given texts and phrases. -/
structure Table where
  mentions : List (Text × List Mention)
  readings : List (Text × Reading)

namespace Table

/-- The mentions listed for a text. -/
def mentionsIn (table : Table) (text : Text) : List Mention :=
  ((table.mentions.find? fun entry => entry.1 == text).map (·.2)).getD []

/-- The reading listed for a phrase, unless it has neither a day nor a time. -/
def readingOf? (table : Table) (phrase : Text) : Option Reading :=
  ((table.readings.find? fun entry => entry.1 == phrase).map (·.2)).filter fun reading =>
    reading.hasDate || reading.hasTime

end Table

/-- The recognizer that answers from a table, whatever the moment. -/
def ofTable (table : Table) : Recognizer where
  mentions text _ := .ok (table.mentionsIn text)
  reading? phrase _ := .ok (table.readingOf? phrase)

end Recognizer

end Rendezvous
