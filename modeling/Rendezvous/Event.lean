import Rendezvous.Phrase.Draft
import Rendezvous.Text.Loose

/-!
Contract: events, and the reading of one from a description without any help.

Owns:
- `Event`, the form in which all readers of descriptions return what they found;
- `Event.ofText`, which depends on the description, the moment and the recognizer only.

A draft without a title is titled with the first words of the description.
-/

namespace Rendezvous

/-- An event with the days on which it may take place. -/
structure Event where
  title : Text
  days : List Day
  times : List LooseText
  description : Option LooseText
  raw : Text
deriving DecidableEq

namespace Event

/-- The title of a draft. -/
def titleOf (draft : Draft) (text : Text) : Text :=
  match draft.title with
  | some (c :: rest) => c :: rest
  | _ => Title.ofWords text

/-- The event of a draft. -/
def ofDraft (draft : Draft) (text : Text) : Event where
  title := titleOf draft text
  days := Day.sorted draft.days
  times := draft.times.map Text.loose
  description := some []
  raw := text

/-- The event that a description means. -/
def ofText (recognizer : Recognizer) (text : Text) (now : Moment) : Result Event := do
  return ofDraft (← Draft.ofText recognizer text now) text

/-- The days of an event in their standard text. -/
def dates (event : Event) : List Text :=
  event.days.map Day.iso

end Event

end Rendezvous
