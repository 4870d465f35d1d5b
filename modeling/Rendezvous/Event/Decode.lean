import Rendezvous.Event
import Rendezvous.Schema.Reader

/-!
Contract: events as they are written in documents.

Owns: `Event.ofJson`.  Title and description of origin are required; days are taken in
the order in which they are written.
-/

namespace Rendezvous.Event

open Schema

/-- The members of an event. -/
def ofMembers (members : Members) : Checked Event :=
  let title := members.required "title".toList [] Reader.text
  let days := members.withDefault ["dates".toList] [] (Reader.list Reader.day)
  let times := members.withDefault ["times".toList] [] (Reader.list Reader.looseText)
  let description := members.withDefault ["description".toList] none
    (Reader.optional Reader.looseText)
  let raw := members.required "raw".toList [] Reader.text
  let what := Checked.both title days fun name dates => (name, dates)
  let details := Checked.both times (Checked.both description raw fun text origin => (text, origin))
    fun shown (text, origin) => (shown, text, origin)
  Checked.both what details fun (name, dates) (shown, text, origin) =>
    ⟨name, dates, shown, text, origin⟩

/-- An event. -/
def ofJson : Reader Event :=
  object ofMembers

end Rendezvous.Event
