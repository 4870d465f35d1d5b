import Rendezvous.Proposal.Basic
import Rendezvous.Schema.Reader

/-!
Contract: proposals as they are written in documents.

Owns:
- `DateSpan.ofJson` and `Proposal.ofJson`, which name all issues of a document at once;
- the rules that they add to the kinds of the values: weekdays are numbers from 0 to 6,
  a span does not end before it begins, there is at least one span, and the title is
  not blank;
- the confidence, which is dropped to zero if it is no probability.

Members have a usual name and may have a second one; the usual name counts if both occur.
-/

namespace Rendezvous

open Schema

namespace DateSpan

/-- The flaw of a list of weekdays with a number outside 0 to 6. -/
def weekdayFlaw? (weekdays : Option Selector) : Option Flaw :=
  if (weekdays.getD []).any fun day => day < 0 || 6 < day then some .weekdayOutOfRange else none

/-- The flaw of a last day before the first one, if there is a first one. -/
def orderFlaw? (start : Checked Day) (stop : Day) : Option Flaw :=
  match start with
  | .ok first => if stop < first then some .endBeforeStart else none
  | .error _ => none

/-- A list of weekdays. -/
def readWeekdays : Reader (Option Selector) := fun value =>
  (Reader.optional (Reader.list Reader.integer) value).obeying weekdayFlaw?

/-- A last day, in view of the first one. -/
def readStop (start : Checked Day) : Reader Day := fun value =>
  (Reader.day value).obeying (orderFlaw? start)

/-- The members of a span. -/
def ofMembers (members : Members) : Checked DateSpan :=
  let start := members.required "start".toList [] Reader.day
  let stop := members.required "end".toList [] (readStop start)
  let weekdays := members.withDefault ["daysOfWeek".toList, "days_of_week".toList] none
    readWeekdays
  let times := members.withDefault ["times".toList] none
    (Reader.optional (Reader.list Reader.looseText))
  let days := Checked.both start stop fun first last => (first, last)
  let details := Checked.both weekdays times fun selector shown => (selector, shown)
  Checked.both days details fun (first, last) (selector, shown) => ⟨first, last, selector, shown⟩

/-- A span. -/
def ofJson : Reader DateSpan :=
  object ofMembers

end DateSpan

namespace Proposal

/-- Zero and one, the bounds of probabilities. -/
def isProbability (confidence : Binary64) : Bool :=
  !(confidence.less (.ofInt 0)) && !((Binary64.ofInt 1).less confidence)

/-- A confidence as it counts: one beyond the bounds is none. -/
def admitConfidence (confidence : Binary64) : Binary64 :=
  if isProbability confidence then confidence else .ofInt 0

/-- A title without the blanks around it. -/
def readTitle : Reader Text := fun value =>
  let content := (Reader.text value).obeying fun text =>
    if text.isEmpty then some .emptyText
    else if text.isAllBlank then some .blankTitle
    else none
  content.map Text.trim

/-- At least one span. -/
def readSpans : Reader (List DateSpan) := fun value =>
  (Reader.list DateSpan.ofJson value).obeying fun spans =>
    if spans.isEmpty then some .emptyList else none

/-- The confidence as it is written, zero if it is absent. -/
def writtenConfidence (members : Members) : Checked Binary64 :=
  members.withDefault ["confidence".toList] (.ofInt 0) Reader.real

/-- The members of a proposal. -/
def ofMembers (members : Members) : Checked Proposal :=
  let title := members.required "title".toList [] readTitle
  let spans := members.required "dateRanges".toList ["date_ranges".toList] readSpans
  let description := members.withDefault ["description".toList] none
    (Reader.optional Reader.looseText)
  let confidence := (writtenConfidence members).map admitConfidence
  let what := Checked.both title spans fun name dates => (name, dates)
  let details := Checked.both description confidence fun text degree => (text, degree)
  Checked.both what details fun (name, dates) (text, degree) => ⟨name, dates, text, degree⟩

/-- A proposal. -/
def ofJson : Reader Proposal :=
  object ofMembers

/-- The confidence of a proposal that does not count because it is no probability.
It is noticed whether or not the rest of the proposal can be read. -/
def droppedConfidence? : Json → Option Binary64
  | .object members =>
      match writtenConfidence members with
      | .ok confidence => if isProbability confidence then none else some confidence
      | .error _ => none
  | _ => none

end Proposal

end Rendezvous
