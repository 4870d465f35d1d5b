import Rendezvous.Distinct
import Rendezvous.Event
import Rendezvous.Recurrence.Expand

/-!
Contract: proposals, the events that an assistant reads off a description.

Owns:
- `DateSpan`, a first and a last day with the weekdays that count between them.  A
  span without weekdays stands for its first day alone;
- the days and the times of a list of spans;
- `Proposal`, and the event that it stands for.

Does not own: how a proposal is read from a reply (`Proposal.Decode`), and whether it
is good enough to be used (`Arbiter`).
-/

namespace Rendezvous

/-- Days from a first to a last one, with the weekdays that count and the times. -/
structure DateSpan where
  start : Day
  stop : Day
  weekdays : Option Selector
  times : Option (List LooseText)
deriving DecidableEq

namespace DateSpan

/-- The days of a span. -/
def days (span : DateSpan) : Result (List Day) :=
  match span.weekdays with
  | none | some [] => .ok [span.start]
  | some selector => Recurrence.daysOn span.start span.stop selector

/-- The days of a list of spans in ascending order, each once. -/
def daysOfAll (spans : List DateSpan) : Result (List Day) := do
  return Day.sorted (← spans.mapM days).flatten

/-- The times of a list of spans, those of each span behind those of the spans before it. -/
def writtenTimes (spans : List DateSpan) : List LooseText :=
  spans.flatMap fun span => span.times.getD []

/-- The times of a list of spans, each at its first place only. -/
def timesOfAll (spans : List DateSpan) : List LooseText :=
  distinct (writtenTimes spans)

end DateSpan

/-- An event as an assistant reads it, with a degree of confidence. -/
structure Proposal where
  title : Text
  spans : List DateSpan
  description : Option LooseText
  confidence : Binary64
deriving DecidableEq

/-- The event that a proposal stands for. -/
def Event.ofProposal (proposal : Proposal) (raw : Text) : Result Event := do
  let days ← DateSpan.daysOfAll proposal.spans
  return {
    title := proposal.title
    days := days
    times := DateSpan.timesOfAll proposal.spans
    description := some (proposal.description.getD [])
    raw := raw }

end Rendezvous
