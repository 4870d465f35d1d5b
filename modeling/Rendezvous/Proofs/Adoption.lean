import Rendezvous.Proofs.Arbitration
import Rendezvous.Proofs.Assistant.Proposing
import Rendezvous.Proofs.Proposal.Accepted
import Rendezvous.Proofs.Proposal.Days

/-!
Contract: the days of the events that are taken over from an assistant.

Owns:
- `Arbiter.Adopts`: the event of a proposal takes the place of the event read without help;
- `Arbiter.days_of_adopts`: only a proposal of which no span has a day leaves an event without
  days, and only such a proposal takes the days from an event that had some;
- a reply with which this happens.
-/

namespace Rendezvous.Arbiter

section Adopting

variable (recognizer : Recognizer) (text : Text) (now : Moment) (client : Option Client)

/-- An event is read without help with a confidence of less than 0.85, and the event of a proposal
with a confidence of 0.7 at least takes its place. -/
structure Adopts (localEvent : Event) (proposal : Proposal) (event : Event) : Prop where
  isRead : Event.ofText recognizer text now = .ok localEvent
  unsure : localEvent.confidence.atLeast (.ofDecimal false 85 (-2)) = false
  proposed : (propose text now client).outcome = .ok (some proposal)
  sure : proposal.confidence.atLeast (.ofDecimal false 7 (-1)) = true
  isEvent : Event.ofProposal proposal text = .ok event

end Adopting

variable {recognizer : Recognizer} {text : Text} {now : Moment} {client : Option Client}
  {localEvent event : Event} {proposal : Proposal}

theorem Adopts.read_eq (adopts : Adopts recognizer text now client localEvent proposal event) :
    (read recognizer text now client).outcome = .ok event := by
  have offered : Offers text now client event :=
    ⟨proposal, adopts.proposed, adopts.sure, adopts.isEvent⟩
  exact (Decides.adopted adopts.isRead adopts.unsure offered).read_eq.1

/-- Any event but the one read without help is that of a proposal. -/
theorem adopts_of_read (isLocal : Event.ofText recognizer text now = .ok localEvent)
    (isRead : (read recognizer text now client).outcome = .ok event) (other : event ≠ localEvent) :
    ∃ proposal, Adopts recognizer text now client localEvent proposal event := by
  have decides := decides_read recognizer text now client
  rw [isRead] at decides
  generalize (read recognizer text now client).client = left at decides
  have same {found : Event} (isFound : Event.ofText recognizer text now = .ok found) :
      found = localEvent :=
    Except.ok.inj (isFound.symm.trans isLocal)
  -- Only a proposal that is taken over can bring another event.
  cases decides with
  | trusted isFound _ => exact absurd (same isFound) other
  | unassisted isFound _ => exact absurd (same isFound) other
  | declined isFound _ _ _ => exact absurd (same isFound) other
  | adopted isFound unsure offered =>
      obtain ⟨proposal, proposed, sure, isEvent⟩ := offered
      obtain rfl := same isFound
      exact ⟨proposal, isFound, unsure, proposed, sure, isEvent⟩

/-- A proposal has sound spans, and one at least. -/
theorem spans_of_propose (proposed : (propose text now client).outcome = .ok (some proposal)) :
    proposal.spans ≠ [] ∧ ∀ span ∈ proposal.spans, span.IsSound := by
  cases client with
  | none => simp [propose] at proposed
  | some assistant =>
      obtain ⟨-, reply, -, object, document, -, -, isRead⟩ := Consultation.hold_some_iff.1 proposed
      exact Proposal.spans_of_ofJson isRead

/-- An event that is taken over has a day unless no span of the proposal has one, for which each
span has to be shorter than a week.  Days that were read without help are lost in no other way. -/
theorem days_of_adopts (recognizer : Recognizer) (text : Text) (now : Moment)
    (client : Option Client) :
    (∀ localEvent proposal event, Adopts recognizer text now client localEvent proposal event →
      (read recognizer text now client).outcome = .ok event ∧
        (event.days = [] ↔ ∀ span ∈ proposal.spans, span.IsBarren) ∧ proposal.spans ≠ [] ∧
        ∀ span ∈ proposal.spans, span.IsBarren → span.stop.ordinal < span.start.ordinal + 6) ∧
    ∀ localEvent event, Event.ofText recognizer text now = .ok localEvent →
      (read recognizer text now client).outcome = .ok event →
      localEvent.days ≠ [] → event.days = [] →
      ∃ proposal, Adopts recognizer text now client localEvent proposal event ∧
        ∀ span ∈ proposal.spans, span.IsBarren := by
  constructor
  · intro localEvent proposal event adopts
    obtain ⟨someSpan, areSound⟩ := spans_of_propose adopts.proposed
    refine ⟨adopts.read_eq, Event.days_eq_nil_iff adopts.isEvent, someSpan, ?_⟩
    intro span isSpan barren
    exact barren.short (areSound span isSpan)
  · intro localEvent event isLocal isRead someDay noDay
    have other : event ≠ localEvent := by
      rintro rfl
      exact someDay noDay
    obtain ⟨proposal, adopts⟩ := adopts_of_read isLocal isRead other
    exact ⟨proposal, adopts, (Event.days_eq_nil_iff adopts.isEvent).1 noDay⟩

/-! ## A reply that takes a day away -/

/-- The moment of the requests: midnight of a Wednesday. -/
def wednesday : Moment :=
  .midnight .january15

/-- A recognizer that knows which day "jan 15" is. -/
def januaryRecognizer : Recognizer :=
  .ofTable {
    mentions := [("ok jan 15".toList, [{
      text := "jan 15".toList
      start := 3
      stop := 9
      value := wednesday
      hasDate := true
      hasTime := false }])]
    readings := [] }

/-- What "ok jan 15" means without help; the title is too short to be trusted. -/
def januaryEvent : Event where
  title := "ok".toList
  days := [wednesday.day]
  times := []
  description := some []
  raw := "ok jan 15".toList

/-- An assistant that proposes that day if it is on a given weekday. -/
def weekdayClient (weekday : Char) : Client where
  available := true
  answers := [.content (some ("\x7b\"title\":\"Dinner\",\"dateRanges\":[\x7b".toList ++
    "\"start\":\"2025-01-15\",\"end\":\"2025-01-15\",\"daysOfWeek\":[".toList ++
    weekday :: "]\x7d],\"confidence\":0.9\x7d".toList))]
  asked := []

/-- The proposal of that assistant. -/
def weekdayProposal (weekday : Int) : Proposal where
  title := "Dinner".toList
  spans := [⟨wednesday.day, wednesday.day, some [weekday], none⟩]
  description := none
  confidence := .ofDecimal false 9 (-1)

/-- The event of that proposal, with the days that it comes to. -/
def weekdayEvent (days : List Day) : Event where
  title := "Dinner".toList
  days := days
  times := []
  description := some []
  raw := "ok jan 15".toList

theorem adopts_wednesday :
    Adopts januaryRecognizer januaryEvent.raw wednesday (some (weekdayClient '3')) januaryEvent
      (weekdayProposal 3) (weekdayEvent [wednesday.day]) where
  isRead := by decide +kernel
  unsure := by decide +kernel
  proposed := by decide +kernel
  sure := by decide +kernel
  isEvent := by decide +kernel

theorem adopts_sunday :
    Adopts januaryRecognizer januaryEvent.raw wednesday (some (weekdayClient '0')) januaryEvent
      (weekdayProposal 0) (weekdayEvent []) where
  isRead := by decide +kernel
  unsure := by decide +kernel
  proposed := by decide +kernel
  sure := by decide +kernel
  isEvent := by decide +kernel

/-- The Wednesday is kept if Wednesdays are proposed; a proposal of Sundays has no day. -/
theorem days_of_adopts_january :
    (read januaryRecognizer januaryEvent.raw wednesday (some (weekdayClient '3'))).outcome =
        .ok (weekdayEvent [wednesday.day]) ∧
      (¬ ∀ span ∈ (weekdayProposal 3).spans, span.IsBarren) ∧
      ∃ proposal, Adopts januaryRecognizer januaryEvent.raw wednesday (some (weekdayClient '0'))
        januaryEvent proposal (weekdayEvent []) ∧ ∀ span ∈ proposal.spans, span.IsBarren := by
  obtain ⟨isRead, noDay, -⟩ :=
    (days_of_adopts januaryRecognizer januaryEvent.raw wednesday (some (weekdayClient '3'))).1
      januaryEvent (weekdayProposal 3) (weekdayEvent [wednesday.day]) adopts_wednesday
  refine ⟨isRead, ?_, ?_⟩
  · rw [← noDay]
    exact List.cons_ne_nil _ _
  · exact (days_of_adopts januaryRecognizer januaryEvent.raw wednesday (some (weekdayClient '0'))).2
      januaryEvent (weekdayEvent []) adopts_sunday.isRead adopts_sunday.read_eq
      (List.cons_ne_nil _ _) rfl

/-- The event of the Sundays of one Wednesday takes the place of an event with a day. -/
theorem read_sunday :
    Event.ofText januaryRecognizer januaryEvent.raw wednesday = .ok januaryEvent ∧
      januaryEvent.days = [wednesday.day] ∧
      Adopts januaryRecognizer januaryEvent.raw wednesday (some (weekdayClient '0')) januaryEvent
        (weekdayProposal 0) (weekdayEvent []) ∧
      (read januaryRecognizer januaryEvent.raw wednesday (some (weekdayClient '0'))).outcome =
        .ok (weekdayEvent []) ∧
      (weekdayEvent []).days = [] :=
  ⟨adopts_sunday.isRead, rfl, adopts_sunday, adopts_sunday.read_eq, rfl⟩

end Rendezvous.Arbiter
