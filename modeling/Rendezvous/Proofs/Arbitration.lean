import Rendezvous.Arbiter

/-!
Contract: which event the arbiter decides for, and what that leaves of the assistant.

Owns:
- `Arbiter.Decides`, the ways in which a description can be decided;
- `Arbiter.read_iff`: the arbiter decides in one of these ways and in no other, so of all
  failures only that of reading the description without help is one of the arbiter;
- `Event.confidence_cases` and `Event.confidence_atLeast_iff`: the degrees of confidence, and the
  events that are used without asking.

The thresholds are written out here as the numbers 0.85 and 0.7.

Does not own: when there is a proposal (`Consultation`).
-/

namespace Rendezvous

/-! ## Confidence -/

namespace Event

/-- There are three degrees of confidence. -/
theorem confidence_cases (event : Event) :
    (event.days = [] ∧ event.confidence = .ofInt 0) ∨
    (event.days ≠ [] ∧ event.hasFittingTitle = false ∧ event.confidence = datedConfidence) ∨
    (event.days ≠ [] ∧ event.hasFittingTitle = true ∧ event.confidence = fullConfidence) := by
  unfold confidence
  split
  next noDays => exact Or.inl ⟨List.isEmpty_iff.1 noDays, rfl⟩
  next someDays =>
    rw [List.isEmpty_iff] at someDays
    split
    next fitting => exact Or.inr (Or.inr ⟨someDays, fitting, rfl⟩)
    next unfitting => exact Or.inr (Or.inl ⟨someDays, Bool.eq_false_iff.2 unfitting, rfl⟩)

/-- Of the three degrees only the greatest is one of 0.85 at least. -/
theorem confidence_atLeast_iff (event : Event) :
    event.confidence.atLeast (.ofDecimal false 85 (-2)) = true ↔
      event.days ≠ [] ∧ event.hasFittingTitle = true := by
  rcases event.confidence_cases with
    ⟨noDays, degree⟩ | ⟨-, unfitting, degree⟩ | ⟨someDays, fitting, degree⟩
  · have low : (Binary64.ofInt 0).atLeast (.ofDecimal false 85 (-2)) = false := by decide +kernel
    simp [degree, low, noDays]
  · have low : datedConfidence.atLeast (.ofDecimal false 85 (-2)) = false := by decide +kernel
    simp [degree, low, unfitting]
  · have high : fullConfidence.atLeast (.ofDecimal false 85 (-2)) = true := by decide +kernel
    simp [degree, high, someDays, fitting]

/-- Confidence is a number, so it is less than 0.85 or at least as great. -/
theorem confidence_less_iff (event : Event) :
    event.confidence.less (.ofDecimal false 85 (-2)) = true ↔
      event.confidence.atLeast (.ofDecimal false 85 (-2)) = false := by
  rcases event.confidence_cases with ⟨-, degree⟩ | ⟨-, -, degree⟩ | ⟨-, -, degree⟩
  · rw [degree]
    decide +kernel
  · rw [degree]
    decide +kernel
  · rw [degree]
    decide +kernel

end Event

namespace Arbiter

section Deciding

variable (recognizer : Recognizer) (text : Text) (now : Moment) (client : Option Client)

/-- The assistant proposes an event with a confidence of 0.7 at least, whose days exist. -/
def Offers (event : Event) : Prop :=
  ∃ proposal, (propose text now client).outcome = .ok (some proposal) ∧
    proposal.confidence.atLeast (.ofDecimal false 7 (-1)) = true ∧
    Event.ofProposal proposal text = .ok event

/-- The ways in which a description is decided, with what is left of the assistant. -/
inductive Decides : Result Event → Option Client → Prop where
  /-- The description cannot be read without help; nobody is asked. -/
  | unreadable {fault : Fault} (failed : Event.ofText recognizer text now = .error fault) :
      Decides (.error fault) client
  /-- The event read without help has a confidence of 0.85 at least; nobody is asked. -/
  | trusted {localEvent : Event} (isRead : Event.ofText recognizer text now = .ok localEvent)
      (sure : localEvent.confidence.atLeast (.ofDecimal false 85 (-2)) = true) :
      Decides (.ok localEvent) client
  /-- There is nobody to ask. -/
  | unassisted {localEvent : Event} (isRead : Event.ofText recognizer text now = .ok localEvent)
      (alone : client = none) : Decides (.ok localEvent) client
  /-- The event offered by the assistant is used. -/
  | adopted {localEvent event : Event} (isRead : Event.ofText recognizer text now = .ok localEvent)
      (unsure : localEvent.confidence.atLeast (.ofDecimal false 85 (-2)) = false)
      (offered : Offers text now client event) :
      Decides (.ok event) (propose text now client).client
  /-- The assistant was asked and offers no event, for whatever reason. -/
  | declined {localEvent : Event} (isRead : Event.ofText recognizer text now = .ok localEvent)
      (unsure : localEvent.confidence.atLeast (.ofDecimal false 85 (-2)) = false)
      (assisted : client ≠ none)
      (noOffer : ∀ event, ¬ Offers text now client event) :
      Decides (.ok localEvent) (propose text now client).client

end Deciding

variable {recognizer : Recognizer} {text : Text} {now : Moment} {client : Option Client}

/-- An offered event is chosen, and without one the event read without help. -/
theorem choose_cases (localEvent : Event) (text : Text) (proposed : Result (Option Proposal)) :
    (∃ proposal event, proposed = .ok (some proposal) ∧
      proposal.confidence.atLeast proposalThreshold = true ∧
      Event.ofProposal proposal text = .ok event ∧ (choose localEvent text proposed).1 = event) ∨
    ((∀ proposal event, proposed = .ok (some proposal) →
      proposal.confidence.atLeast proposalThreshold = true →
      Event.ofProposal proposal text ≠ .ok event) ∧
      (choose localEvent text proposed).1 = localEvent) := by
  unfold choose
  split
  next fault =>
    refine Or.inr ⟨?_, rfl⟩
    intro proposal event same
    contradiction
  next =>
    refine Or.inr ⟨?_, rfl⟩
    intro proposal event same
    cases same
  next proposal =>
    split
    next sure =>
      split
      next event isEvent => exact Or.inl ⟨proposal, event, rfl, sure, isEvent, rfl⟩
      next fault failed =>
        refine Or.inr ⟨?_, rfl⟩
        intro other event same _ isEvent
        obtain rfl := Option.some.inj (Except.ok.inj same)
        rw [failed] at isEvent
        contradiction
    next unsure =>
      refine Or.inr ⟨?_, rfl⟩
      intro other event same sure
      obtain rfl := Option.some.inj (Except.ok.inj same)
      exact absurd sure unsure

theorem settle_of_sure {localEvent : Event}
    (sure : localEvent.confidence.atLeast localThreshold = true) :
    (settle localEvent text now client).outcome = .ok localEvent ∧
      (settle localEvent text now client).client = client := by
  unfold settle
  rw [if_pos sure]
  exact ⟨rfl, rfl⟩

theorem settle_unassisted (localEvent : Event) (text : Text) (now : Moment) :
    (settle localEvent text now none).outcome = .ok localEvent ∧
      (settle localEvent text now none).client = none := by
  unfold settle
  split
  next => exact ⟨rfl, rfl⟩
  next => exact ⟨rfl, rfl⟩

/-- With an assistant, an untrusted event is decided on in view of what is proposed. -/
theorem settle_of_unsure {localEvent : Event} {assistant : Client}
    (unsure : localEvent.confidence.atLeast localThreshold = false) :
    (settle localEvent text now (some assistant)).outcome =
        .ok (choose localEvent text (propose text now (some assistant)).outcome).1 ∧
      (settle localEvent text now (some assistant)).client =
        (propose text now (some assistant)).client := by
  unfold settle
  rw [if_neg (Bool.eq_false_iff.1 unsure)]
  exact ⟨rfl, rfl⟩

theorem decides_settle {localEvent : Event}
    (isRead : Event.ofText recognizer text now = .ok localEvent) :
    Decides recognizer text now client (settle localEvent text now client).outcome
      (settle localEvent text now client).client := by
  cases trust : localEvent.confidence.atLeast localThreshold with
  | true =>
      obtain ⟨outcome, left⟩ := settle_of_sure trust
      rw [outcome, left]
      exact .trusted isRead trust
  | false =>
      cases client with
      | none =>
          obtain ⟨outcome, left⟩ := settle_unassisted localEvent text now
          rw [outcome, left]
          exact .unassisted isRead rfl
      | some assistant =>
          obtain ⟨outcome, left⟩ := settle_of_unsure trust
          rw [outcome, left]
          rcases choose_cases localEvent text (propose text now (some assistant)).outcome with
            ⟨proposal, event, proposed, sure, isEvent, chosen⟩ | ⟨noOffer, chosen⟩
          · rw [chosen]
            exact .adopted isRead trust ⟨proposal, proposed, sure, isEvent⟩
          · rw [chosen]
            refine .declined isRead trust (Option.some_ne_none assistant) ?_
            rintro event ⟨proposal, proposed, sure, isEvent⟩
            exact noOffer proposal event proposed sure isEvent

theorem read_of_ok {localEvent : Event}
    (isRead : Event.ofText recognizer text now = .ok localEvent) :
    read recognizer text now client = settle localEvent text now client := by
  rw [read, isRead]

/-- What the arbiter comes to is one of the ways to decide. -/
theorem decides_read (recognizer : Recognizer) (text : Text) (now : Moment)
    (client : Option Client) :
    Decides recognizer text now client (read recognizer text now client).outcome
      (read recognizer text now client).client := by
  unfold read
  split
  next fault failed => exact .unreadable failed
  next localEvent isRead => exact decides_settle isRead

theorem offers_unique {first second : Event} (offersFirst : Offers text now client first)
    (offersSecond : Offers text now client second) : first = second := by
  obtain ⟨proposal, proposed, -, isFirst⟩ := offersFirst
  obtain ⟨other, otherProposed, -, isSecond⟩ := offersSecond
  rw [proposed] at otherProposed
  obtain rfl := Option.some.inj (Except.ok.inj otherProposed)
  exact Except.ok.inj (isFirst.symm.trans isSecond)

/-- Without an assistant nothing is offered. -/
theorem not_offers_none (event : Event) : ¬ Offers text now none event := by
  rintro ⟨proposal, proposed, -⟩
  exact Option.some_ne_none proposal (Except.ok.inj proposed).symm

/-- The event offered is the one that is chosen. -/
theorem choose_of_offers {event : Event} (localEvent : Event)
    (offered : Offers text now client event) :
    (choose localEvent text (propose text now client).outcome).1 = event := by
  rcases choose_cases localEvent text (propose text now client).outcome with
    ⟨proposal, other, proposed, sure, isOther, chosen⟩ | ⟨noOffer, -⟩
  · exact chosen.trans (offers_unique ⟨proposal, proposed, sure, isOther⟩ offered)
  · obtain ⟨proposal, proposed, sure, isEvent⟩ := offered
    exact absurd isEvent (noOffer proposal event proposed sure)

theorem choose_of_no_offer (localEvent : Event)
    (noOffer : ∀ event, ¬ Offers text now client event) :
    (choose localEvent text (propose text now client).outcome).1 = localEvent := by
  rcases choose_cases localEvent text (propose text now client).outcome with
    ⟨proposal, other, proposed, sure, isOther, -⟩ | ⟨-, chosen⟩
  · exact absurd ⟨proposal, proposed, sure, isOther⟩ (noOffer other)
  · exact chosen

/-- Each way to decide is what the arbiter comes to where it applies. -/
theorem Decides.read_eq {outcome : Result Event} {left : Option Client}
    (decides : Decides recognizer text now client outcome left) :
    (read recognizer text now client).outcome = outcome ∧
      (read recognizer text now client).client = left := by
  cases decides with
  | unreadable failed =>
      rw [read, failed]
      exact ⟨rfl, rfl⟩
  | trusted isRead sure =>
      rw [read_of_ok isRead]
      exact settle_of_sure sure
  | unassisted isRead alone =>
      subst alone
      rw [read_of_ok isRead]
      exact settle_unassisted _ text now
  | adopted isRead unsure offered =>
      cases client with
      | none => exact absurd offered (not_offers_none _)
      | some assistant =>
          obtain ⟨outcome, left⟩ := settle_of_unsure unsure
          rw [read_of_ok isRead, outcome, left, choose_of_offers _ offered]
          exact ⟨rfl, rfl⟩
  | declined isRead unsure assisted noOffer =>
      cases client with
      | none => exact absurd rfl assisted
      | some assistant =>
          obtain ⟨outcome, left⟩ := settle_of_unsure unsure
          rw [read_of_ok isRead, outcome, left, choose_of_no_offer _ noOffer]
          exact ⟨rfl, rfl⟩

/-- The arbiter decides in one of the ways of `Decides`, and in no other. -/
theorem read_iff (recognizer : Recognizer) (text : Text) (now : Moment)
    (client left : Option Client) (outcome : Result Event) :
    ((read recognizer text now client).outcome = outcome ∧
        (read recognizer text now client).client = left) ↔
      Decides recognizer text now client outcome left := by
  constructor
  · rintro ⟨rfl, rfl⟩
    exact decides_read recognizer text now client
  · exact Decides.read_eq

end Arbiter

end Rendezvous
