import Rendezvous.Assistant.Consultation

/-!
Contract: the event that a description means, read with an assistant where needed.

Owns:
- how far an event read without help is trusted;
- `Arbiter.read`, which uses that event if it is trusted enough, and otherwise the
  proposal of an assistant if the proposal is trusted enough and its days exist.  In all
  other cases the event read without help is used, so no failure of the assistant is one
  of the arbiter;
- `Arbiter.propose`, the proposal alone.

Trust is a number between zero and one.  A proposal whose confidence is no number is not
trusted.
-/

namespace Rendezvous

namespace Event

/-- Titles have fewer characters than this to be trusted. -/
def titleLimit : Nat := 100

/-- How far an event with a fitting title and days is trusted. -/
def fullConfidence : Binary64 := .ofDecimal false 9 (-1)

/-- How far an event with days alone is trusted. -/
def datedConfidence : Binary64 := .ofDecimal false 7 (-1)

/-- Whether the title of an event is neither too short nor too long. -/
def hasFittingTitle (event : Event) : Bool :=
  2 < event.title.length && event.title.length < titleLimit

/-- How far an event that was read without help is trusted. -/
def confidence (event : Event) : Binary64 :=
  if event.days.isEmpty then .ofInt 0
  else if event.hasFittingTitle then fullConfidence
  else datedConfidence

end Event

/-- What comes of reading a description. -/
structure Ruling (α : Type) where
  outcome : Result α
  client : Option Client
  notices : List Notice

namespace Arbiter

/-- Events read without help are used from this confidence on. -/
def localThreshold : Binary64 := .ofDecimal false 85 (-2)

/-- Proposals are used from this confidence on. -/
def proposalThreshold : Binary64 := .ofDecimal false 7 (-1)

/-- The event that is used in view of a proposal, or of the lack of one, and what is
noted. -/
def choose (localEvent : Event) (text : Text) : Result (Option Proposal) → Event × List Notice
  | .error fault => (localEvent, [.proposalFailed fault.kind])
  | .ok none => (localEvent, [])
  | .ok (some proposal) =>
      if proposal.confidence.atLeast proposalThreshold then
        match Event.ofProposal proposal text with
        | .ok event => (event, [.proposalAccepted proposal.confidence])
        | .error fault =>
            (localEvent, [.proposalAccepted proposal.confidence, .proposalFailed fault.kind])
      else (localEvent, [.proposalUncertain proposal.confidence proposalThreshold])

/-- Decide on an event that was read without help. -/
def settle (localEvent : Event) (text : Text) (now : Moment) (client : Option Client) :
    Ruling Event :=
  if localEvent.confidence.atLeast localThreshold then
    ⟨.ok localEvent, client, [.localAccepted localEvent.confidence]⟩
  else
    match client with
    | none => ⟨.ok localEvent, none, [.localUnassisted localEvent.confidence]⟩
    | some assistant =>
        let held := Consultation.hold text now.day assistant
        let (event, notices) := choose localEvent text held.outcome
        ⟨.ok event, some held.client, held.notices ++ notices⟩

/-- The event that a description means. -/
def read (recognizer : Recognizer) (text : Text) (now : Moment) (client : Option Client) :
    Ruling Event :=
  match Event.ofText recognizer text now with
  | .error fault => ⟨.error fault, client, []⟩
  | .ok localEvent => settle localEvent text now client

/-- The proposal of the assistant, if there is an assistant. -/
def propose (text : Text) (now : Moment) (client : Option Client) : Ruling (Option Proposal) :=
  match client with
  | none => ⟨.ok none, none, []⟩
  | some assistant =>
      let held := Consultation.hold text now.day assistant
      ⟨held.outcome, some held.client, held.notices⟩

/-- The event that a description means, where an assistant that is not given is one
without a key, which is noted. -/
def readByDefault (recognizer : Recognizer) (text : Text) (now : Moment)
    (client : Option Client) : Ruling Event :=
  match client with
  | some assistant => read recognizer text now (some assistant)
  | none =>
      let ruling := read recognizer text now (some .unavailable)
      { ruling with notices := .keyAbsent :: ruling.notices }

end Arbiter

end Rendezvous
