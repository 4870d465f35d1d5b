import Rendezvous.Proofs.Assistant.Consultation

/-!
Contract: where a proposal comes from.

Owns: `Reply.Proposes` and `Consultation.hold_some_iff`: there is a proposal exactly where the
assistant is asked and the object in its answer is the document of that proposal.
-/

namespace Rendezvous

/-! ## Replies -/

namespace Reply

/-- The object in a reply, read to a depth, is the document of a proposal. -/
def Proposes (depth : Json.Depth) (reply : Text) (proposal : Proposal) : Prop :=
  ∃ object document, embeddedObject? reply = some object ∧ Json.read object depth = .ok document ∧
    Proposal.ofJson document = .ok proposal

variable {depth : Json.Depth} {proposal : Proposal}

theorem readDocument_some_iff (document : Json) :
    (readDocument document).outcome = .ok (some proposal) ↔
      Proposal.ofJson document = .ok proposal := by
  unfold readDocument
  dsimp only
  split
  next found isRead => simp [isRead]
  next issues isRefused => simp [isRefused]

theorem readObject_some_iff (object : Text) :
    (readObject depth object).outcome = .ok (some proposal) ↔
      ∃ document, Json.read object depth = .ok document ∧
        Proposal.ofJson document = .ok proposal := by
  unfold readObject
  split
  next document isRead => simp [isRead, readDocument_some_iff]
  next isMalformed => simp [isMalformed]
  next isLong => simp [isLong]
  next isDeep => simp [isDeep]

theorem read_some_iff (reply : Text) :
    (read depth reply).outcome = .ok (some proposal) ↔ Proposes depth reply proposal := by
  unfold read Proposes
  split
  next isEmpty =>
    have noObject : embeddedObject? reply = none := by
      rw [List.isEmpty_iff.1 isEmpty]
      rfl
    simp [noObject]
  next =>
    cases isObject : embeddedObject? reply with
    | none => simp
    | some object => simp [readObject_some_iff]

end Reply

/-! ## Consultations -/

namespace Consultation

variable {text : Text} {today : Day} {client : Client} {proposal : Proposal}

theorem ofAnswer_some_iff (answer : Answer) (client : Client) :
    (ofAnswer answer client).outcome = .ok (some proposal) ↔
      ∃ reply, answer = .content (some reply) ∧ Reply.Proposes client.depth reply proposal := by
  rcases answer with (_ | reply) | kind
  · simp [ofAnswer, Reply.read]
  · simp [ofAnswer, Reply.read_some_iff]
  · simp [ofAnswer, without]

theorem hold_some_iff :
    (hold text today client).outcome = .ok (some proposal) ↔
      IsAsked text today client ∧
        ∃ reply, (Client.nextAnswer client.answers).1 = .content (some reply) ∧
          Reply.Proposes client.depth reply proposal := by
  by_cases asked : IsAsked text today client
  · obtain ⟨left, sameDepth, decided⟩ := hold_of_asked asked
    rw [decided, ofAnswer_some_iff, sameDepth]
    simp [asked]
  · rw [hold_of_unasked asked]
    simp [asked]

end Consultation

end Rendezvous
