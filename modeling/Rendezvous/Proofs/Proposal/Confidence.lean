import Rendezvous.Proofs.Assistant.Proposing
import Rendezvous.Proofs.Proposal.Accepted

/-!
Contract: the confidence of the proposals that come out of texts.

Owns: `Proposal.isDegree_confidence_iff`, for the documents that are given and for those in the
replies of an assistant, and a document for which the two comparisons are not enough.
-/

namespace Rendezvous.Proposal

/-- The confidence of a proposal is a degree exactly if its document does not name `nan`; it is
kept as `nan` otherwise. -/
theorem isDegree_confidence_iff (proposal : Proposal) :
    (∀ text depth document, Json.read text depth = .ok document → ofJson document = .ok proposal →
      (IsDegree proposal.confidence ↔ ¬ NamesNaN document) ∧
        (proposal.confidence = .nan ↔ NamesNaN document)) ∧
    ∀ text today client,
      (Consultation.hold text today client).outcome = .ok (some proposal) →
      ∃ reply object document, (Client.nextAnswer client.answers).1 = .content (some reply) ∧
        Reply.embeddedObject? reply = some object ∧
        Json.read object client.depth = .ok document ∧
        ofJson document = .ok proposal ∧
        (IsDegree proposal.confidence ↔ ¬ NamesNaN document) ∧
        (proposal.confidence = .nan ↔ NamesNaN document) := by
  constructor
  · intro text depth document _ isRead
    exact (confidence_of_ofJson isRead).symm
  · intro text today client held
    obtain ⟨-, reply, isNext, object, document, isObject, isDocument, isRead⟩ :=
      Consultation.hold_some_iff.1 held
    have confidence := confidence_of_ofJson isRead
    exact ⟨reply, object, document, isNext, isObject, isDocument, isRead, confidence.symm⟩

/-- A document for a dinner on 15 January 2025, with the confidence that a text writes. -/
def dinnerDocument (confidence : Text) : Text :=
  ("\x7b\"title\":\"Dinner\",\"dateRanges\":[\x7b\"start\":\"2025-01-15\",".toList ++
    "\"end\":\"2025-01-15\"\x7d],\"confidence\":".toList) ++ (confidence ++ ['\x7d'])

/-- That dinner, with a confidence. -/
def dinner (confidence : Binary64) : Proposal where
  title := "Dinner".toList
  spans := [⟨.january15, .january15, none, none⟩]
  description := none
  confidence := confidence

/-- A dinner that is certain, as a document and as the reply to a question. -/
theorem isDegree_confidence_dinner :
    (∃ document, Json.read (dinnerDocument "1.0".toList) = .ok document ∧
      ofJson document = .ok (dinner (.ofInt 1)) ∧ ¬ NamesNaN document) ∧
    ∃ object document, Reply.embeddedObject? (dinnerDocument "1.0".toList) = some object ∧
      Json.read object = .ok document ∧ ¬ NamesNaN document := by
  have isDegree : IsDegree (dinner (.ofInt 1)).confidence := by decide +kernel
  have isRead : (Reply.readObject .usual (dinnerDocument "1.0".toList)).outcome =
      .ok (some (dinner (.ofInt 1))) := by
    decide +kernel
  have isHeld : (Consultation.hold "dinner".toList .january15
      ⟨true, [.content (some (dinnerDocument "1.0".toList))], [], .usual⟩).outcome =
      .ok (some (dinner (.ofInt 1))) := by
    decide +kernel
  obtain ⟨document, isDocument, isDinner⟩ := (Reply.readObject_some_iff _).1 isRead
  refine ⟨⟨document, isDocument, isDinner, ?_⟩, ?_⟩
  · exact ((isDegree_confidence_iff _).1 _ .usual document isDocument isDinner).1.1 isDegree
  · obtain ⟨reply, object, document, isNext, isObject, isDocument, -, confidence, -⟩ :=
      (isDegree_confidence_iff _).2 _ _ _ isHeld
    obtain rfl := Option.some.inj (Answer.content.inj isNext)
    exact ⟨object, document, isObject, isDocument, confidence.1 isDegree⟩

/-- With `NaN` for a confidence the same document is taken, and no bound holds. -/
theorem not_isDegree_dinner :
    ∃ document, Json.read (dinnerDocument "NaN".toList) = .ok document ∧
      ofJson document = .ok (dinner .nan) ∧ ¬ IsDegree (dinner .nan).confidence := by
  have isRead : (Reply.readObject .usual (dinnerDocument "NaN".toList)).outcome =
      .ok (some (dinner .nan)) := by
    decide +kernel
  obtain ⟨document, isDocument, isDinner⟩ := (Reply.readObject_some_iff _).1 isRead
  exact ⟨document, isDocument, isDinner, not_isDegree_nan⟩

end Rendezvous.Proposal
