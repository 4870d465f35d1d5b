import Rendezvous.Proofs.Assistant.Consultation
import Rendezvous.Proofs.Assistant.EmbeddedObject
import Rendezvous.Proofs.Proposal.Document

/-!
Contract: a proposal that an assistant writes into its reply comes back unchanged.

Owns:
- `Proposal.WritesText`, the texts that write a proposal;
- `Reply.read_of_writes`, replies with such a text in them;
- `Consultation.hold_of_writes`: such a reply takes one question, and the proposal comes of it.

In front of the document the reply has no opening brace; behind it anything may stand.
-/

namespace Rendezvous

/-- The texts that write a proposal: its documents, however they are written. -/
def Proposal.WritesText (proposal : Proposal) (text : Text) : Prop :=
  ∃ document, Proposal.Writes proposal document ∧ Json.WritesDocument document text

/-- A text with a title that has quotation marks, a brace and a backslash. -/
theorem Proposal.writesText_quotedBrace :
    WritesText ⟨"Tea \"\x7b\" \\o".toList,
      [⟨⟨739268, by decide, by decide⟩, ⟨739268, by decide, by decide⟩, none, none⟩], none,
      .ofDecimal false 95 (-2)⟩
      ("\x7b\"title\":\"Tea \\\"\x7b\\\" \\\\o\",\"dateRanges\":[\x7b" ++
        "\"start\":\"2025-01-17\",\"end\":\"2025-01-17\"\x7d],\"confidence\":9.5E-1\x7d").toList := by
  have title : Json.Spells "Tea \"\x7b\" \\o".toList "Tea \\\"\x7b\\\" \\\\o".toList := by
    have quote : Json.SpellsCharacter '"' "\\\"".toList := .short rfl
    have backslash : Json.SpellsCharacter '\\' "\\\\".toList := .short rfl
    exact (Json.spells_plain "Tea ".toList (by decide)).append (.cons quote
      ((Json.spells_plain "\x7b".toList (by decide)).append (.cons quote
        ((Json.spells_plain " ".toList (by decide)).append (.cons backslash
          (Json.spells_plain "o".toList (by decide)))))))
  have day : Json.Writes (.value (.ofText "2025-01-17".toList)) "\"2025-01-17\"".toList :=
    .string (Json.spells_plain _ (by decide))
  have confidence : Json.Writes (.value (.real (.ofDecimal false 95 (-2)))) "9.5E-1".toList :=
    .number ⟨false, ['9'], ['5'],
      some ⟨'E', .minus, ['1'], by decide, by decide, List.all_eq_true.1 (by decide)⟩,
      by decide, by decide, List.all_eq_true.1 (by decide)⟩ rfl
  have span := Json.Writes.object (.furtherMember
    (.compactMember (Json.spells_plain "start".toList (by decide)) day)
    (.lastMember (.compactMember (Json.spells_plain "end".toList (by decide)) day)))
  have document := Json.Writes.object (.furtherMember
    (.compactMember (Json.spells_plain "title".toList (by decide)) (.string title))
    (.furtherMember
      (.compactMember (Json.spells_plain "dateRanges".toList (by decide))
        (.array (.lastItem span.document)))
      (.lastMember
        (.compactMember (Json.spells_plain "confidence".toList (by decide)) confidence))))
  have isWritten := writes_single "Tea \"\x7b\" \\o".toList ⟨739268, by decide, by decide⟩
    (.ofDecimal false 95 (-2))
  have iso : Day.iso ⟨739268, by decide, by decide⟩ = "2025-01-17".toList := by decide
  rw [single, DateSpan.singleDay, iso] at isWritten
  exact ⟨_, isWritten, document.document⟩

variable {proposal : Proposal} {before document after : Text}

namespace Reply

theorem readDocument_of_writes {json : Json} (sound : proposal.IsSound)
    (isWritten : Proposal.Writes proposal json) :
    (readDocument json).outcome = .ok (some proposal) := by
  rw [readDocument, Proposal.reads_ofJson sound json isWritten]

/-- The proposal in a reply is read, whatever stands around it. -/
theorem read_of_writes (depth : Json.Depth) (sound : proposal.IsSound)
    (writes : proposal.WritesText document) (noBrace : '\x7b' ∉ before) (after : Text) :
    (read depth (before ++ (document ++ after))).outcome = .ok (some proposal) := by
  obtain ⟨json, isWritten, writesDocument⟩ := writes
  have fits := Proposal.fits_of_writes sound isWritten depth
  have outcome := readDocument_of_writes sound isWritten
  cases isWritten with
  | @object _ members named title spans description confidence =>
      obtain ⟨object, isEmbedded, writesObject⟩ :=
        exists_embeddedObject noBrace writesDocument after
      have isRead := Json.read_of_writes writesObject.document fits
      have someText : ¬ (before ++ (document ++ after)).isEmpty = true := by
        intro isEmpty
        rw [List.isEmpty_iff.1 isEmpty] at isEmbedded
        contradiction
      rw [read, if_neg someText, isEmbedded]
      dsimp only
      rw [readObject, isRead]
      exact outcome

end Reply

namespace Consultation

variable {text : Text} {today : Day} {client : Client}

/-- A proposal that the next reply holds comes back unchanged, and takes one question. -/
theorem hold_of_writes (asked : IsAsked text today client) (sound : proposal.IsSound)
    (writes : proposal.WritesText document) (noBrace : '\x7b' ∉ before)
    (next : (Client.nextAnswer client.answers).1 =
      .content (some (before ++ (document ++ after)))) :
    (hold text today client).outcome = .ok (some proposal) ∧
      ∃ question, Question.ask (Question.clean text) today = .ok question ∧
        (hold text today client).client.asked = client.asked ++ [question] := by
  obtain ⟨question, isQuestion, held⟩ := exists_question asked
  have answered : (client.ask question).1 = .content (some (before ++ (document ++ after))) := next
  rw [held, answered]
  exact ⟨Reply.read_of_writes client.depth sound writes noBrace after, question, isQuestion, rfl⟩

/-- On 15 January 2025 the reply has words in front of the document and a brace behind it. -/
theorem hold_of_quotedBrace :
    (hold "tea".toList ⟨739266, by decide, by decide⟩
      ⟨true, [.content (some ("Sure: ".toList ++
        (("\x7b\"title\":\"Tea \\\"\x7b\\\" \\\\o\",\"dateRanges\":[\x7b" ++
          "\"start\":\"2025-01-17\",\"end\":\"2025-01-17\"\x7d],\"confidence\":9.5E-1\x7d").toList ++
        " or \x7b".toList)))], [], .usual⟩).outcome =
      .ok (some ⟨"Tea \"\x7b\" \\o".toList,
        [⟨⟨739268, by decide, by decide⟩, ⟨739268, by decide, by decide⟩, none, none⟩], none,
        .ofDecimal false 95 (-2)⟩) := by
  refine (hold_of_writes ⟨rfl, by decide, by decide⟩ ?_ Proposal.writesText_quotedBrace
    (by decide) rfl).1
  refine ⟨by decide, by decide, by decide, ?_, by decide +kernel, by decide +kernel⟩
  intro span isSpan
  obtain rfl := List.mem_singleton.1 isSpan
  exact ⟨by decide, by decide⟩

end Consultation

end Rendezvous
