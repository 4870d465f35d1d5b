import Rendezvous.Proofs.Asking
import Rendezvous.Proofs.Calendar.Label
import Rendezvous.Proofs.Event
import Rendezvous.Proofs.Json.Written
import Rendezvous.Proofs.Reading

/-!
Contract: what the service answers to a description.

Owns:
- `Service.bodyOf` and `Service.readBody_bodyOf`: every text can be sent to the service;
- `Service.Response.Presents`, an answer that shows an event with all that belongs to it;
- `Service.answer_description`: a description is answered with the event that the arbiter comes
  to, unless an assistant brought a text into it that cannot be sent.
-/

namespace Rendezvous.Service

/-! ## Bodies -/

/-- The body with a description. -/
def bodyOf (text : Text) : Text :=
  Json.write (.object [(descriptionName.loose, .ofText text)])

theorem bodyOf_eq (text : Text) :
    bodyOf text = "\x7b\"description\":".toList ++ (Json.write (.ofText text) ++ ['\x7d']) := by
  rw [bodyOf, Json.write, Json.writeMembers]
  rfl

/-- Four bytes in a row that are not zero are those of the usual encoding. -/
theorem decode?_bodyOf (text : Text) :
    Encoding.decode? (bodyOf text) = some (bodyOf text).loose := by
  have isUsual : Encoding.ofBytes (Encoding.bytesOf (bodyOf text)) = .utf8 := by
    rw [bodyOf_eq]
    rfl
  rw [Encoding.decode?, isUsual]

theorem readBody_bodyOf (depth : Json.Depth) (text : Text) :
    readBody depth (bodyOf text) = .ok (.inl text.loose) := by
  have notEmpty : ¬ (bodyOf text).isEmpty = true := by
    rw [bodyOf_eq]
    simp
  have unmarkedBody : unmarked (bodyOf text) = bodyOf text := by
    rw [bodyOf_eq]
    rfl
  rw [readBody, if_neg notEmpty, decode?_bodyOf]
  dsimp only
  rw [Text.withoutHalves_loose, readText, unmarkedBody, bodyOf, Json.read_write_member]
  rfl

/-! ## Answers -/

/-- An answer shows an event, what speaks against it, and its days under different labels. -/
structure Response.Presents (response : Response) (event : Event) (now : Moment) : Prop where
  succeeds : response.status = 200
  content : ∃ objections, response = .event event objections ∧
    event.verdict ⟨now, false⟩ = .ok objections ∧ (response.isValid = true ↔ objections = [])
  labels : response.labels = event.days.map Day.labelWithYear
  nodup : response.labels.Nodup

section Answering

variable {recognizer : Recognizer} {text : Text} {now : Moment} {client : Option Client}
  {event : Event} {description : LooseText} {depth : Json.Depth} {body : Text}

theorem answerReading_of_blank (isDescription : readBody depth body = .ok (.inl description))
    (blank : description.withoutHalves.isAllBlank = true) (moment : Instant) :
    answerReading recognizer moment client depth body = ⟨.ok .blankDescription, client, []⟩ := by
  unfold answerReading
  rw [isDescription]
  exact if_pos blank

/-- A day is shown under one label only. -/
theorem exists_presents (ascends : event.days.Pairwise (· < ·)) (isText : description.isText = true)
    (repeatable : isRepeatable event = true) :
    ∃ response, respond ⟨now, false⟩ description event = .ok response ∧
      response.Presents event now := by
  have isVerdict := event.verdict_of_noZone now
  refine ⟨.event event (event.objections now), ?_, rfl, ⟨_, rfl, isVerdict, ?_⟩, rfl, ?_⟩
  · simp [respond, isVerdict, isText, repeatable]
  · exact List.isEmpty_iff
  · exact (Day.nodup_labels_iff _).2 (Day.nodup_of_ascends ascends)

/-- What is read without help can be sent. -/
theorem isRepeatable_of_ofText (isRead : Event.ofText recognizer text now = .ok event) :
    isRepeatable event = true := by
  obtain ⟨draft, -, rfl⟩ := Event.exists_draft isRead
  simp [isRepeatable, Event.ofDraft, LooseText.isText, LooseText.text?]

end Answering

/-- Every text can be sent to the service.  A blank description is refused and nobody is asked;
any other one is answered with the event that the arbiter comes to, unless the answer would have a
half of a surrogate pair, which can only come from the request or from the assistant. -/
theorem answer_description (recognizer : Recognizer) (now : Moment) (client : Option Client)
    (depth : Json.Depth) :
    (∀ text : Text, readBody depth (bodyOf text) = .ok (.inl text.loose)) ∧
    ∀ body description, readBody depth body = .ok (.inl description) →
      let text := description.withoutHalves
      let ruling := Arbiter.read recognizer text now client
      let answered := answer recognizer ⟨now, false⟩ client (readingRequest depth body)
      (text.isAllBlank = true →
        answered.outcome = .ok .blankDescription ∧ Response.blankDescription.status = 400 ∧
          answered.client = client) ∧
      ∀ localEvent, text.isAllBlank = false → Event.ofText recognizer text now = .ok localEvent →
        ∃ event, ruling.outcome = .ok event ∧ answered.client = ruling.client ∧
          (∃ asked : List Question, asked.length ≤ 1 ∧
            Arbiter.questionsOf answered.client = Arbiter.questionsOf client ++ asked) ∧
          (description.isText = true ∧ isRepeatable event = true →
            ∃ response, answered.outcome = .ok response ∧ response.Presents event now) ∧
          (description.isText = false ∨ isRepeatable event = false →
            answered.outcome = .error .unwritableAnswer) ∧
          (isRepeatable event = false → Arbiter.Offers text now client event) := by
  refine ⟨readBody_bodyOf depth, ?_⟩
  intro body description isDescription text ruling answered
  have byReading : answered = answerReading recognizer ⟨now, false⟩ client depth body :=
    answer_readingRequest recognizer ⟨now, false⟩ client depth body
  refine ⟨?_, ?_⟩
  · intro blank
    rw [byReading, answerReading_of_blank isDescription blank]
    exact ⟨rfl, rfl, rfl⟩
  · intro localEvent someText isLocal
    obtain ⟨outcome, left⟩ := answerReading_of_text recognizer ⟨now, false⟩ client isDescription
      someText
    obtain ⟨event, isRead⟩ := Arbiter.exists_read client isLocal
    have isReading := Arbiter.read_isReading isRead
    rw [isRead, Result.ok_bind] at outcome
    rw [byReading, outcome, left]
    refine ⟨event, isRead, rfl, Arbiter.exists_questions recognizer text now client, ?_, ?_, ?_⟩
    · rintro ⟨isText, repeatable⟩
      exact exists_presents isReading.ascends isText repeatable
    · intro unsendable
      exact (respond_error_iff now description event .unwritableAnswer).2 ⟨rfl, unsendable⟩
    · intro notRepeatable
      rcases isReading.origin with isFound | offered
      · rw [isRepeatable_of_ofText isFound] at notRepeatable
        contradiction
      · exact offered

/-! ## An answer that cannot be sent -/

/-- An assistant that proposes a book club on 15 January 2025 at a time. -/
def clubClient (time : Text) : Client where
  available := true
  answers := [.content (some ("\x7b\"title\":\"Club\",\"dateRanges\":[\x7b\"start\":".toList ++
    "\"2025-01-15\",\"end\":\"2025-01-15\",\"times\":[\"".toList ++
    (time ++ "\"]\x7d],\"confidence\":0.9\x7d".toList)))]
  asked := []

/-- The event of that proposal. -/
def club (time : LooseText) : Event where
  title := "Club".toList
  days := [.january15]
  times := [time]
  description := some []
  raw := "book club sometime".toList

/-- The club is asked about at the beginning of its day. -/
def clubMoment : Moment :=
  .midnight .january15

/-- A club at seven is shown, and three blanks are no description. -/
theorem answer_club :
    (∃ response, (answer (.ofTable ⟨[], []⟩) ⟨clubMoment, false⟩ (some (clubClient "7 PM".toList))
        (readingRequest .usual (bodyOf (club []).raw))).outcome = .ok response ∧
      response.Presents (club (Text.loose "7 PM".toList)) clubMoment) ∧
    (answer (.ofTable ⟨[], []⟩) ⟨clubMoment, false⟩ (some (clubClient "7 PM".toList))
      (readingRequest .usual (bodyOf "   ".toList))).outcome = .ok .blankDescription := by
  have isRead : (Arbiter.read (.ofTable ⟨[], []⟩) (Text.loose (club []).raw).withoutHalves
      clubMoment (some (clubClient "7 PM".toList))).outcome =
      .ok (club (Text.loose "7 PM".toList)) := by
    decide +kernel
  obtain ⟨isSent, answers⟩ :=
    answer_description (.ofTable ⟨[], []⟩) clubMoment (some (clubClient "7 PM".toList)) .usual
  constructor
  · obtain ⟨event, isEvent, -, -, sent, -⟩ := (answers _ _ (isSent (club []).raw)).2
      ⟨(club []).raw, [], [], some [], (club []).raw⟩ (by decide +kernel) (by decide +kernel)
    obtain rfl := Except.ok.inj (isEvent.symm.trans isRead)
    exact sent ⟨by decide +kernel, by decide +kernel⟩
  · exact ((answers _ _ (isSent "   ".toList)).1 (by decide +kernel)).1

/-- A club at half of a surrogate pair is not, though the description can be read. -/
theorem answer_club_unwritable :
    Event.ofText (.ofTable ⟨[], []⟩) (club []).raw clubMoment =
        .ok ⟨(club []).raw, [], [], some [], (club []).raw⟩ ∧
      readBody .usual (bodyOf (club []).raw) = .ok (.inl (Text.loose (club []).raw)) ∧
      (answer (.ofTable ⟨[], []⟩) ⟨clubMoment, false⟩ (some (clubClient "\\ud800".toList))
        (readingRequest .usual (bodyOf (club []).raw))).outcome = .error .unwritableAnswer := by
  refine ⟨by decide +kernel, readBody_bodyOf .usual _, by decide +kernel⟩

end Rendezvous.Service
