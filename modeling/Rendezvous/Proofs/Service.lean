import Rendezvous.Proofs.Session
import Rendezvous.Service

/-!
Contract: the events that the service answers with, and all others, are readings.

Owns:
- `Service.Response.detail?_isSome_iff` and `Service.Response.detail?_injOn`: which answers have a
  detail, and that it tells them apart;
- `Service.status_of_refused`: a body without a description is never answered with success;
- `Service.answer_isReading`, which finds the description that an answered event was read from;
- `isReading_everywhere`, which covers every way in which an event is returned.
-/

namespace Rendezvous

namespace Service

/-! ## Details -/

/-- A detail stands in the answers that refuse without the issues of a body. -/
theorem Response.detail?_isSome_iff (response : Response) :
    response.detail?.isSome = true ↔
      response.status = 400 ∨ response.status = 404 ∨ response.status = 405 := by
  cases response <;> simp [detail?, status]

/-- A detail tells which answer it stands in. -/
theorem Response.detail?_injOn {first second : Response}
    (hasDetail : first.detail?.isSome = true) (same : first.detail? = second.detail?) :
    first = second := by
  cases first <;> cases second <;> simp_all [detail?]

/-! ## Refused bodies -/

variable {depth : Json.Depth} {body : Text} {response : Response}

theorem status_of_refuse {flaw : Schema.Flaw} {path : List Schema.Step} {repeated : Json}
    (refused : refusal (refuse flaw path repeated) = .ok (.inr response)) :
    response.status ≠ 200 := by
  unfold refuse at refused
  split at refused
  next => contradiction
  next =>
    obtain rfl := Sum.inr.inj (Except.ok.inj refused)
    simp [Response.status]

theorem status_of_description {document : Json}
    (refused : description document = .ok (.inr response)) : response.status ≠ 200 := by
  unfold description at refused
  split at refused
  next => exact status_of_refuse refused
  next =>
    split at refused
    next => exact status_of_refuse refused
    next => simp at refused
    next => exact status_of_refuse refused
  next => exact status_of_refuse refused

theorem status_of_readText (refused : readText depth body = .ok (.inr response)) :
    response.status ≠ 200 := by
  unfold readText at refused
  split at refused
  next => exact status_of_description refused
  next =>
    obtain rfl := Sum.inr.inj (Except.ok.inj refused)
    simp [Response.status]
  next =>
    obtain rfl := Sum.inr.inj (Except.ok.inj refused)
    decide

theorem status_of_refused (refused : readBody depth body = .ok (.inr response)) :
    response.status ≠ 200 := by
  unfold readBody at refused
  split at refused
  next => exact status_of_refuse refused
  next =>
    split at refused
    next => exact status_of_readText refused
    next =>
      obtain rfl := Sum.inr.inj (Except.ok.inj refused)
      decide

/-! ## Events -/

variable {recognizer : Recognizer} {now : Instant} {client : Option Client} {event : Event}
  {objections : List Objection}

/-- An event is answered for a description that is a text. -/
theorem isText_of_respond {description : LooseText} {read : Event}
    (answered : respond now description read = .ok (.event event objections)) :
    read = event ∧ description.isText = true := by
  obtain ⟨verdict, -, rest⟩ := (Result.bind_eq_ok_iff _ _ _).1 answered
  split at rest
  next sendable =>
    rw [Bool.and_eq_true] at sendable
    exact ⟨(Response.event.inj (Except.ok.inj rest)).1, sendable.1⟩
  next => contradiction

theorem answerReading_isReading
    (answered : (answerReading recognizer now client depth body).outcome =
      .ok (.event event objections)) :
    ∃ text : Text, readBody depth body = .ok (.inl text.loose) ∧
      event.IsReading recognizer text now.moment client := by
  unfold answerReading at answered
  split at answered
  next => contradiction
  next response refused =>
    obtain rfl := Except.ok.inj answered
    exact absurd rfl (status_of_refused refused)
  next description isDescription =>
    dsimp only at answered
    split at answered
    next => simp at answered
    next =>
      obtain ⟨read, isRead, responded⟩ := (Result.bind_eq_ok_iff _ _ _).1 answered
      obtain ⟨rfl, isText⟩ := isText_of_respond responded
      obtain ⟨text, rfl⟩ := (LooseText.isText_iff description).1 isText
      rw [Text.withoutHalves_loose] at isRead
      exact ⟨text, isDescription, Arbiter.read_isReading isRead⟩

theorem answer_isReading {request : Request}
    (answered : (answer recognizer now client request).outcome = .ok (.event event objections)) :
    ∃ text : Text, readBody request.depth request.body = .ok (.inl text.loose) ∧
      event.IsReading recognizer text now.moment client := by
  unfold answer at answered
  split at answered
  next => simp at answered
  next route _ =>
    split at answered
    next =>
      cases route with
      | health => simp at answered
      | reading => exact answerReading_isReading answered
    next => simp at answered

end Service

/-! ## Every way in which an event is returned -/

/-- Whichever way an event is returned, its days ascend, its times are distinct, its origin is the
text that was given, and times that were read without help are shown on a twelve-hour clock. -/
theorem isReading_everywhere (recognizer : Recognizer) (event : Event) :
    (∀ text now client, Event.ofText recognizer text now = .ok event →
      event.IsReading recognizer text now client) ∧
    (∀ text now client, (Arbiter.read recognizer text now client).outcome = .ok event →
      event.IsReading recognizer text now client) ∧
    (∀ text now client, (Arbiter.readByDefault recognizer text now client).outcome = .ok event →
      event.IsReading recognizer text now (some (client.getD .unavailable))) ∧
    (∀ (session : Session) before text now later report, session.recognizer = recognizer →
      (session.run (before ++ .read text now :: later))[before.length]? = some report →
      report.outcome = .event event →
      event.IsReading recognizer text now (session.reached before).assistant?) ∧
    ∀ now client request objections,
      (Service.answer recognizer now client request).outcome = .ok (.event event objections) →
      ∃ text : Text, Service.readBody request.depth request.body = .ok (.inl text.loose) ∧
        event.IsReading recognizer text now.moment client := by
  refine ⟨?_, ?_, ?_, ?_, ?_⟩
  · intro text now client isRead
    exact Event.ofText_isReading isRead client
  · intro text now client isRead
    exact Arbiter.read_isReading isRead
  · intro text now client isRead
    exact Arbiter.readByDefault_isReading isRead
  · intro session before text now later report same isReported isEvent
    rw [← same]
    exact Session.run_isReading isReported isEvent
  · intro now client request objections answered
    exact Service.answer_isReading answered

/-- A recognizer that knows when "dinner tomorrow at 8pm" is, asked on 15 January 2025. -/
def dinnerRecognizer : Recognizer :=
  .ofTable {
    mentions := [("dinner tomorrow at 8pm".toList, [{
      text := "tomorrow at 8pm".toList
      start := 7
      stop := 22
      value := ⟨⟨739267, by decide, by decide⟩, { Clock.midnight with hour := ⟨20, by decide⟩ }⟩
      hasDate := true
      hasTime := true }])]
    readings := [] }

/-- What "dinner tomorrow at 8pm" means on that day. -/
def dinner : Event where
  title := "dinner tomorrow at 8pm".toList
  days := [⟨739267, by decide, by decide⟩]
  times := [Text.loose "8:00 PM".toList]
  description := some []
  raw := "dinner tomorrow at 8pm".toList

/-- The dinner is a reading of its text, whichever way it is returned. -/
theorem isReading_dinner :
    (∃ report, ((Session.start dinnerRecognizer none).run
        [.labels, .read dinner.raw (.midnight ⟨739266, by decide, by decide⟩), .confidence])[1]? =
          some report ∧ report.outcome = .event dinner) ∧
    dinner.IsReading dinnerRecognizer dinner.raw (.midnight ⟨739266, by decide, by decide⟩) none ∧
    ∃ text : Text,
      Service.readBody .usual "\x7b\"description\": \"dinner tomorrow at 8pm\"\x7d".toList =
        .ok (.inl text.loose) ∧
      dinner.IsReading dinnerRecognizer text (.midnight ⟨739266, by decide, by decide⟩) none := by
  have isRead : (Arbiter.read dinnerRecognizer dinner.raw
      (.midnight ⟨739266, by decide, by decide⟩) none).outcome = .ok dinner := by
    decide +kernel
  have isReported := Session.run_getElem? (.start dinnerRecognizer none) [.labels]
    (.read dinner.raw (.midnight ⟨739266, by decide, by decide⟩)) [.confidence]
  have isEvent : ((Session.start dinnerRecognizer none).performRead dinner.raw
      (.midnight ⟨739266, by decide, by decide⟩)).1.outcome = .event dinner :=
    Session.perform_read_of_ok isRead
  obtain ⟨-, -, -, inSession, byService⟩ := isReading_everywhere dinnerRecognizer dinner
  refine ⟨⟨_, isReported, isEvent⟩, ?_, ?_⟩
  · exact inSession (.start dinnerRecognizer none) [.labels] dinner.raw _ [.confidence] _ rfl
      isReported isEvent
  · exact byService ⟨.midnight ⟨739266, by decide, by decide⟩, false⟩ none
      ⟨"POST".toList, "/events/parse".toList,
        "\x7b\"description\": \"dinner tomorrow at 8pm\"\x7d".toList, .usual⟩ [] (by decide +kernel)

end Rendezvous
