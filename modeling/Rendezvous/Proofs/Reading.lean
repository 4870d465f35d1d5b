import Rendezvous.Proofs.Arbitration
import Rendezvous.Proofs.Phrase.Draft
import Rendezvous.Proofs.Phrase.Overrun
import Rendezvous.Proofs.Text.Loose
import Rendezvous.Service

/-!
Contract: which descriptions cannot be read.

Owns:
- `Description.Overruns`, the descriptions whose first phrase leads beyond the calendar, or
  has a number that is too long to be read;
- `reading_error_iff`: with a recognizer that always answers, and on days away from both ends
  of the calendar, these descriptions and no others end in a fault, whether they are read
  without help, by the arbiter, or by the service.

The service has one more fault: an event proposed by an assistant may have texts that cannot be
sent.
-/

namespace Rendezvous

/-- Why a description cannot be read. -/
inductive Description.Overruns (recognizer : Recognizer) (text : Text) (now : Moment) :
    Fault → Prop where
  | weekends {found : Pattern.Match Part} {fault : Fault}
      (isFirst : Phrase.first? text = some (.weekendsNext, found))
      (overrun : Phrase.WeekendsOverrun found now.day fault) : Overruns recognizer text now fault
  | month {phrase : Phrase} {found : Pattern.Match Part} {fault : Fault}
      (isFirst : Phrase.first? text = some (phrase, found)) (namesMonth : phrase.NamesMonth)
      (overrun : Phrase.MonthOverrun recognizer found now fault) :
      Overruns recognizer text now fault

/-! ## Drafts -/

variable {recognizer : Recognizer} {text : Text} {now : Moment} {fault : Fault}

/-- The draft of a phrase is missing where its days are. -/
theorem Phrase.draft_error_iff (total : recognizer.IsTotal) (phrase : Phrase)
    (found : Pattern.Match Part) :
    phrase.draft recognizer text found now = .error fault ↔
      phrase.days recognizer found now = .error fault := by
  obtain ⟨mentions, areMentions⟩ := total.exists_extract (text.drop found.stop) now
  rw [draft]
  cases phrase.days recognizer found now with
  | error other => rw [Result.error_bind, Except.error.injEq, Except.error.injEq]
  | ok days =>
      rw [Result.ok_bind, draftOf, timesAfter, areMentions]
      exact iff_of_false (Result.ok_ne_error _ fault) (Result.ok_ne_error days fault)

theorem Draft.exists_ofMentions (total : recognizer.IsTotal) (text : Text) (now : Moment) :
    ∃ draft, ofMentions recognizer text now = .ok draft := by
  obtain ⟨mentions, areMentions⟩ := total.exists_extract text now
  rw [ofMentions, areMentions, Result.ok_bind]
  dsimp only
  split
  next => exact ⟨_, rfl⟩
  next => exact ⟨_, rfl⟩

/-- The first phrase of a description decides whether it can be read. -/
theorem Description.overruns_iff {phrase : Phrase} {found : Pattern.Match Part}
    (isFirst : Phrase.first? text = some (phrase, found)) :
    Overruns recognizer text now fault ↔
      (phrase = .weekendsNext ∧ Phrase.WeekendsOverrun found now.day fault) ∨
      (phrase.NamesMonth ∧ Phrase.MonthOverrun recognizer found now fault) := by
  constructor
  · intro overruns
    cases overruns with
    | weekends isOther overrun =>
        obtain ⟨rfl, rfl⟩ := Prod.mk.inj (Option.some.inj (isFirst.symm.trans isOther))
        exact Or.inl ⟨rfl, overrun⟩
    | month isOther namesMonth overrun =>
        obtain ⟨rfl, rfl⟩ := Prod.mk.inj (Option.some.inj (isFirst.symm.trans isOther))
        exact Or.inr ⟨namesMonth, overrun⟩
  · rintro (⟨rfl, overrun⟩ | ⟨namesMonth, overrun⟩)
    · exact .weekends isFirst overrun
    · exact .month isFirst namesMonth overrun

theorem Phrase.days_error_iff (total : recognizer.IsTotal) (afterFirst : 2 ≤ now.day.year)
    (beforeLast : now.day.year ≤ 9998) {phrase : Phrase} {found : Pattern.Match Part}
    (isFirst : first? text = some (phrase, found)) :
    phrase.days recognizer found now = .error fault ↔
      Description.Overruns recognizer text now fault := by
  rw [Description.overruns_iff isFirst]
  have isFound := find?_of_first? isFirst
  cases phrase with
  | weekendsNext =>
      rw [days, weekendsNextDays_error_iff]
      exact ⟨fun overrun => Or.inl ⟨rfl, overrun⟩, fun either => either.elim (·.2)
        fun month => absurd month.1 not_namesMonth_weekendsNext⟩
  | everyDayThisNext =>
      obtain ⟨days, areDays⟩ := everyDayThisNextDays_ok found now.day afterFirst beforeLast
      rw [Phrase.days, areDays]
      refine iff_of_false (Result.ok_ne_error days fault) ?_
      rintro (⟨isWeekends, -⟩ | ⟨namesMonth, -⟩)
      · contradiction
      · exact not_namesMonth_everyDayThisNext namesMonth
  | everyInMonth =>
      rw [days, daysInMonth_error_iff total (Or.inl rfl) isFound]
      exact ⟨fun overrun => Or.inr ⟨Or.inl rfl, overrun⟩, fun either => either.elim
        (fun weekends => absurd weekends.1 (by decide)) (·.2)⟩
  | pluralDaysInMonth =>
      rw [days, daysInMonth_error_iff total (Or.inr rfl) isFound]
      exact ⟨fun overrun => Or.inr ⟨Or.inr rfl, overrun⟩, fun either => either.elim
        (fun weekends => absurd weekends.1 (by decide)) (·.2)⟩

theorem Draft.ofText_error_iff (total : recognizer.IsTotal) (afterFirst : 2 ≤ now.day.year)
    (beforeLast : now.day.year ≤ 9998) :
    ofText recognizer text now = .error fault ↔
      Description.Overruns recognizer text now fault := by
  rw [ofText]
  cases isFirst : Phrase.first? text with
  | none =>
      obtain ⟨draft, isDraft⟩ := exists_ofMentions total text now
      dsimp only
      rw [isDraft]
      refine iff_of_false (Result.ok_ne_error draft fault) ?_
      intro overruns
      cases overruns with
      | weekends isOther _ => cases isFirst.symm.trans isOther
      | month isOther _ _ => cases isFirst.symm.trans isOther
  | some first =>
      obtain ⟨phrase, found⟩ := first
      dsimp only
      rw [Phrase.draft_error_iff total, Phrase.days_error_iff total afterFirst beforeLast isFirst]

/-! ## Events -/

theorem Event.ofText_error_iff :
    ofText recognizer text now = .error fault ↔
      Draft.ofText recognizer text now = .error fault := by
  rw [ofText]
  cases Draft.ofText recognizer text now with
  | error other => rw [Result.error_bind, Except.error.injEq, Except.error.injEq]
  | ok draft => exact iff_of_false (Result.ok_ne_error _ fault) (Result.ok_ne_error draft fault)

/-- The arbiter has no fault of its own. -/
theorem Arbiter.read_error_iff (client : Option Client) :
    (read recognizer text now client).outcome = .error fault ↔
      Event.ofText recognizer text now = .error fault := by
  constructor
  · intro failed
    have decides := decides_read recognizer text now client
    rw [failed] at decides
    generalize (read recognizer text now client).client = left at decides
    cases decides with
    | unreadable isFault => exact isFault
  · intro isFault
    exact (Decides.unreadable isFault : Decides recognizer text now client _ _).read_eq.1

theorem Arbiter.exists_read (client : Option Client) {localEvent : Event}
    (isLocal : Event.ofText recognizer text now = .ok localEvent) :
    ∃ event, (read recognizer text now client).outcome = .ok event := by
  cases isRead : (read recognizer text now client).outcome with
  | ok event => exact ⟨event, rfl⟩
  | error fault =>
      have failed := (read_error_iff client).1 isRead
      rw [isLocal] at failed
      contradiction

/-- A moment without a zone can be compared with every day. -/
theorem Event.verdict_of_noZone (event : Event) (moment : Moment) :
    event.verdict ⟨moment, false⟩ = .ok (event.objections moment) := by
  simp [verdict]

/-! ## The service -/

namespace Service

/-- Why a description in the body of a request cannot be answered. -/
inductive Unanswerable (recognizer : Recognizer) (now : Moment) (client : Option Client)
    (description : LooseText) : Fault → Prop where
  | overrun {fault : Fault}
      (overruns : Description.Overruns recognizer description.withoutHalves now fault) :
      Unanswerable recognizer now client description fault
  /-- The answer would have to spell a half of a surrogate pair. -/
  | unwritable {event : Event}
      (isRead : (Arbiter.read recognizer description.withoutHalves now client).outcome = .ok event)
      (unsendable : description.isText = false ∨ isRepeatable event = false) :
      Unanswerable recognizer now client description .unwritableAnswer

/-- The request to read the description in a body. -/
def readingRequest (depth : Json.Depth) (body : Text) : Request :=
  { method := Route.reading.method, path := Route.reading.path, body, depth }

theorem answer_readingRequest (recognizer : Recognizer) (now : Instant) (client : Option Client)
    (depth : Json.Depth) (body : Text) :
    answer recognizer now client (readingRequest depth body) =
      answerReading recognizer now client depth body :=
  rfl

theorem respond_error_iff (moment : Moment) (description : LooseText) (event : Event)
    (fault : Fault) :
    respond ⟨moment, false⟩ description event = .error fault ↔
      fault = .unwritableAnswer ∧ (description.isText = false ∨ isRepeatable event = false) := by
  rw [respond, Event.verdict_of_noZone, Result.ok_bind, ← Bool.and_eq_false_iff]
  cases description.isText && isRepeatable event with
  | true => exact iff_of_false (Result.ok_ne_error _ fault) fun unsendable =>
      Bool.noConfusion unsendable.2
  | false => exact ⟨fun failed => ⟨(Except.error.inj failed).symm, rfl⟩,
      fun unsendable => congrArg Except.error unsendable.1.symm⟩

/-- A description with some text is read by the arbiter. -/
theorem answerReading_of_text (recognizer : Recognizer) (moment : Instant)
    (client : Option Client) {depth : Json.Depth} {body : Text} {description : LooseText}
    (isDescription : readBody depth body = .ok (.inl description))
    (someText : description.withoutHalves.isAllBlank = false) :
    let ruling := Arbiter.read recognizer description.withoutHalves moment.moment client
    (answerReading recognizer moment client depth body).outcome =
        (ruling.outcome >>= respond moment description) ∧
      (answerReading recognizer moment client depth body).client = ruling.client := by
  unfold answerReading
  rw [isDescription]
  dsimp only
  rw [if_neg (Bool.eq_false_iff.1 someText)]
  exact ⟨rfl, rfl⟩

/-- Apart from the texts that cannot be sent, the service has no fault of its own. -/
theorem answerReading_error_iff (total : recognizer.IsTotal) (afterFirst : 2 ≤ now.day.year)
    (beforeLast : now.day.year ≤ 9998) (client : Option Client) {depth : Json.Depth} {body : Text}
    {description : LooseText} (isDescription : readBody depth body = .ok (.inl description))
    (someText : description.withoutHalves.isAllBlank = false) :
    (answerReading recognizer ⟨now, false⟩ client depth body).outcome = .error fault ↔
      Unanswerable recognizer now client description fault := by
  rw [(answerReading_of_text _ _ _ isDescription someText).1, Result.bind_eq_error_iff,
    Arbiter.read_error_iff, Event.ofText_error_iff,
    Draft.ofText_error_iff total afterFirst beforeLast]
  constructor
  · rintro (overruns | ⟨event, isRead, failed⟩)
    · exact .overrun overruns
    · obtain ⟨rfl, unsendable⟩ := (respond_error_iff _ _ _ _).1 failed
      exact .unwritable isRead unsendable
  · intro unanswerable
    cases unanswerable with
    | overrun overruns => exact Or.inl overruns
    | unwritable isRead unsendable =>
        exact Or.inr ⟨_, isRead, (respond_error_iff _ _ _ _).2 ⟨rfl, unsendable⟩⟩

end Service

/-! ## Every way of reading a description -/

/-- A description is beyond reading exactly where it overruns, whichever way it comes. -/
theorem reading_error_iff (recognizer : Recognizer) (total : recognizer.IsTotal) (now : Moment)
    (afterFirst : 2 ≤ now.day.year) (beforeLast : now.day.year ≤ 9998) (fault : Fault) :
    (∀ text, Event.ofText recognizer text now = .error fault ↔
      Description.Overruns recognizer text now fault) ∧
    (∀ text client, (Arbiter.read recognizer text now client).outcome = .error fault ↔
      Description.Overruns recognizer text now fault) ∧
    ∀ client depth body description, Service.readBody depth body = .ok (.inl description) →
      description.withoutHalves.isAllBlank = false →
      ((Service.answer recognizer ⟨now, false⟩ client
          (Service.readingRequest depth body)).outcome = .error fault ↔
        Service.Unanswerable recognizer now client description fault) := by
  have reads : ∀ text, Event.ofText recognizer text now = .error fault ↔
      Description.Overruns recognizer text now fault := fun text =>
    Event.ofText_error_iff.trans (Draft.ofText_error_iff total afterFirst beforeLast)
  refine ⟨reads, ?_, ?_⟩
  · intro text client
    exact (Arbiter.read_error_iff client).trans (reads text)
  · intro client depth body description isDescription someText
    rw [Service.answer_readingRequest]
    exact Service.answerReading_error_iff total afterFirst beforeLast client isDescription someText

/-- Counted from January 2025, 99999 months end in the year 10358. -/
theorem ofText_weekends_overrun :
    Event.ofText (.ofTable ⟨[], []⟩) "weekends for the next 99999 months".toList
      (.midnight ⟨739266, by decide, by decide⟩) = .error (.yearOutOfRange 10358) := by
  decide +kernel

/-- The service has no answer to them either. -/
theorem answer_weekends_overrun :
    (Service.answer (.ofTable ⟨[], []⟩) ⟨.midnight ⟨739266, by decide, by decide⟩, false⟩ none
      (Service.readingRequest .usual
        "\x7b\"description\": \"weekends for the next 99999 months\"\x7d".toList)).outcome =
      .error (.yearOutOfRange 10358) := by
  have year : Day.year ⟨739266, by decide, by decide⟩ = 2025 := by decide +kernel
  obtain ⟨byItself, -, byService⟩ := reading_error_iff (.ofTable ⟨[], []⟩)
    (Recognizer.ofTable_isTotal _) (.midnight ⟨739266, by decide, by decide⟩)
    (by rw [Moment.midnight, year]; decide) (by rw [Moment.midnight, year]; decide)
    (.yearOutOfRange 10358)
  have overruns := (byItself "weekends for the next 99999 months".toList).1 (by decide +kernel)
  refine (byService none .usual _ (Text.loose "weekends for the next 99999 months".toList)
    (by decide +kernel) (by decide +kernel)).2 (.overrun ?_)
  rw [Text.withoutHalves_loose]
  exact overruns

end Rendezvous
