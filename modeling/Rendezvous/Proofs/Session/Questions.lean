import Rendezvous.Proofs.Asking
import Rendezvous.Proofs.Session

/-!
Contract: which steps of a session put a question to the assistant, and that nothing else of the
steps before matters to a reading.

Owns:
- `Session.Asks`, the steps at which the assistant is asked;
- `Session.questions_of_asks` and `Session.questions_of_silent` for one step, and
  `Session.run_report` for each step of a run.
-/

namespace Rendezvous.Session

/-- The questions that the assistant was asked. -/
def questions (session : Session) : List Question :=
  Arbiter.questionsOf session.client

theorem calls_eq_length (session : Session) : session.calls = session.questions.length := by
  unfold calls questions
  cases session.client <;> rfl

/-- A question about a text can be put: there is an assistant, who may be asked and is there, the
text says something, and the calendar has the day ninety days later. -/
structure CanAsk (session : Session) (text : Text) (now : Moment) : Prop where
  attached : session.attached = true
  asked : ∃ client, session.client = some client ∧ Consultation.IsAsked text now.day client

/-- The steps at which the assistant is asked about a text: readings of which the arbiter is
unsure, and proposals. -/
inductive Asks (session : Session) : Step → Text → Moment → Prop where
  | read {text : Text} {now : Moment}
      (unsure : Arbiter.IsUnsure session.recognizer text now) (canAsk : session.CanAsk text now) :
      Asks session (.read text now) text now
  | propose {text : Text} {now : Moment} (canAsk : session.CanAsk text now) :
      Asks session (.propose text now) text now

variable {session : Session} {step : Step} {text : Text} {now : Moment}

theorem Asks.step_eq (asks : session.Asks step text now) :
    step = .read text now ∨ step = .propose text now := by
  cases asks with
  | read => exact Or.inl rfl
  | propose => exact Or.inr rfl

/-! ## One step -/

/-- The number in a report is that of the state reached. -/
theorem perform_calls (session : Session) (step : Step) :
    (session.perform step).1.calls = (session.perform step).2.calls := by
  cases step with
  | read text now =>
      rw [perform, performRead]
      split <;> rfl
  | propose text now =>
      rw [perform, performPropose]
      split <;> rfl
  | validate | confidence | labels | setAvailable | push | detach | attach => rfl

theorem questions_perform_read (session : Session) (text : Text) (now : Moment) :
    (session.perform (.read text now)).2.questions =
      (session.withAssistant
        (Arbiter.read session.recognizer text now session.assistant?).client).questions := by
  rw [perform, performRead]
  -- An event and a fault differ in the latest event only.
  split <;> rfl

theorem questions_perform_propose (session : Session) (text : Text) (now : Moment) :
    (session.perform (.propose text now)).2.questions =
      (session.withAssistant (Arbiter.propose text now session.assistant?).client).questions := by
  rw [perform, performPropose]
  split <;> rfl

theorem questions_withAssistant (session : Session) :
    (session.withAssistant session.assistant?).questions = session.questions := by
  unfold withAssistant assistant?
  split <;> rfl

/-- What is done to the assistant by others puts no question. -/
theorem questions_update (session : Session) {update : Client → Client}
    (keeps : ∀ client, (update client).asked = client.asked) :
    ({ session with client := session.client.map update } : Session).questions =
      session.questions := by
  unfold questions
  cases session.client with
  | none => rfl
  | some client => exact keeps client

theorem exists_question_of_canAsk (canAsk : session.CanAsk text now) :
    ∃ question : Question, question.IsAbout text now.day ∧
      (session.withAssistant (Arbiter.propose text now session.assistant?).client).questions =
        session.questions ++ [question] := by
  obtain ⟨attached, client, present, asked⟩ := canAsk
  obtain ⟨question, isAbout, isAsked⟩ := Consultation.exists_asked asked
  refine ⟨question, isAbout, ?_⟩
  simp [assistant?, withAssistant, questions, Arbiter.questionsOf, Arbiter.propose, attached,
    present, isAsked]

theorem questions_of_not_canAsk (silent : ¬ session.CanAsk text now) :
    (session.withAssistant (Arbiter.propose text now session.assistant?).client).questions =
      session.questions := by
  have same : (Arbiter.propose text now session.assistant?).client = session.assistant? := by
    cases isAssistant : session.assistant? with
    | none => rfl
    | some client =>
        obtain ⟨attached, present⟩ := Option.ite_none_right_eq_some.1 isAssistant
        have unasked : ¬ Consultation.IsAsked text now.day client := by
          intro asked
          exact silent ⟨attached, client, present, asked⟩
        exact congrArg some (Consultation.client_of_unasked unasked)
  rw [same, questions_withAssistant]

/-- A step that asks puts one question, about its own text. -/
theorem questions_of_asks (asks : session.Asks step text now) :
    ∃ question : Question, question.IsAbout text now.day ∧
      (session.perform step).2.questions = session.questions ++ [question] := by
  cases asks with
  | read unsure canAsk =>
      rw [questions_perform_read, Arbiter.client_of_unsure unsure]
      exact exists_question_of_canAsk canAsk
  | propose canAsk =>
      rw [questions_perform_propose]
      exact exists_question_of_canAsk canAsk

/-- No other step puts one. -/
theorem questions_of_silent (silent : ∀ text now, ¬ session.Asks step text now) :
    (session.perform step).2.questions = session.questions := by
  cases step with
  | read text now =>
      rw [questions_perform_read]
      by_cases unsure : Arbiter.IsUnsure session.recognizer text now
      · rw [Arbiter.client_of_unsure unsure]
        apply questions_of_not_canAsk
        intro canAsk
        exact silent text now (.read unsure canAsk)
      · rw [Arbiter.client_of_not_unsure unsure, questions_withAssistant]
  | propose text now =>
      rw [questions_perform_propose]
      apply questions_of_not_canAsk
      intro canAsk
      exact silent text now (.propose canAsk)
  | setAvailable available => exact questions_update session fun _ => rfl
  | push answers => exact questions_update session fun _ => rfl
  | validate | confidence | labels | detach | attach => rfl

/-- The number of questions grows by one at the steps that ask, and at no other. -/
theorem perform_calls_iff (session : Session) (step : Step) :
    ((session.perform step).1.calls = session.calls + 1 ↔ ∃ text now, session.Asks step text now) ∧
    ((session.perform step).1.calls = session.calls ↔ ¬ ∃ text now, session.Asks step text now) := by
  rw [perform_calls, calls_eq_length, calls_eq_length]
  by_cases asks : ∃ text now, session.Asks step text now
  · obtain ⟨text, now, isAsked⟩ := asks
    obtain ⟨question, -, areQuestions⟩ := questions_of_asks isAsked
    have asks : ∃ text now, session.Asks step text now := ⟨text, now, isAsked⟩
    simp [areQuestions, asks]
  · have areQuestions := questions_of_silent (by simpa using asks)
    simp [areQuestions, asks]

/-- What a reading comes to, as it is reported. -/
def Outcome.ofReading : Result Event → Outcome
  | .ok found => .event found
  | .error failure => .fault failure

theorem perform_read (session : Session) (text : Text) (now : Moment) :
    let ruling := Arbiter.read session.recognizer text now session.assistant?
    (session.perform (.read text now)).1.outcome = .ofReading ruling.outcome ∧
      (session.perform (.read text now)).1.notices = ruling.notices := by
  rw [perform, performRead]
  dsimp only
  split
  next event isRead => simp [isRead, report, Outcome.ofReading]
  next fault failed => simp [failed, report, Outcome.ofReading]

/-! ## A whole run -/

theorem reached_cons (session : Session) (step : Step) (others : List Step) :
    session.reached (step :: others) = (session.perform step).2.reached others :=
  rfl

theorem reached_concat (session : Session) (before : List Step) (step : Step) :
    session.reached (before ++ [step]) = ((session.reached before).perform step).2 := by
  simp [reached]

/-- Questions are only ever added, no more of them than there are steps, and each about the text of
a step. -/
theorem exists_questions_reached (session : Session) (steps : List Step) :
    ∃ asked : List Question, asked.length ≤ steps.length ∧
      (session.reached steps).questions = session.questions ++ asked ∧
      ∀ question ∈ asked, ∃ text now, (.read text now ∈ steps ∨ .propose text now ∈ steps) ∧
        question.IsAbout text now.day := by
  induction steps generalizing session with
  | nil => exact ⟨[], Nat.le_refl _, (List.append_nil _).symm, List.forall_mem_nil _⟩
  | cons step others inductionHypothesis =>
      obtain ⟨later, few, areLater, areAbout⟩ := inductionHypothesis (session.perform step).2
      have ofOthers : ∀ question ∈ later, ∃ text now,
          (.read text now ∈ step :: others ∨ .propose text now ∈ step :: others) ∧
            question.IsAbout text now.day := by
        intro question isLater
        obtain ⟨text, now, isStep, isAbout⟩ := areAbout question isLater
        exact ⟨text, now, isStep.imp (List.mem_cons_of_mem _) (List.mem_cons_of_mem _), isAbout⟩
      by_cases asks : ∃ text now, session.Asks step text now
      · obtain ⟨text, now, isAsked⟩ := asks
        obtain ⟨question, isAbout, areQuestions⟩ := questions_of_asks isAsked
        refine ⟨question :: later, Nat.succ_le_succ few, ?_, ?_⟩
        · rw [reached_cons, areLater, areQuestions, List.append_assoc, List.singleton_append]
        · refine List.forall_mem_cons.2 ⟨⟨text, now, ?_, isAbout⟩, ofOthers⟩
          rcases isAsked.step_eq with rfl | rfl
          · exact Or.inl List.mem_cons_self
          · exact Or.inr List.mem_cons_self
      · have areQuestions := questions_of_silent (by simpa using asks)
        refine ⟨later, Nat.le_succ_of_le few, ?_, ofOthers⟩
        rw [reached_cons, areLater, areQuestions]

/-- At each step of a run, one question is put if the state and the step ask for it, and none
otherwise; a reading is what the arbiter comes to with the assistant as it is at that step. -/
theorem run_report (session : Session) (before later : List Step) (step : Step) :
    ∃ report, (session.run (before ++ step :: later))[before.length]? = some report ∧
      report.calls = (session.reached (before ++ [step])).calls ∧
      (report.calls = (session.reached before).calls + 1 ↔
        ∃ text now, (session.reached before).Asks step text now) ∧
      (report.calls = (session.reached before).calls ↔
        ¬ ∃ text now, (session.reached before).Asks step text now) ∧
      (∀ text now, (session.reached before).Asks step text now →
        ∃ question : Question, question.IsAbout text now.day ∧
          (session.reached (before ++ [step])).questions =
            (session.reached before).questions ++ [question]) ∧
      ∀ text now, step = .read text now →
        let assistant? := (session.reached before).assistant?
        let ruling := Arbiter.read session.recognizer text now assistant?
        let fresh := ((start session.recognizer assistant?).perform (.read text now)).1
        report.outcome = .ofReading ruling.outcome ∧ report.notices = ruling.notices ∧
          report.outcome = fresh.outcome ∧ report.notices = fresh.notices := by
  refine ⟨_, run_getElem? session before step later, ?_, ?_, ?_, ?_, ?_⟩
  · rw [reached_concat, perform_calls]
  · exact (perform_calls_iff _ step).1
  · exact (perform_calls_iff _ step).2
  · intro text now asks
    rw [reached_concat]
    exact questions_of_asks asks
  · rintro text now rfl
    obtain ⟨outcome, notices⟩ := perform_read (session.reached before) text now
    obtain ⟨freshOutcome, freshNotices⟩ := perform_read
      (start session.recognizer (session.reached before).assistant?) text now
    rw [reached_recognizer] at outcome notices
    exact ⟨outcome, notices, outcome.trans freshOutcome.symm, notices.trans freshNotices.symm⟩

/-- A session with an assistant who never answers and a recognizer that knows no day. -/
def speechless : Session :=
  start (.ofTable ⟨[], []⟩) (some ⟨true, [], [], .usual⟩)

/-- The moment of its first reading. -/
def firstMoment : Moment :=
  .midnight .january15

/-- Its first question is put when "dinner" is read, after a step that has no event to show. -/
theorem run_report_dinner :
    ∃ report, (speechless.run [.labels, .read "dinner".toList firstMoment, .confidence])[1]? =
        some report ∧ report.calls = 1 ∧
      (∃ question : Question, question.IsAbout "dinner".toList firstMoment.day ∧
        (speechless.reached [.labels, .read "dinner".toList firstMoment]).questions = [question]) ∧
      report.outcome = .ofReading (Arbiter.read speechless.recognizer "dinner".toList firstMoment
        (some ⟨true, [], [], .usual⟩)).outcome := by
  have asks : (speechless.reached [.labels]).Asks (.read "dinner".toList firstMoment)
      "dinner".toList firstMoment := by
    apply Asks.read
    · rw [Arbiter.isUnsure_iff]
      exact ⟨⟨"dinner".toList, [], [], some [], "dinner".toList⟩, by decide +kernel,
        fun sure => sure.1 rfl⟩
    · exact ⟨rfl, _, rfl, rfl, by decide, by decide⟩
  obtain ⟨report, isReport, -, grows, -, asked, reading⟩ :=
    run_report speechless [.labels] [.confidence] (.read "dinner".toList firstMoment)
  exact ⟨report, isReport, grows.2 ⟨_, _, asks⟩, asked _ _ asks, (reading _ _ rfl).1⟩

end Rendezvous.Session
