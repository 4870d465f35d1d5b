import Rendezvous.Proofs.Event
import Rendezvous.Session

/-!
Contract: what holds of every step of a session.

Owns:
- `Session.reached`, the state that a series of steps leads to, and `Session.run_getElem?`, which
  says that each step is reported from the state that the steps before it lead to;
- `Session.perform_read_isReading` for the events that are reported, and
  `Session.reached_keepsReading` for the latest event, which the other steps work on.

No step changes the recognizer.
-/

namespace Rendezvous.Session

/-- The state that steps lead to. -/
def reached (session : Session) (steps : List Step) : Session :=
  steps.foldl (fun state step => (state.perform step).2) session

/-- The latest event of a session, if there is one, was read. -/
def KeepsReading (session : Session) : Prop :=
  ∀ event, session.latest = some event →
    ∃ text now client, event.IsReading session.recognizer text now client

/-! ## One step -/

@[simp]
theorem withAssistant_recognizer (session : Session) (assistant : Option Client) :
    (session.withAssistant assistant).recognizer = session.recognizer := by
  unfold withAssistant
  split <;> rfl

theorem perform_recognizer (session : Session) (step : Step) :
    (session.perform step).2.recognizer = session.recognizer := by
  cases step with
  | read text now =>
      rw [perform, performRead]
      split <;> exact withAssistant_recognizer session _
  | propose text now =>
      rw [perform, performPropose]
      split <;> exact withAssistant_recognizer session _
  | validate | confidence | labels | setAvailable | push | detach | attach => rfl

theorem perform_read_isReading {session : Session} {text : Text} {now : Moment} {event : Event}
    (isEvent : (session.perform (.read text now)).1.outcome = .event event) :
    event.IsReading session.recognizer text now session.assistant? := by
  rw [perform, performRead] at isEvent
  split at isEvent
  next read isRead =>
    obtain rfl := Outcome.event.inj isEvent
    exact Arbiter.read_isReading isRead
  next => contradiction

theorem perform_read_of_ok {session : Session} {text : Text} {now : Moment} {event : Event}
    (isRead : (Arbiter.read session.recognizer text now session.assistant?).outcome = .ok event) :
    (session.perform (.read text now)).1.outcome = .event event := by
  rw [perform, performRead, isRead]
  rfl

/-- A reading replaces the latest event by another reading, and no other step brings one. -/
theorem perform_keepsReading {session : Session} (keeps : session.KeepsReading) (step : Step) :
    (session.perform step).2.KeepsReading := by
  intro event isLatest
  rw [perform_recognizer]
  cases step with
  | read text now =>
      rw [perform, performRead] at isLatest
      split at isLatest
      next read isRead =>
        obtain rfl := Option.some.inj isLatest
        exact ⟨text, now, _, Arbiter.read_isReading isRead⟩
      next => contradiction
  | propose text now =>
      rw [perform, performPropose] at isLatest
      split at isLatest <;> contradiction
  | validate | confidence | labels | setAvailable | push | detach | attach =>
      exact keeps event isLatest

/-! ## A whole run -/

theorem reached_recognizer (session : Session) (steps : List Step) :
    (session.reached steps).recognizer = session.recognizer := by
  induction steps generalizing session with
  | nil => rfl
  | cons step others inductionHypothesis =>
      exact (inductionHypothesis _).trans (perform_recognizer session step)

theorem reached_keepsReading {session : Session} (keeps : session.KeepsReading)
    (steps : List Step) : (session.reached steps).KeepsReading := by
  induction steps generalizing session with
  | nil => exact keeps
  | cons step others inductionHypothesis =>
      exact inductionHypothesis (perform_keepsReading keeps step)

theorem start_keepsReading (recognizer : Recognizer) (client : Option Client) :
    (start recognizer client).KeepsReading := by
  intro event isLatest
  contradiction

theorem run_getElem? (session : Session) (before : List Step) (step : Step) (later : List Step) :
    (session.run (before ++ step :: later))[before.length]? =
      some ((session.reached before).perform step).1 := by
  induction before generalizing session with
  | nil => rfl
  | cons first others inductionHypothesis => exact inductionHypothesis (session.perform first).2

/-- Every event that a run reports is a reading of the text of its step. -/
theorem run_isReading {session : Session} {before later : List Step} {text : Text} {now : Moment}
    {report : Report} {event : Event}
    (isReported : (session.run (before ++ .read text now :: later))[before.length]? = some report)
    (isEvent : report.outcome = .event event) :
    event.IsReading session.recognizer text now (session.reached before).assistant? := by
  rw [run_getElem?, Option.some.injEq] at isReported
  subst isReported
  rw [← reached_recognizer session before]
  exact perform_read_isReading isEvent

end Rendezvous.Session
