import Rendezvous.Event.Validation
import Rendezvous.Proofs.Calendar.Iso
import Rendezvous.Proofs.Calendar.Label
import Rendezvous.Proofs.Service

/-!
Contract: the labels of the days of an event tell the days.

Owns:
- `Event.Returned`, the ways in which an event is returned;
- `Event.labels_tellDays`.
-/

namespace Rendezvous.Event

/-- The ways in which an event is returned. -/
inductive Returned (recognizer : Recognizer) (event : Event) : Prop where
  | unaided {text : Text} {now : Moment} (isRead : ofText recognizer text now = .ok event)
  | arbitrated {text : Text} {now : Moment} {client : Option Client}
      (isRead : (Arbiter.read recognizer text now client).outcome = .ok event)
  | byDefault {text : Text} {now : Moment} {client : Option Client}
      (isRead : (Arbiter.readByDefault recognizer text now client).outcome = .ok event)
  | inSession {session : Session} {before later : List Session.Step} {text : Text} {now : Moment}
      {report : Session.Report} (same : session.recognizer = recognizer)
      (isReported : (session.run (before ++ .read text now :: later))[before.length]? = some report)
      (isEvent : report.outcome = .event event)
  | byService {now : Instant} {client : Option Client} {request : Service.Request}
      {objections : List Objection}
      (answered :
        (Service.answer recognizer now client request).outcome = .ok (.event event objections))

theorem Returned.ascends {recognizer : Recognizer} {event : Event}
    (returned : event.Returned recognizer) : event.days.Pairwise (· < ·) := by
  cases returned with
  | unaided isRead => exact (ofText_isReading isRead none).ascends
  | arbitrated isRead => exact (Arbiter.read_isReading isRead).ascends
  | byDefault isRead => exact (Arbiter.readByDefault_isReading isRead).ascends
  | inSession _ isReported isEvent => exact (Session.run_isReading isReported isEvent).ascends
  | byService answered =>
      obtain ⟨_, -, isReading⟩ := Service.answer_isReading answered
      exact isReading.ascends

theorem nodup_labels_iff (event : Event) : event.labels.Nodup ↔ event.days.Nodup :=
  Day.nodup_labels_iff event.days

/-- The label with the year is the one of the written day, a comma, a blank and the year.  Both begin
with the short name of the weekday and of no other one, counted from Sunday or from Monday.  No two
days have the same label with the year, so those of an event differ as its days do, and its days
differ in whichever way it is returned. -/
theorem labels_tellDays :
    (∀ day : Day, ∃ label, (Day.ofIso day.iso).map Day.label = .ok label ∧
      day.labelWithYear = label ++ ", ".toList ++ Text.ofNat day.year ∧
      (∀ weekday : Weekday,
        (Weekday.abbreviationAt weekday.val <+: label ↔ weekday = day.weekday) ∧
        (Weekday.abbreviationAt weekday.val <+: day.labelWithYear ↔ weekday = day.weekday)) ∧
      day.weekday.val = (day.sinceMonday + 1) % 7 ∧
      label = Weekday.mondayFirst.getD day.sinceMonday [] ++ ' ' :: monthAbbreviation day.month
        ++ ' ' :: Text.ofNat day.dayOfMonth) ∧
    Function.Injective Day.labelWithYear ∧
    (∀ event : Event, event.labels.Nodup ↔ event.days.Nodup) ∧
    ∀ (recognizer : Recognizer) (event : Event), event.Returned recognizer →
      event.labels.Nodup := by
  refine ⟨fun day => ?_, fun _ _ => Day.labelWithYear_injective, nodup_labels_iff,
    fun recognizer event returned => ?_⟩
  · have isRead : (Day.ofIso day.iso).map Day.label = .ok day.label := by
      rw [Day.ofIso_iso, Result.ok_map]
    exact ⟨day.label, isRead, rfl,
      fun weekday => ⟨day.prefix_label_iff weekday, day.prefix_labelWithYear_iff weekday⟩,
      day.weekday_sinceMonday, day.label_sinceMonday⟩
  · rw [nodup_labels_iff]
    exact Day.nodup_of_ascends returned.ascends

/-- Eleven years before 15 January 2025, that day of the month was a Wednesday too: only the year
tells the two days apart.  The labels of the dinner are distinct. -/
theorem labels_tellDays_januaries :
    Day.january15.label = Day.label ⟨735248, by decide, by decide⟩ ∧
    Day.january15.labelWithYear ≠ Day.labelWithYear ⟨735248, by decide, by decide⟩ ∧
    dinner.Returned dinnerRecognizer ∧ dinner.labels.Nodup := by
  obtain ⟨-, injective, -, nodup⟩ := labels_tellDays
  have isRead : (Arbiter.read dinnerRecognizer dinner.raw (.midnight .january15) none).outcome =
      .ok dinner := by
    decide +kernel
  have returned : dinner.Returned dinnerRecognizer := .arbitrated isRead
  refine ⟨by decide +kernel, fun same => ?_, returned, nodup _ _ returned⟩
  have sameDay := congrArg Day.ordinal (injective same)
  contradiction

end Rendezvous.Event
