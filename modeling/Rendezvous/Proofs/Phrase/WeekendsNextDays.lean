import Rendezvous.Proofs.Calendar.Period
import Rendezvous.Proofs.Phrase.Draft
import Rendezvous.Proofs.Phrase.WeekendsNext
import Rendezvous.Proofs.Recurrence.Weekend

/-!
Contract: the days of "weekends for the next 3 months".

Owns:
- `Period.EndsOn`, the last day of a number of weeks or months from today on, and
  `Period.EndsOn.le`: it grows with the number;
- `WeekendsNext.Describes`, the descriptions with such a phrase whose last day the calendar has;
- `ofText_weekendsNext`: such a description means the Saturdays and Sundays from today to the last
  day and no others.

A month that has no day like today counts to its last day.
-/

namespace Rendezvous

/-! ## The last day -/

namespace Period

/-- Whether a day is the last one of a number of weeks or months from today on. -/
def EndsOn (period : Period) (count : Nat) (today stop : Day) : Prop :=
  match period with
  | week => stop.ordinal = today.ordinal + 7 * count
  | month => stop.monthIndex = today.monthIndex + count ∧
      stop.dayOfMonth = min today.dayOfMonth (monthLength stop.year stop.month)

namespace EndsOn

variable {period : Period} {count more : Nat} {today stop later : Day}

theorem unique_month (ends : month.EndsOn count today stop)
    (endsToo : month.EndsOn count today later) : stop = later := by
  obtain ⟨inMonth, dayIs⟩ := ends
  obtain ⟨inSameMonth, sameDayIs⟩ := endsToo
  have sameMonth : stop.monthIndex = later.monthIndex := inMonth.trans inSameMonth.symm
  have number := Day.monthIndex_eq stop
  have sameNumber := sameMonth.symm.trans number
  apply Day.eq_of_monthIndex_eq sameMonth
  rw [dayIs, sameDayIs, Day.year_of_monthIndex number, Day.month_of_monthIndex number,
    Day.year_of_monthIndex sameNumber, Day.month_of_monthIndex sameNumber]

/-- More weeks or months do not end earlier. -/
theorem le (ends : period.EndsOn count today stop) (endsLater : period.EndsOn more today later)
    (ordered : count ≤ more) : stop ≤ later := by
  cases period with
  | week =>
      simp only [EndsOn] at ends endsLater
      rw [Day.le_iff]
      omega
  | month =>
      rcases Nat.lt_or_eq_of_le ordered with fewer | rfl
      · have before : stop.monthIndex < later.monthIndex := by
          rw [ends.1, endsLater.1]
          omega
        exact Nat.le_of_lt (Day.lt_of_monthIndex_lt before)
      · rw [ends.unique_month endsLater]
        exact Nat.le_refl _

/-- The horizon of a number of weeks or months is their last day. -/
theorem horizon_eq (ends : period.EndsOn count today stop) {unit : Text}
    (isUnit : unit.lower.beginsWith "month".toList = (period == .month)) :
    Phrase.horizon unit count today = .ok stop := by
  rw [Phrase.horizon, isUnit]
  cases period with
  | week =>
      apply (today.shift_eq_ok_iff stop (count * 7)).2
      simp only [EndsOn] at ends
      omega
  | month =>
      have within := stop.monthIndex_bounds.2
      have first := today.monthIndex_bounds.1
      rcases today.addMonths_cases count with ⟨-, -, moved, isMoved, place⟩ | ⟨outside, -⟩
      · rw [ends.unique_month place]
        exact isMoved
      · have := ends.1
        omega

end EndsOn

end Period

/-! ## The meaning of a phrase -/

namespace WeekendsNext

/-- Whether a text has a phrase, in front of which "weekend" is not spelled, whose number can be
read and whose last day is in the calendar, with another day behind it. -/
structure Describes (phrase : WeekendsNext) (text : Text) (today stop : Day) : Prop where
  written : ∃ front behind, text = front ++ (phrase.text ++ behind) ∧
    Text.spelledIn "weekend".toList front = false
  readable : phrase.digits.length ≤ 4300
  ends : phrase.period.EndsOn phrase.count today stop
  inside : stop ≠ .last

variable {phrase : WeekendsNext} {text : Text} {today stop : Day}

/-- Whatever stands behind a unit, it counts by months just if it is "month". -/
theorem beginsWith_month {period : Period} (spelling : Spelling period.word) (plural : Text) :
    (spelling.text ++ plural).lower.beginsWith "month".toList = (period == .month) := by
  rw [Text.lower_append, spelling.lower_text period.isSmallWord]
  cases period <;> rfl

theorem Describes.exists_first (describes : phrase.Describes text today stop) :
    ∃ found, Phrase.first? text = some (.weekendsNext, found) ∧
      Phrase.weekendsNextDays found today = .ok (Recurrence.weekends today stop) := by
  obtain ⟨front, behind, rfl, without⟩ := describes.written
  obtain ⟨found, plural, isFound, kept⟩ := phrase.exists_find without behind
  have count : found.textOf .count = phrase.digits := by
    rw [Pattern.Match.textOf, Pattern.Match.text?_eq, kept]
    rfl
  have unit : found.textOf .unit = phrase.periodWritten.text ++ plural := by
    rw [Pattern.Match.textOf, Pattern.Match.text?_eq, kept]
    rfl
  have isCount : phrase.digits.readDigits = .ok phrase.count :=
    if_pos describes.readable
  have isStop := describes.ends.horizon_eq (beginsWith_month phrase.periodWritten plural)
  refine ⟨found, Phrase.first?_weekendsNext isFound, ?_⟩
  rw [Phrase.weekendsNextDays, count, isCount, Result.ok_bind, unit, isStop, Result.ok_bind,
    Recurrence.daysOn_weekend today describes.inside]

theorem Describes.draft_eq (describes : phrase.Describes text today stop)
    {recognizer : Recognizer} {now : Moment} (isToday : now.day = today) {draft : Draft}
    (isDraft : Draft.ofText recognizer text now = .ok draft) :
    draft.phrase = some .weekendsNext ∧ draft.days = Recurrence.weekends today stop := by
  obtain ⟨found, isFirst, areDays⟩ := describes.exists_first
  obtain ⟨isPhrase, areDraftDays⟩ := Phrase.eq_of_ofText isFirst isDraft
  rw [Phrase.days, isToday, areDays] at areDraftDays
  exact ⟨isPhrase, (Except.ok.inj areDraftDays).symm⟩

theorem Describes.exists_draft (describes : phrase.Describes text today stop)
    {recognizer : Recognizer} (total : recognizer.IsTotal) {now : Moment}
    (isToday : now.day = today) : ∃ draft, Draft.ofText recognizer text now = .ok draft := by
  obtain ⟨found, isFirst, areDays⟩ := describes.exists_first
  have days : Phrase.weekendsNext.days recognizer found now =
      .ok (Recurrence.weekends today stop) := by
    rw [Phrase.days, isToday, areDays]
  obtain ⟨draft, isDraft, -⟩ := Phrase.exists_ofText total isFirst days
  exact ⟨draft, isDraft⟩

end WeekendsNext

/-- A description with such a phrase means the Saturdays and Sundays from today to the last day,
in ascending order.  They depend on nothing but today, the unit and the number: in weeks there are
as many weekends, and a greater number only adds days behind them. -/
theorem ofText_weekendsNext (recognizer : Recognizer) (total : recognizer.IsTotal)
    (phrase : WeekendsNext) (text : Text) (now : Moment) (stop : Day)
    (describes : phrase.Describes text now.day stop) :
    ∃ draft, Draft.ofText recognizer text now = .ok draft ∧
      draft.phrase = some .weekendsNext ∧ draft.days.Pairwise (· < ·) ∧
      (∀ day, day ∈ draft.days ↔
        (now.day ≤ day ∧ day ≤ stop) ∧ (day.weekday = 6 ∨ day.weekday = 0)) ∧
      (phrase.period = .week → draft.days.length =
        2 * phrase.count + if now.day.weekday = 6 ∨ now.day.weekday = 0 then 1 else 0) ∧
      ∀ (other : WeekendsNext) otherText otherNow otherStop otherRecognizer otherDraft,
        other.Describes otherText otherNow.day otherStop → otherNow.day = now.day →
        other.period = phrase.period → phrase.count ≤ other.count →
        Draft.ofText otherRecognizer otherText otherNow = .ok otherDraft →
        draft.days <+: otherDraft.days := by
  obtain ⟨draft, isDraft⟩ := describes.exists_draft total rfl
  obtain ⟨isPhrase, areDays⟩ := describes.draft_eq rfl isDraft
  refine ⟨draft, isDraft, isPhrase, ?_, ?_, ?_, ?_⟩
  · rw [areDays]
    exact Recurrence.weekends_pairwise now.day stop
  · intro day
    rw [areDays]
    exact Recurrence.mem_weekends now.day stop day
  · intro isWeek
    have ends := describes.ends
    rw [isWeek] at ends
    rw [areDays]
    exact Recurrence.length_weekends_of_weeks ends
  · intro other otherText otherNow otherStop otherRecognizer otherDraft describesOther sameDay
      samePeriod ordered isOtherDraft
    obtain ⟨-, areOtherDays⟩ := describesOther.draft_eq rfl isOtherDraft
    have endsOther := describesOther.ends
    rw [samePeriod, sameDay] at endsOther
    rw [areDays, areOtherDays, sameDay]
    exact Recurrence.weekends_prefix now.day (describes.ends.le endsOther ordered)

/-- "Weekends over the next 01 month". -/
def WeekendsNext.nextMonth : WeekendsNext where
  weekend := ⟨"Weekend".toList, by decide⟩
  plural := some (.small isSmallWord_s)
  gapBehindWeekend := .space
  preposition := "over"
  isPreposition := by decide
  prepositionWritten := .small isSmallWord_over
  gapBehindPreposition := .space
  article := some ⟨.small isSmallWord_the, .space⟩
  next := .small isSmallWord_next
  gapBehindNext := .space
  digits := "01".toList
  someDigit := by decide
  areDigits := by decide
  gapBehindDigits := .space
  period := .month
  periodWritten := .small Period.month.isSmallWord

/-- A month from 31 January 2025 on ends on 28 February. -/
theorem ofText_weekends_february :
    ∃ draft, Draft.ofText (.ofTable ⟨[], []⟩)
        "Hikes: Weekends over the next 01 months, at noon".toList
        (.midnight ⟨739282, by decide, by decide⟩) = .ok draft ∧
      draft.days.Pairwise (· < ·) ∧
      ∀ day, day ∈ draft.days ↔ ((⟨739282, by decide, by decide⟩ : Day) ≤ day ∧
        day ≤ (⟨739310, by decide, by decide⟩ : Day)) ∧ (day.weekday = 6 ∨ day.weekday = 0) := by
  have describes : WeekendsNext.nextMonth.Describes
      "Hikes: Weekends over the next 01 months, at noon".toList
      ⟨739282, by decide, by decide⟩ ⟨739310, by decide, by decide⟩ := {
    written := ⟨"Hikes: ".toList, "s, at noon".toList, by decide +kernel, by decide⟩
    readable := by decide
    ends := ⟨by decide +kernel, by decide +kernel⟩
    inside := by decide }
  obtain ⟨draft, isDraft, -, ascending, means, -⟩ := ofText_weekendsNext (.ofTable ⟨[], []⟩)
    (Recognizer.ofTable_isTotal _) WeekendsNext.nextMonth _
    (.midnight ⟨739282, by decide, by decide⟩) _ describes
  exact ⟨draft, isDraft, ascending, means⟩

end Rendezvous
