import Rendezvous.Proofs.Phrase.NamedPeriods
import Rendezvous.Proofs.Text.Digits

/-!
Contract: the phrases for recurring events whose days the calendar does not have.

Owns:
- `WeekendsOverrun`, when weekends are counted beyond the calendar, or by a number that is
  too long to be read;
- `MonthOverrun`, when the month named has no bounds in the calendar;
- `weekendsNextDays_error_iff`, `everyDayThisNextDays_ok` and `daysInMonth_error_iff`: it is
  exactly then that the days of a phrase are not known.

All of this is on days that keep away from both ends of the calendar.
-/

namespace Rendezvous.Phrase

open Pattern

/-! ## Weekends of the next weeks or months -/

/-- Whether the weekends are counted by months. -/
def countsMonths (found : Match Part) : Prop :=
  (found.textOf .unit).lower.beginsWith "month".toList = true

/-- The number of months or weeks. -/
def countOf (found : Match Part) : Nat :=
  Text.digitsValue (found.textOf .count)

/-- Why the weekends of the next weeks or months are not known. -/
inductive WeekendsOverrun (found : Match Part) (today : Day) : Fault → Prop where
  | tooManyDigits (long : 4300 < (found.textOf .count).length) :
      WeekendsOverrun found today (.numeralTooLong (found.textOf .count).length)
  | pastLastMonth (short : (found.textOf .count).length ≤ 4300)
      (months : countsMonths found) (beyond : Day.lastMonth < today.monthIndex + countOf found) :
      WeekendsOverrun found today (Day.yearFault ((today.monthIndex + countOf found) / 12))
  /-- The walk over the days would step beyond the last one. -/
  | toLastDay (short : (found.textOf .count).length ≤ 4300)
      (months : countsMonths found) (inLast : today.monthIndex + countOf found = Day.lastMonth)
      (lastDay : today.dayOfMonth = 31) : WeekendsOverrun found today .outOfCalendar
  | pastLastWeek (short : (found.textOf .count).length ≤ 4300)
      (weeks : ¬ countsMonths found) (beyond : lastOrdinal ≤ today.ordinal + countOf found * 7) :
      WeekendsOverrun found today .outOfCalendar

theorem daysOn_weekend_error_iff (today stop : Day) (fault : Fault) :
    Recurrence.daysOn today stop Selector.weekend = .error fault ↔
      fault = .outOfCalendar ∧ stop = .last := by
  rw [Recurrence.daysOn_eq_error_iff]
  exact ⟨fun failed => ⟨failed.1, failed.2.2⟩, fun last => ⟨last.1, List.cons_ne_nil _ _, last.2⟩⟩

theorem weekends_of_months_error_iff (today : Day) (count : Nat) (fault : Fault) :
    (do Recurrence.daysOn today (← today.addMonths count) Selector.weekend) = .error fault ↔
      (Day.lastMonth < today.monthIndex + count ∧
        fault = Day.yearFault ((today.monthIndex + count) / 12)) ∨
      (today.monthIndex + count = Day.lastMonth ∧ today.dayOfMonth = 31 ∧
        fault = .outOfCalendar) := by
  have first := today.monthIndex_bounds.1
  rcases today.addMonths_cases count with
    ⟨-, within, stop, isStop, inMonth, dayIs⟩ | ⟨outside, failed⟩
  · have lastIff : stop = .last ↔
        today.monthIndex + count = Day.lastMonth ∧ today.dayOfMonth = 31 := by
      rw [Day.eq_last_iff, inMonth]
      refine and_congr_right fun isLast => ?_
      have inLast : stop.monthIndex = (119999 : Nat) := inMonth.trans isLast
      have length : monthLength stop.year stop.month = 31 := by
        rw [Day.year_of_monthIndex inLast, Day.month_of_monthIndex inLast]
        decide
      have short := today.dayOfMonth_le
      rw [dayIs, length]
      omega
    rw [isStop, Result.ok_bind, daysOn_weekend_error_iff, lastIff]
    constructor
    · rintro ⟨isFault, inLast, lastDay⟩
      exact Or.inr ⟨inLast, lastDay, isFault⟩
    · rintro (⟨beyond, -⟩ | ⟨inLast, lastDay, isFault⟩)
      · omega
      · exact ⟨isFault, inLast, lastDay⟩
  · rw [failed, Result.error_bind, Except.error.injEq]
    constructor
    · rintro rfl
      exact Or.inl ⟨by omega, rfl⟩
    · rintro (⟨-, isFault⟩ | ⟨inLast, -, -⟩)
      · exact isFault.symm
      · omega

theorem weekends_of_weeks_error_iff (today : Day) (count : Nat) (fault : Fault) :
    (do Recurrence.daysOn today (← today.shift (count * 7)) Selector.weekend) = .error fault ↔
      lastOrdinal ≤ today.ordinal + count * 7 ∧ fault = .outOfCalendar := by
  have first := today.first_le
  cases outcome : today.shift (count * 7) with
  | ok stop =>
      have ordinal := (today.shift_eq_ok_iff stop (count * 7)).1 outcome
      have within := stop.le_last
      have lastIff : stop = .last ↔ stop.ordinal = lastOrdinal :=
        ⟨congrArg Day.ordinal, fun same => Day.eq_of_ordinal_eq same⟩
      rw [Result.ok_bind, daysOn_weekend_error_iff, lastIff]
      constructor
      · rintro ⟨isFault, isLast⟩
        exact ⟨by omega, isFault⟩
      · rintro ⟨beyond, isFault⟩
        exact ⟨isFault, by omega⟩
  | error other =>
      obtain ⟨rfl, outside⟩ := (today.shift_eq_error_iff (count * 7) other).1 outcome
      rw [Result.error_bind, Except.error.injEq]
      constructor
      · rintro rfl
        exact ⟨by omega, rfl⟩
      · rintro ⟨-, isFault⟩
        exact isFault.symm

/-- The weekends are unknown exactly for these reasons. -/
theorem weekendsNextDays_error_iff (found : Match Part) (today : Day) (fault : Fault) :
    weekendsNextDays found today = .error fault ↔ WeekendsOverrun found today fault := by
  rw [weekendsNextDays]
  rcases Text.readDigits_cases (found.textOf .count) with ⟨short, isCount⟩ | ⟨long, refused⟩
  · rw [isCount, Result.ok_bind]
    by_cases months : countsMonths found
    · have byMonths : horizon (found.textOf .unit) (countOf found) today =
          today.addMonths (countOf found) := if_pos months
      rw [← countOf, byMonths, weekends_of_months_error_iff]
      constructor
      · rintro (⟨beyond, rfl⟩ | ⟨inLast, lastDay, rfl⟩)
        · exact .pastLastMonth short months beyond
        · exact .toLastDay short months inLast lastDay
      · intro overrun
        cases overrun with
        | tooManyDigits long => omega
        | pastLastMonth _ _ beyond => exact Or.inl ⟨beyond, rfl⟩
        | toLastDay _ _ inLast lastDay => exact Or.inr ⟨inLast, lastDay, rfl⟩
        | pastLastWeek _ weeks _ => exact absurd months weeks
    · have byWeeks : horizon (found.textOf .unit) (countOf found) today =
          today.shift (countOf found * 7) := if_neg months
      rw [← countOf, byWeeks, weekends_of_weeks_error_iff]
      constructor
      · rintro ⟨beyond, rfl⟩
        exact .pastLastWeek short months beyond
      · intro overrun
        cases overrun with
        | tooManyDigits long => omega
        | pastLastMonth _ isMonths _ => exact absurd isMonths months
        | toLastDay _ isMonths _ _ => exact absurd isMonths months
        | pastLastWeek _ _ beyond => exact ⟨beyond, rfl⟩
  · rw [refused, Result.error_bind, Except.error.injEq]
    constructor
    · rintro rfl
      exact .tooManyDigits long
    · intro overrun
      cases overrun with
      | tooManyDigits _ => rfl
      | pastLastMonth short _ _ => omega
      | toLastDay short _ _ _ => omega
      | pastLastWeek short _ _ => omega

/-! ## Weekdays of this or the next week or month -/

/-- These days are always known, whatever the pieces of the phrase. -/
theorem everyDayThisNextDays_ok (found : Match Part) (today : Day) (afterFirst : 2 ≤ today.year)
    (beforeLast : today.year ≤ 9998) : ∃ days, everyDayThisNextDays found today = .ok days := by
  have inner := today.ordinal_of_innerYear afterFirst beforeLast
  have months := today.monthIndex_of_year
  obtain ⟨timeframe, isThis⟩ : ∃ timeframe : Timeframe,
      ((found.textOf .timeframe).lower == "this".toList) = (timeframe == .this) := by
    cases (found.textOf .timeframe).lower == "this".toList with
    | true => exact ⟨.this, rfl⟩
    | false => exact ⟨.next, rfl⟩
  obtain ⟨spans, areSpans, inside, nextInside⟩ : ∃ spans, periods found today = .ok spans ∧
      spans.stop ≠ .last ∧ spans.nextStop ≠ .last := by
    rw [periods, isThis]
    split
    next =>
      have early : today.monthIndex + 2 < Day.lastMonth := by
        simp only [Day.lastMonth]
        omega
      obtain ⟨spans, areSpans, bound⟩ := exists_monthPeriods timeframe today early
      exact ⟨spans, areSpans, bound.stop, bound.nextStop⟩
    next =>
      obtain ⟨spans, areSpans, bound⟩ :=
        exists_weekPeriods timeframe today (by omega) (by omega)
      exact ⟨spans, areSpans, bound.stop, bound.nextStop⟩
  obtain ⟨days, areDays, -⟩ := exists_everyDayThisNextDays areSpans inside nextInside
  exact ⟨days, areDays⟩

/-! ## Days of a month -/

/-- The year of the month named: the one written, or the one implied. -/
def namedYear (found : Match Part) (now resolved : Moment) : Nat :=
  (found.text? .year).elim (impliedYear now resolved) Text.digitsValue

/-- Why the days of a month are not known, once the recognizer knows the month. -/
inductive MonthOverrun (recognizer : Recognizer) (found : Match Part) (now : Moment) :
    Fault → Prop where
  | beforeFirst {resolved : Moment}
      (isMonth : recognizer.resolve (found.textOf .month) now = .ok (some resolved))
      (yearZero : namedYear found now resolved = 0) :
      MonthOverrun recognizer found now (.yearOutOfRange 0)
  /-- The day behind the last month is not in the calendar. -/
  | lastMonth {resolved : Moment}
      (isMonth : recognizer.resolve (found.textOf .month) now = .ok (some resolved))
      (lastYear : namedYear found now resolved = 9999) (december : resolved.day.month = 12) :
      MonthOverrun recognizer found now (.yearOutOfRange 10000)

/-- A form of phrases that names a month. -/
def NamesMonth (phrase : Phrase) : Prop :=
  phrase = .everyInMonth ∨ phrase = .pluralDaysInMonth

theorem not_namesMonth_weekendsNext : ¬ weekendsNext.NamesMonth := by
  simp [NamesMonth]

theorem not_namesMonth_everyDayThisNext : ¬ everyDayThisNext.NamesMonth := by
  simp [NamesMonth]

theorem groups_year {phrase : Phrase} (namesMonth : phrase.NamesMonth) :
    (phrase.form.groups.filter fun group => group.1 == Part.year) =
      [(Part.year, Expr.times 4 Expr.digit)] := by
  rcases namesMonth with rfl | rfl
  · rfl
  · rfl

/-- A year is written in four digits. -/
theorem length_of_year {phrase : Phrase} {text digits : Text} {found : Match Part}
    (namesMonth : phrase.NamesMonth) (isFound : phrase.find? text = some found)
    (written : found.text? .year = some digits) : digits.length = 4 := by
  have admits := Expr.admits_of_only (groups_year namesMonth) isFound written
  exact (Expr.admits_times_char admits).1

theorem impliedYear_le (now resolved : Moment) : impliedYear now resolved ≤ 9999 := by
  have ofNow := now.day.year_bounds
  have ofResolved := resolved.day.year_bounds
  unfold impliedYear
  split
  next => exact ofNow.2
  next => exact ofResolved.2

variable {recognizer : Recognizer} {now : Moment}

theorem namedYear_of_unwritten {found : Match Part} (noYear : found.text? .year = none)
    (resolved : Moment) : namedYear found now resolved = impliedYear now resolved := by
  rw [namedYear, noYear, Option.elim_none]

/-- Where no year is written, the month is that of the year implied. -/
theorem namedMonth_of_unwritten {found : Match Part} (noYear : found.text? .year = none)
    {resolved : Moment}
    (isMonth : recognizer.resolve (found.textOf .month) now = .ok (some resolved)) :
    namedMonth recognizer found now =
      (Day.ofCivil (impliedYear now resolved) resolved.day.month 1).map some := by
  rw [namedMonth, isMonth, Result.ok_bind, noYear]
  dsimp only
  rw [Result.ok_bind]
  cases Day.ofCivil (impliedYear now resolved) resolved.day.month 1 <;> rfl

/-- What the month of a phrase comes to: nothing, its first day, or a fault of its year. -/
theorem namedMonth_cases (total : recognizer.IsTotal) {phrase : Phrase} {text : Text}
    {found : Match Part} (namesMonth : phrase.NamesMonth)
    (isFound : phrase.find? text = some found) :
    (recognizer.resolve (found.textOf .month) now = .ok none ∧
      namedMonth recognizer found now = .ok none) ∨
    ∃ resolved, recognizer.resolve (found.textOf .month) now = .ok (some resolved) ∧
      namedYear found now resolved ≤ 9999 ∧
      namedMonth recognizer found now =
        (Day.ofCivil (namedYear found now resolved) resolved.day.month 1).map some := by
  obtain ⟨resolution, isResolution⟩ := total.exists_resolve (found.textOf .month) now
  cases resolution with
  | none =>
      refine Or.inl ⟨isResolution, ?_⟩
      rw [namedMonth, isResolution]
      rfl
  | some resolved =>
      refine Or.inr ⟨resolved, isResolution, ?_⟩
      cases written : found.text? .year with
      | none =>
          rw [namedYear_of_unwritten written]
          exact ⟨impliedYear_le now resolved, namedMonth_of_unwritten written isResolution⟩
      | some digits =>
          have year : namedYear found now resolved = digits.digitsValue := by
            rw [namedYear, written, Option.elim_some]
          have four := length_of_year namesMonth isFound written
          have small := Text.digitsValue_lt digits
          have isYear : digits.readDigits = .ok digits.digitsValue := by
            rcases digits.readDigits_cases with ⟨-, isRead⟩ | ⟨long, -⟩
            · exact isRead
            · omega
          have tenThousand : powerOfTen 4 = 10000 := rfl
          rw [four, tenThousand] at small
          rw [year]
          refine ⟨by omega, ?_⟩
          rw [namedMonth, isResolution, Result.ok_bind, written]
          dsimp only
          rw [isYear, Result.ok_bind]
          cases Day.ofCivil digits.digitsValue resolved.day.month 1 <;> rfl

/-- The first day of a month of the calendar. -/
theorem exists_firstDay (year : Nat) (resolved : Day) (positive : 1 ≤ year) (le : year ≤ 9999) :
    ∃ start, Day.ofCivil year resolved.month 1 = .ok start ∧
      start.monthIndex = year * 12 + (resolved.month - 1 : Nat) := by
  have bounds := resolved.month_bounds
  have inYear : (year * 12 + (resolved.month - 1)) / 12 = year := by omega
  have ofMonth : (year * 12 + (resolved.month - 1)) % 12 + 1 = resolved.month := by omega
  have length := monthLength_bounds year (resolved.month - 1) (by omega)
  have last : ((year * 12 + (resolved.month - 1) : Nat) : Int) ≤ Day.lastMonth := by
    simp only [Day.lastMonth]
    omega
  have sameMonth : resolved.month - 1 + 1 = resolved.month := by omega
  rw [sameMonth] at length
  obtain ⟨start, isStart, inMonth, -⟩ := Day.exists_ofCivil_monthIndex
    (year * 12 + (resolved.month - 1)) 1 (by omega) last (Nat.le_refl 1)
    (by rw [inYear, ofMonth]; omega)
  rw [inYear, ofMonth] at isStart
  refine ⟨start, isStart, ?_⟩
  rw [inMonth]
  omega

theorem monthOverrun_iff {found : Match Part} {resolved : Moment} (fault : Fault)
    (isMonth : recognizer.resolve (found.textOf .month) now = .ok (some resolved)) :
    MonthOverrun recognizer found now fault ↔
      (namedYear found now resolved = 0 ∧ fault = .yearOutOfRange 0) ∨
      (namedYear found now resolved = 9999 ∧ resolved.day.month = 12 ∧
        fault = .yearOutOfRange 10000) := by
  constructor
  · intro overrun
    cases overrun with
    | beforeFirst isOther yearZero =>
        obtain rfl := Option.some.inj (Except.ok.inj (isMonth.symm.trans isOther))
        exact Or.inl ⟨yearZero, rfl⟩
    | lastMonth isOther lastYear december =>
        obtain rfl := Option.some.inj (Except.ok.inj (isMonth.symm.trans isOther))
        exact Or.inr ⟨lastYear, december, rfl⟩
  · rintro (⟨yearZero, rfl⟩ | ⟨lastYear, december, rfl⟩)
    · exact .beforeFirst isMonth yearZero
    · exact .lastMonth isMonth lastYear december

theorem daysInMonth_of_unnamed {found : Match Part}
    (unnamed : namedMonth recognizer found now = .ok none) :
    daysInMonth recognizer found now = .ok [] := by
  rw [daysInMonth, unnamed]
  rfl

theorem daysInMonth_of_error {found : Match Part} {fault : Fault}
    (failed : namedMonth recognizer found now = .error fault) :
    daysInMonth recognizer found now = .error fault := by
  rw [daysInMonth, failed]
  rfl

theorem daysInMonth_of_lastMonth {found : Match Part} {start : Day}
    (named : namedMonth recognizer found now = .ok (some start))
    (inLast : start.monthIndex = Day.lastMonth) :
    daysInMonth recognizer found now = .error (.yearOutOfRange 10000) := by
  rw [daysInMonth, named, Result.ok_bind]
  dsimp only
  rw [Day.monthBounds_of_last start inLast, Result.error_bind]

/-- The days of a month that has bounds. -/
theorem exists_daysInMonth {found : Match Part} {start : Day}
    (named : namedMonth recognizer found now = .ok (some start))
    (early : start.monthIndex < Day.lastMonth) :
    ∃ days, daysInMonth recognizer found now = .ok days ∧ days.Pairwise (· < ·) ∧
      ∀ day, day ∈ days ↔ day.monthIndex = start.monthIndex ∧
        (selectorOf (found.textOf .kind)).selects day = true := by
  obtain ⟨first, last, areBounds, inside, ofMonth⟩ := start.exists_monthBounds early
  obtain ⟨days, areDays⟩ := Recurrence.exists_daysOn first last
    (selectorOf (found.textOf .kind)) inside
  refine ⟨days, ?_, Recurrence.daysOn_pairwise areDays, fun day => ?_⟩
  · rw [daysInMonth, named, Result.ok_bind]
    dsimp only
    rw [areBounds, Result.ok_bind, areDays]
  · rw [Recurrence.mem_daysOn areDays, ofMonth]

/-- The days of a month are unknown exactly for these reasons. -/
theorem daysInMonth_error_iff (total : recognizer.IsTotal) {phrase : Phrase} {text : Text}
    {found : Match Part} (namesMonth : phrase.NamesMonth)
    (isFound : phrase.find? text = some found) (fault : Fault) :
    daysInMonth recognizer found now = .error fault ↔
      MonthOverrun recognizer found now fault := by
  rcases namedMonth_cases total namesMonth isFound with
    ⟨noMonth, unnamed⟩ | ⟨resolved, isMonth, yearLe, named⟩
  · rw [daysInMonth_of_unnamed unnamed]
    refine iff_of_false (Result.ok_ne_error [] fault) ?_
    intro overrun
    cases overrun with
    | beforeFirst isMonth _ => cases noMonth.symm.trans isMonth
    | lastMonth isMonth _ _ => cases noMonth.symm.trans isMonth
  · rw [monthOverrun_iff fault isMonth]
    by_cases yearZero : namedYear found now resolved = 0
    · have refused : Day.ofCivil (namedYear found now resolved) resolved.day.month 1 =
          .error (.yearOutOfRange 0) := by
        rw [yearZero]
        exact if_pos (Or.inl (by decide))
      rw [refused, Result.error_map] at named
      rw [daysInMonth_of_error named, yearZero, Except.error.injEq]
      constructor
      · rintro rfl
        exact Or.inl ⟨rfl, rfl⟩
      · rintro (⟨-, rfl⟩ | ⟨impossible, -⟩)
        · rfl
        · omega
    · obtain ⟨start, isStart, inMonth⟩ := exists_firstDay (namedYear found now resolved)
        resolved.day (by omega) yearLe
      have bounds := resolved.day.month_bounds
      rw [isStart, Result.ok_map] at named
      by_cases isLast : namedYear found now resolved = 9999 ∧ resolved.day.month = 12
      · have inLast : start.monthIndex = Day.lastMonth := by
          rw [inMonth, isLast.1, isLast.2]
          decide
        rw [daysInMonth_of_lastMonth named inLast, Except.error.injEq]
        constructor
        · rintro rfl
          exact Or.inr ⟨isLast.1, isLast.2, rfl⟩
        · rintro (⟨impossible, -⟩ | ⟨-, -, rfl⟩)
          · omega
          · rfl
      · have early : start.monthIndex < Day.lastMonth := by
          simp only [Day.lastMonth]
          omega
        obtain ⟨days, areDays, -⟩ := exists_daysInMonth named early
        rw [areDays]
        refine iff_of_false (Result.ok_ne_error days fault) ?_
        rintro (⟨impossible, -⟩ | ⟨lastYear, december, -⟩)
        · exact yearZero impossible
        · exact isLast ⟨lastYear, december⟩

end Rendezvous.Phrase
