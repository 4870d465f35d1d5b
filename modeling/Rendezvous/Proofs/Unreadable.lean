import Rendezvous.Proofs.Phrase.MonthDays
import Rendezvous.Proofs.Phrase.WeekendsNextDays
import Rendezvous.Proofs.Reading

/-!
Contract: which descriptions cannot be read, told by the days and months that they reach.

Owns:
- `Phrase.horizon_eq_ok_iff`, the last day of the weekends that are counted, and
  `Phrase.exists_weekendsNextDays_iff`: their days are known if it comes before the last one of
  the calendar;
- `Phrase.exists_monthOverrun_iff`, the months that have no days;
- `Event.exists_fault_iff`: a description cannot be read exactly if its first phrase counts weekends
  too far or names such a month.

The numbers of these phrases are short enough to be read, and today keeps away from both ends of
the calendar.
-/

namespace Rendezvous

namespace Phrase

open Pattern

variable {recognizer : Recognizer} {text : Text} {now : Moment} {phrase : Phrase}
  {found : Match Part}

/-! ## Weekends of the next weeks or months -/

/-- The unit by which the weekends are counted. -/
def countedPeriod (found : Match Part) : Period :=
  if (found.textOf .unit).lower.beginsWith "month".toList then .month else .week

theorem beginsWith_month_eq (found : Match Part) :
    (found.textOf .unit).lower.beginsWith "month".toList = (countedPeriod found == .month) := by
  rw [countedPeriod]
  split
  next months => rw [months]; rfl
  next weeks => rw [Bool.eq_false_iff.2 weeks]; rfl

theorem horizon_eq_ok_iff (count : Nat) (today stop : Day) :
    horizon (found.textOf .unit) count today = .ok stop ↔
      (countedPeriod found).EndsOn count today stop := by
  constructor
  · intro isStop
    rw [horizon, beginsWith_month_eq] at isStop
    cases isPeriod : countedPeriod found with
    | week =>
        rw [isPeriod] at isStop
        have ordinal := (today.shift_eq_ok_iff stop (count * 7)).1 isStop
        show stop.ordinal = today.ordinal + 7 * count
        omega
    | month =>
        rw [isPeriod] at isStop
        rcases today.addMonths_cases count with ⟨-, -, moved, isMoved, place⟩ | ⟨-, failed⟩
        · obtain rfl := Except.ok.inj (isMoved.symm.trans isStop)
          exact place
        · exact absurd (isStop.symm.trans failed) (Result.ok_ne_error stop _)
  · intro ends
    exact ends.horizon_eq (beginsWith_month_eq found)

/-- The weekends are known exactly if their last day has another one behind it. -/
theorem exists_weekendsNextDays_iff (today : Day)
    (short : (found.textOf .count).length ≤ 4300) :
    (∃ days, weekendsNextDays found today = .ok days) ↔
      ∃ stop, (countedPeriod found).EndsOn (countOf found) today stop ∧ stop < .last := by
  have isCount : (found.textOf .count).readDigits = .ok (countOf found) := if_pos short
  rw [weekendsNextDays, isCount, Result.ok_bind]
  constructor
  · rintro ⟨days, areDays⟩
    obtain ⟨stop, isStop, areOn⟩ := (Result.bind_eq_ok_iff _ _ _).1 areDays
    refine ⟨stop, (horizon_eq_ok_iff _ today stop).1 isStop,
      Day.ordinal_lt_of_ne_last fun isLast => ?_⟩
    have refused := (daysOn_weekend_error_iff today stop .outOfCalendar).2 ⟨rfl, isLast⟩
    exact Result.ok_ne_error days _ (areOn.symm.trans refused)
  · rintro ⟨stop, ends, before⟩
    have inside : stop ≠ .last := by
      rintro rfl
      exact Nat.lt_irrefl _ before
    refine ⟨Recurrence.weekends today stop, ?_⟩
    rw [(horizon_eq_ok_iff _ today stop).2 ends, Result.ok_bind,
      Recurrence.daysOn_weekend today inside]

theorem exists_weekendsOverrun_iff (today : Day)
    (short : (found.textOf .count).length ≤ 4300) :
    (∃ fault, WeekendsOverrun found today fault) ↔
      ¬ ∃ stop, (countedPeriod found).EndsOn (countOf found) today stop ∧ stop < .last := by
  simp only [← weekendsNextDays_error_iff]
  rw [Result.exists_error_iff, exists_weekendsNextDays_iff today short]

/-! ## Days of a month -/

/-- A month that is resolved is one that the recognizer knows. -/
theorem exists_reading_of_resolve (namesMonth : phrase.NamesMonth)
    (isFound : phrase.find? text = some found) {resolved : Moment}
    (isMonth : recognizer.resolve (found.textOf .month) now = .ok (some resolved)) :
    ∃ reading, recognizer.reading? (found.textOf .month) now = .ok (some reading) ∧
      reading.value = resolved := by
  rw [resolve_month namesMonth isFound] at isMonth
  cases isReading : recognizer.reading? (found.textOf .month) now with
  | error fault =>
      rw [isReading] at isMonth
      contradiction
  | ok known =>
      rw [isReading, Result.ok_map] at isMonth
      obtain ⟨reading, rfl, same⟩ := Option.map_eq_some_iff.1 (Except.ok.inj isMonth)
      exact ⟨reading, rfl, same⟩

/-- The months without days are those of year 0 and the last one of the calendar. -/
theorem exists_monthOverrun_iff (namesMonth : phrase.NamesMonth)
    (isFound : phrase.find? text = some found) :
    (∃ fault, MonthOverrun recognizer found now fault) ↔
      ∃ reading, recognizer.reading? (found.textOf .month) now = .ok (some reading) ∧
        (namedYear found now reading.value = 0 ∨
          namedYear found now reading.value = 9999 ∧ reading.value.day.month = 12) := by
  constructor
  · rintro ⟨fault, overrun⟩
    cases overrun with
    | beforeFirst isMonth yearZero =>
        obtain ⟨reading, isReading, rfl⟩ := exists_reading_of_resolve namesMonth isFound isMonth
        exact ⟨reading, isReading, Or.inl yearZero⟩
    | lastMonth isMonth lastYear december =>
        obtain ⟨reading, isReading, rfl⟩ := exists_reading_of_resolve namesMonth isFound isMonth
        exact ⟨reading, isReading, Or.inr ⟨lastYear, december⟩⟩
  · rintro ⟨reading, isReading, outside⟩
    have isResolved := resolve_month namesMonth isFound recognizer now
    rw [isReading, Result.ok_map, Option.map_some] at isResolved
    rcases outside with yearZero | ⟨lastYear, december⟩
    · exact ⟨_, .beforeFirst isResolved yearZero⟩
    · exact ⟨_, .lastMonth isResolved lastYear december⟩

end Phrase

/-! ## Descriptions -/

variable {recognizer : Recognizer} {text : Text} {now : Moment}

theorem Description.exists_overruns_iff :
    (∃ fault, Overruns recognizer text now fault) ↔
      (∃ found, Phrase.first? text = some (.weekendsNext, found) ∧
        ∃ fault, Phrase.WeekendsOverrun found now.day fault) ∨
      ∃ phrase found, Phrase.first? text = some (phrase, found) ∧ phrase.NamesMonth ∧
        ∃ fault, Phrase.MonthOverrun recognizer found now fault := by
  constructor
  · rintro ⟨fault, overruns⟩
    cases overruns with
    | weekends isFirst overrun => exact Or.inl ⟨_, isFirst, fault, overrun⟩
    | month isFirst namesMonth overrun =>
        exact Or.inr ⟨_, _, isFirst, namesMonth, fault, overrun⟩
  · rintro (⟨found, isFirst, fault, overrun⟩ | ⟨phrase, found, isFirst, names, fault, overrun⟩)
    · exact ⟨fault, .weekends isFirst overrun⟩
    · exact ⟨fault, .month isFirst names overrun⟩

theorem Event.exists_ofText_iff (total : recognizer.IsTotal) (afterFirst : 2 ≤ now.day.year)
    (beforeLast : now.day.year ≤ 9998) :
    (∃ event, ofText recognizer text now = .ok event) ↔
      ¬ ∃ fault, Description.Overruns recognizer text now fault := by
  simp only [← Draft.ofText_error_iff total afterFirst beforeLast, ← Event.ofText_error_iff]
  rw [Result.exists_error_iff, not_not]

/-- A description cannot be read exactly if its first phrase counts weekends to the last day of the
calendar or beyond, or names a month, known to the recognizer, of year 0 or the last one of the
calendar. -/
theorem Event.exists_fault_iff (recognizer : Recognizer) (total : recognizer.IsTotal)
    (now : Moment) (afterFirst : 2 ≤ now.day.year) (beforeLast : now.day.year ≤ 9998) (text : Text)
    (short : ∀ found, Phrase.weekendsNext.find? text = some found →
      (found.textOf .count).length ≤ 4300) :
    ((∃ fault, ofText recognizer text now = .error fault) ↔
      (∃ found, Phrase.first? text = some (.weekendsNext, found) ∧
        ¬ ∃ stop, (Phrase.countedPeriod found).EndsOn (Phrase.countOf found) now.day stop ∧
          stop < .last) ∨
      ∃ phrase found, Phrase.first? text = some (phrase, found) ∧ phrase.NamesMonth ∧
        ∃ reading, recognizer.reading? (found.textOf .month) now = .ok (some reading) ∧
          (Phrase.namedYear found now reading.value = 0 ∨
            Phrase.namedYear found now reading.value = 9999 ∧ reading.value.day.month = 12)) ∧
    (∀ found, Phrase.first? text = some (.everyDayThisNext, found) →
      ∃ event, ofText recognizer text now = .ok event) ∧
    (Phrase.first? text = none → ∃ event, ofText recognizer text now = .ok event) := by
  refine ⟨?_, fun found isFirst => ?_, fun isFirst => ?_⟩
  · rw [Result.exists_error_iff, exists_ofText_iff total afterFirst beforeLast, not_not,
      Description.exists_overruns_iff]
    refine or_congr ?_ ?_
    · refine exists_congr fun found => and_congr_right fun isFirst => ?_
      exact Phrase.exists_weekendsOverrun_iff now.day (short found (Phrase.find?_of_first? isFirst))
    · refine exists_congr fun phrase => exists_congr fun found => and_congr_right fun isFirst => ?_
      refine and_congr_right fun namesMonth => ?_
      exact Phrase.exists_monthOverrun_iff namesMonth (Phrase.find?_of_first? isFirst)
  · rw [exists_ofText_iff total afterFirst beforeLast]
    rintro ⟨fault, overruns⟩
    rcases (Description.overruns_iff isFirst).1 overruns with ⟨isWeekends, -⟩ | ⟨namesMonth, -⟩
    · contradiction
    · exact Phrase.not_namesMonth_everyDayThisNext namesMonth
  · rw [exists_ofText_iff total afterFirst beforeLast]
    rintro ⟨fault, overruns⟩
    cases overruns with
    | weekends isOther _ => cases isFirst.symm.trans isOther
    | month isOther _ _ => cases isFirst.symm.trans isOther

def twelveMonths : Text :=
  "weekends for the next 12 months".toList

theorem Phrase.exists_first_twelveMonths :
    ∃ found, first? twelveMonths = some (.weekendsNext, found) ∧
      (found.textOf .count).length ≤ 4300 ∧ countOf found = 12 ∧
      countedPeriod found = .month := by
  have pieces : (first? twelveMonths).map
      (fun first => (first.1, first.2.textOf .count, first.2.textOf .unit)) =
        some (.weekendsNext, "12".toList, "months".toList) := by
    decide +kernel
  obtain ⟨⟨phrase, found⟩, isFirst, same⟩ := Option.map_eq_some_iff.1 pieces
  simp only [Prod.mk.injEq] at same
  obtain ⟨rfl, count, unit⟩ := same
  refine ⟨found, isFirst, ?_, ?_, ?_⟩
  · rw [count]
    decide
  · rw [countOf, count]
    decide
  · rw [countedPeriod, unit]
    rfl

/-- Twelve months from 31 December 9998 end on the last day of the calendar; those from the day
before do not. -/
theorem ofText_lastWeekends :
    (∃ fault, Event.ofText (.ofTable ⟨[], []⟩) twelveMonths
      (.midnight ⟨3651694, by decide, by decide⟩) = .error fault) ∧
    ∃ event, Event.ofText (.ofTable ⟨[], []⟩) twelveMonths
      (.midnight ⟨3651693, by decide, by decide⟩) = .ok event := by
  obtain ⟨found, isFirst, isShort, isCount, isPeriod⟩ := Phrase.exists_first_twelveMonths
  have short : ∀ other, Phrase.weekendsNext.find? twelveMonths = some other →
      (other.textOf .count).length ≤ 4300 := by
    intro other isOther
    obtain rfl := Option.some.inj ((Phrase.find?_of_first? isFirst).symm.trans isOther)
    exact isShort
  constructor
  · refine (Event.exists_fault_iff _ (Recognizer.ofTable_isTotal _) _ (by decide +kernel)
      (by decide +kernel) _ short).1.2 (Or.inl ⟨found, isFirst, ?_⟩)
    rintro ⟨stop, ends, before⟩
    rw [isPeriod, isCount] at ends
    have endsLast : Period.month.EndsOn 12 ⟨3651694, by decide, by decide⟩ .last :=
      ⟨by decide +kernel, by decide +kernel⟩
    rw [ends.unique_month endsLast] at before
    exact Nat.lt_irrefl _ before
  · have ends : Period.month.EndsOn 12 ⟨3651693, by decide, by decide⟩
        ⟨3652058, by decide, by decide⟩ :=
      ⟨by decide +kernel, by decide +kernel⟩
    have known := Event.exists_fault_iff (.ofTable ⟨[], []⟩) (Recognizer.ofTable_isTotal _)
      (.midnight ⟨3651693, by decide, by decide⟩) (by decide +kernel) (by decide +kernel) _ short
    rw [Result.exists_error_iff] at known
    refine not_not.1 (mt known.1.1 ?_)
    rintro (⟨other, isOther, beyond⟩ | ⟨phrase, other, isOther, namesMonth, -⟩)
    · obtain ⟨-, rfl⟩ := Prod.mk.inj (Option.some.inj (isFirst.symm.trans isOther))
      rw [isPeriod, isCount] at beyond
      exact beyond ⟨_, ends, by decide⟩
    · obtain ⟨rfl, -⟩ := Prod.mk.inj (Option.some.inj (isFirst.symm.trans isOther))
      exact Phrase.not_namesMonth_weekendsNext namesMonth

end Rendezvous
