import Rendezvous.Calendar.Month
import Rendezvous.Calendar.Week
import Rendezvous.Proofs.Calendar.Day
import Rendezvous.Proofs.Result

/-!
Contract: the bounds of a week and of a month are those of its days, and steps by months
lead to the month that they name.

Owns:
- `Day.weekIndex`, the number of a week through all years, `Day.weekBounds_eq_ok_iff` and
  `Day.weekBounds_eq_error_iff`, which say what the bounds are and when there are none, with
  `Day.weekBounds_sound` and `Day.exists_weekBounds`;
- `Day.monthIndex_eq_iff` and `Day.monthIndex_eq_iff_date`, the days of a month;
- `Day.addMonths_cases`, what a step by months comes to, and when it fails;
- `Day.exists_monthsNext` and `Day.exists_monthsEnd`, the end of several months in a row and
  their days;
- `Day.exists_monthBounds`, `Day.monthBounds_of_last` and `Day.monthBounds_sound`.

Only the last month of the calendar, `lastMonth`, has no bounds.
-/

namespace Rendezvous.Day

/-! ## Weeks -/

/-- The number of the week of a day.  The number of a Sunday is a multiple of seven, so
the days from a Sunday to the Saturday behind it have the same one. -/
def weekIndex (day : Day) : Nat :=
  day.ordinal / 7

/-- A week begins with a multiple of seven and ends before the next one. -/
theorem weekBounds_eq_ok_iff (day start stop : Day) :
    day.weekBounds = .ok (start, stop) ↔
      start.ordinal = 7 * day.weekIndex ∧ stop.ordinal = 7 * day.weekIndex + 6 := by
  have inWeek := weekday_val day
  rw [weekBounds, Result.bind_eq_ok_iff]
  simp only [weekIndex]
  constructor
  · rintro ⟨sunday, isSunday, rest⟩
    obtain ⟨saturday, isSaturday, both⟩ := (Result.bind_eq_ok_iff _ _ _).1 rest
    obtain ⟨rfl, rfl⟩ := Prod.mk.inj (Except.ok.inj both)
    rw [shift_eq_ok_iff] at isSunday isSaturday
    omega
  · rintro ⟨isStart, isStop⟩
    refine ⟨start, (shift_eq_ok_iff _ _ _).2 (by omega), ?_⟩
    rw [(shift_eq_ok_iff start stop 6).2 (by omega), Result.ok_bind, Result.pure_eq_ok]

/-- A week has to lie in the calendar as a whole. -/
theorem weekBounds_eq_error_iff (day : Day) (fault : Fault) :
    day.weekBounds = .error fault ↔
      fault = .outOfCalendar ∧ (day.weekIndex = 0 ∨ lastOrdinal < 7 * day.weekIndex + 6) := by
  have inWeek := weekday_val day
  have within := day.le_last
  rw [weekBounds, Result.bind_eq_error_iff, shift_eq_error_iff]
  simp only [Result.bind_eq_error_iff, shift_eq_error_iff, shift_eq_ok_iff, Result.pure_eq_ok,
    reduceCtorEq, and_false, exists_false, or_false, weekIndex]
  constructor
  · rintro (⟨rfl, outside⟩ | ⟨sunday, isSunday, rfl, outside⟩)
    · exact ⟨rfl, by omega⟩
    · have first := sunday.first_le
      exact ⟨rfl, by omega⟩
  · rintro ⟨rfl, outside⟩
    by_cases early : day.ordinal < 7
    · exact Or.inl ⟨rfl, by omega⟩
    · obtain ⟨sunday, -, isSunday⟩ := exists_shift day (-day.weekday.val) (by omega) (by omega)
      exact Or.inr ⟨sunday, isSunday, rfl, by omega⟩

/-- Bounds of a week are those of its days. -/
theorem weekBounds_sound {day start stop : Day} (areBounds : day.weekBounds = .ok (start, stop)) :
    stop ≠ .last ∧
      ∀ other : Day, start ≤ other ∧ other ≤ stop ↔ other.weekIndex = day.weekIndex := by
  obtain ⟨isStart, isStop⟩ := (weekBounds_eq_ok_iff _ _ _).1 areBounds
  refine ⟨?_, fun other => ?_⟩
  · intro same
    -- The calendar ends with a Friday.
    have : stop.ordinal = lastOrdinal := congrArg Day.ordinal same
    have : lastOrdinal % 7 = 5 := by decide
    omega
  · simp only [le_iff, weekIndex] at isStart isStop ⊢
    omega

/-- The bounds of a week, which has to lie in the calendar as a whole. -/
theorem exists_weekBounds (day : Day) (first : 7 ≤ day.ordinal)
    (last : day.ordinal + 7 ≤ lastOrdinal) :
    ∃ start stop, day.weekBounds = .ok (start, stop) ∧ stop ≠ .last ∧
      ∀ other : Day, start ≤ other ∧ other ≤ stop ↔ other.weekIndex = day.weekIndex := by
  cases outcome : day.weekBounds with
  | ok bounds => exact ⟨bounds.1, bounds.2, rfl, weekBounds_sound outcome⟩
  | error fault =>
      have outside := ((weekBounds_eq_error_iff _ _).1 outcome).2
      simp only [weekIndex] at outside
      omega

/-! ## Months -/

/-- The number of the last month of the calendar. -/
def lastMonth : Int := 9999 * 12 + 11

theorem monthIndex_eq (day : Day) : day.monthIndex = (day.civil.monthNumber : Int) := by
  have := day.civil_valid.one_le_month
  simp only [monthIndex, year, month, CivilDate.monthNumber]
  omega

theorem monthIndex_bounds (day : Day) : 12 ≤ day.monthIndex ∧ day.monthIndex ≤ lastMonth := by
  have years := year_bounds day
  have months := month_bounds day
  simp only [monthIndex, lastMonth]
  omega

theorem monthIndex_of_year (day : Day) :
    day.year * 12 ≤ day.monthIndex ∧ day.monthIndex ≤ day.year * 12 + 11 := by
  have months := month_bounds day
  simp only [monthIndex]
  omega

/-- The days of a month of a year. -/
theorem monthIndex_eq_iff_date (day : Day) {year month : Nat} (oneLe : 1 ≤ month)
    (le : month ≤ 12) :
    day.monthIndex = year * 12 + (month - 1 : Nat) ↔ day.year = year ∧ day.month = month := by
  have bounds := day.month_bounds
  rw [monthIndex]
  omega

/-- The days of the years between the first and the last one keep away from both ends of
the calendar. -/
theorem ordinal_of_innerYear (day : Day) (afterFirst : 2 ≤ day.year)
    (beforeLast : day.year ≤ 9998) :
    365 < day.ordinal ∧ day.ordinal + 365 ≤ lastOrdinal := by
  have number := dayIndex_civil day
  have lower := day.civil_valid.dayIndex_eq
  have upper := day.civil_valid.dayIndex_lt
  have months := monthIndex_of_year day
  rw [monthIndex_eq] at months
  have second : firstDayIndex 24 = 365 := by decide
  have last : firstDayIndex (9999 * 12) + 365 = lastOrdinal := by decide
  have afterSecond := firstDayIndex_mono (by decide) (by omega : 24 ≤ day.civil.monthNumber)
  have beforeEnd := firstDayIndex_mono (by omega : 12 ≤ day.civil.monthNumber + 1)
    (by omega : day.civil.monthNumber + 1 ≤ 9999 * 12)
  omega

theorem year_of_monthIndex {day : Day} {month : Nat} (inMonth : day.monthIndex = month) :
    day.year = month / 12 := by
  rw [monthIndex_eq, Int.natCast_inj] at inMonth
  rw [year, ← day.civil_valid.monthNumber_div, inMonth]

theorem month_of_monthIndex {day : Day} {month : Nat} (inMonth : day.monthIndex = month) :
    day.month = month % 12 + 1 := by
  rw [monthIndex_eq, Int.natCast_inj] at inMonth
  rw [Day.month, ← day.civil_valid.monthNumber_mod, inMonth]

/-- The days of a month are those from its first day to before the first of the next. -/
theorem monthIndex_eq_iff (day : Day) (month : Nat) (inCalendar : 12 ≤ month) :
    day.monthIndex = month ↔
      firstDayIndex month < day.ordinal ∧ day.ordinal ≤ firstDayIndex (month + 1) := by
  have number := dayIndex_civil day
  have lower := day.civil_valid.dayIndex_eq
  have upper := day.civil_valid.dayIndex_lt
  rw [monthIndex_eq, Int.natCast_inj]
  constructor
  · rintro rfl
    omega
  · rintro ⟨fromFirst, toLast⟩
    exact month_unique day.civil_valid.le_monthNumber inCalendar
      (by omega : _ ≤ day.civil.dayIndex) upper (by omega) (by omega)

/-- A day that its month has. -/
theorem exists_ofCivil_monthIndex (month dayOfMonth : Nat) (first : 12 ≤ month)
    (last : (month : Int) ≤ lastMonth) (oneLe : 1 ≤ dayOfMonth)
    (le : dayOfMonth ≤ monthLength (month / 12) (month % 12 + 1)) :
    ∃ day, ofCivil (month / 12 : Nat) (month % 12 + 1 : Nat) dayOfMonth = .ok day ∧
      day.monthIndex = month ∧ day.dayOfMonth = dayOfMonth := by
  simp only [lastMonth] at last
  have valid : CivilDate.IsValid ⟨month / 12, month % 12 + 1, dayOfMonth⟩ := {
    one_le_year := by simp only; omega
    one_le_month := by simp only; omega
    month_le := by simp only; omega
    one_le_day := oneLe
    day_le := le }
  obtain ⟨day, isDay, date⟩ := exists_ofCivil valid (by simp only; omega)
  refine ⟨day, isDay, ?_, ?_⟩
  · rw [monthIndex_eq, date, CivilDate.monthNumber]
    simp only
    omega
  · rw [Day.dayOfMonth, date]

/-- What a step by months comes to: in the calendar the same day of the month named, or
its last one if it is shorter, and otherwise the fault of its year. -/
theorem addMonths_cases (day : Day) (months : Int) :
    (12 ≤ day.monthIndex + months ∧ day.monthIndex + months ≤ lastMonth ∧
      ∃ moved, day.addMonths months = .ok moved ∧
        moved.monthIndex = day.monthIndex + months ∧
        moved.dayOfMonth = min day.dayOfMonth (monthLength moved.year moved.month)) ∨
    ((day.monthIndex + months < 12 ∨ lastMonth < day.monthIndex + months) ∧
      day.addMonths months = .error (yearFault ((day.monthIndex + months) / 12))) := by
  by_cases inside : 12 ≤ day.monthIndex + months ∧ day.monthIndex + months ≤ lastMonth
  · left
    obtain ⟨first, last⟩ := inside
    obtain ⟨index, isIndex⟩ : ∃ index : Nat, day.monthIndex + months = index :=
      ⟨(day.monthIndex + months).toNat, by omega⟩
    rw [isIndex] at first last ⊢
    have short := monthLength_bounds (index / 12) (index % 12) (Nat.mod_lt _ (by decide))
    have positive := dayOfMonth_pos day
    obtain ⟨moved, isMoved, inMonth, sameDay⟩ := exists_ofCivil_monthIndex index
      (min day.dayOfMonth (monthLength (index / 12) (index % 12 + 1))) (by omega) last
      (by omega) (Nat.min_le_right _ _)
    refine ⟨first, last, moved, ?_, inMonth, ?_⟩
    · have yearOk : ¬ ((index : Int) / 12 < 1 ∨ 9999 < (index : Int) / 12) := by
        simp only [lastMonth] at last
        omega
      have yearIs : (index : Int) / 12 = (index / 12 : Nat) := by omega
      have monthIs : (index : Int) % 12 + 1 = (index % 12 + 1 : Nat) := by omega
      rw [addMonths, isIndex, if_neg yearOk, yearIs, monthIs, Int.toNat_natCast,
        Int.toNat_natCast, isMoved]
    · rw [sameDay, year_of_monthIndex inMonth, month_of_monthIndex inMonth]
  · right
    have outside : day.monthIndex + months < 12 ∨ lastMonth < day.monthIndex + months := by omega
    refine ⟨outside, ?_⟩
    simp only [lastMonth] at outside
    rw [addMonths, if_pos (by omega)]

/-- A step by months within the calendar comes to a day of the month named. -/
theorem exists_addMonths (day : Day) (months : Int) (first : 12 ≤ day.monthIndex + months)
    (last : day.monthIndex + months ≤ lastMonth) :
    ∃ moved, day.addMonths months = .ok moved ∧ moved.monthIndex = day.monthIndex + months := by
  rcases addMonths_cases day months with ⟨-, -, moved, isMoved, inMonth, -⟩ | ⟨outside, -⟩
  · exact ⟨moved, isMoved, inMonth⟩
  · omega

/-- The first day of the month of a day. -/
theorem exists_firstOfMonth (day : Day) :
    ∃ first, day.firstOfMonth = .ok first ∧ first.monthIndex = day.monthIndex ∧
      first.dayOfMonth = 1 := by
  have bounds := monthIndex_bounds day
  have valid := day.civil_valid
  have short := monthLength_bounds (day.civil.monthNumber / 12) (day.civil.monthNumber % 12)
    (Nat.mod_lt _ (by decide))
  obtain ⟨first, isFirst, inMonth, firstDay⟩ := exists_ofCivil_monthIndex day.civil.monthNumber 1
    valid.le_monthNumber (monthIndex_eq day ▸ bounds.2) (Nat.le_refl 1) (by omega)
  rw [valid.monthNumber_div, valid.monthNumber_mod] at isFirst
  exact ⟨first, isFirst, inMonth.trans (monthIndex_eq day).symm, firstDay⟩

theorem ordinal_eq (day : Day) :
    day.ordinal = firstDayIndex day.civil.monthNumber + day.dayOfMonth := by
  have number := dayIndex_civil day
  have index := day.civil_valid.dayIndex_eq
  have positive := day.civil_valid.one_le_day
  change _ = _ + day.civil.day
  omega

/-- The days of a month come before those of a later month. -/
theorem lt_of_monthIndex_lt {earlier later : Day} (ordered : earlier.monthIndex < later.monthIndex) :
    earlier < later := by
  rw [monthIndex_eq, monthIndex_eq, Int.ofNat_lt] at ordered
  have within := earlier.civil_valid.dayIndex_lt
  have behind := later.civil_valid.dayIndex_eq
  have first := earlier.civil_valid.le_monthNumber
  have months := firstDayIndex_mono (by omega : 12 ≤ earlier.civil.monthNumber + 1)
    (by omega : earlier.civil.monthNumber + 1 ≤ later.civil.monthNumber)
  have earlierNumber := dayIndex_civil earlier
  have laterNumber := dayIndex_civil later
  rw [lt_iff]
  omega

theorem monthIndex_mono {earlier later : Day} (ordered : earlier ≤ later) :
    earlier.monthIndex ≤ later.monthIndex := by
  refine Int.not_lt.1 fun behind => ?_
  have reversed := lt_of_monthIndex_lt behind
  rw [le_iff] at ordered
  rw [lt_iff] at reversed
  omega

theorem eq_of_monthIndex_eq {left right : Day} (sameMonth : left.monthIndex = right.monthIndex)
    (sameDay : left.dayOfMonth = right.dayOfMonth) : left = right := by
  rw [monthIndex_eq, monthIndex_eq, Int.natCast_inj] at sameMonth
  apply eq_of_ordinal_eq
  rw [ordinal_eq, ordinal_eq, sameMonth, sameDay]

/-- The last day of the calendar is the 31st of its last month. -/
theorem eq_last_iff (day : Day) :
    day = .last ↔ day.monthIndex = lastMonth ∧ day.dayOfMonth = 31 := by
  have ordinal := ordinal_eq day
  have last : firstDayIndex 119999 + 31 = lastOrdinal := by decide
  have number : lastMonth = (119999 : Nat) := by decide
  rw [monthIndex_eq, number, Int.natCast_inj]
  constructor
  · rintro rfl
    have inMonth : Day.last.monthIndex = (119999 : Nat) := by
      rw [monthIndex_eq_iff _ _ (by decide)]
      decide
    rw [monthIndex_eq, Int.natCast_inj] at inMonth
    rw [inMonth] at ordinal
    refine ⟨inMonth, ?_⟩
    change lastOrdinal = _ at ordinal
    omega
  · rintro ⟨inMonth, lastDay⟩
    apply eq_of_ordinal_eq
    change _ = lastOrdinal
    rw [ordinal, inMonth, lastDay, last]

/-- The first day of a month comes before the days of that month and of the later ones. -/
theorem le_iff_monthIndex_le {start : Day} (isFirst : start.dayOfMonth = 1) (day : Day) :
    start ≤ day ↔ start.monthIndex ≤ day.monthIndex := by
  refine ⟨monthIndex_mono, fun months => ?_⟩
  rcases Int.le_iff_lt_or_eq.1 months with earlier | same
  · exact Nat.le_of_lt (lt_of_monthIndex_lt earlier)
  · have startOrdinal := ordinal_eq start
    have dayOrdinal := ordinal_eq day
    have positive := dayOfMonth_pos day
    rw [monthIndex_eq, monthIndex_eq, Int.natCast_inj] at same
    rw [le_iff, startOrdinal, dayOrdinal, same, isFirst]
    omega

/-- Steps by months lead from the first day of a month to that of another one. -/
theorem exists_addMonths_of_first {start : Day} (isFirst : start.dayOfMonth = 1) (months : Int)
    (first : 12 ≤ start.monthIndex + months) (last : start.monthIndex + months ≤ lastMonth) :
    ∃ moved, start.addMonths months = .ok moved ∧
      moved.monthIndex = start.monthIndex + months ∧ moved.dayOfMonth = 1 := by
  rcases addMonths_cases start months with ⟨-, -, moved, isMoved, inMonth, sameDay⟩ | ⟨outside, -⟩
  · have positive := dayOfMonth_pos moved
    exact ⟨moved, isMoved, inMonth, by omega⟩
  · omega

theorem first_lt_of_monthIndex {day : Day} (later : 12 < day.monthIndex) : first < day := by
  apply lt_of_monthIndex_lt
  have january : first.monthIndex = 12 := by decide +kernel
  rwa [january]

/-- The day before the first of the month to which a step by months leads. -/
theorem exists_monthsNext {start : Day} (isFirst : start.dayOfMonth = 1) (months : Int)
    (second : 12 < start.monthIndex + months) (last : start.monthIndex + months ≤ lastMonth) :
    ∃ next stop, start.addMonths months = .ok next ∧ next.shift (-1) = .ok stop ∧
      stop.ordinal + 1 = next.ordinal ∧
      next.monthIndex = start.monthIndex + months ∧ next.dayOfMonth = 1 := by
  obtain ⟨next, isNext, nextMonth, nextFirst⟩ :=
    exists_addMonths_of_first isFirst months (by omega) last
  have notFirst : first < next := first_lt_of_monthIndex (by omega)
  rw [lt_iff] at notFirst
  change 1 < next.ordinal at notFirst
  have nextLe := next.le_last
  obtain ⟨stop, isStop, stopOrdinal⟩ := exists_shift next (-1) (by omega) (by omega)
  exact ⟨next, stop, isNext, isStop, by omega, nextMonth, nextFirst⟩

/-- The day before the first of a month closes the months before it. -/
theorem exists_monthsEnd {start : Day} (isFirst : start.dayOfMonth = 1) (months : Int)
    (second : 12 < start.monthIndex + months) (last : start.monthIndex + months ≤ lastMonth) :
    ∃ next stop, start.addMonths months = .ok next ∧ next.shift (-1) = .ok stop ∧ stop ≠ .last ∧
      ∀ day : Day, start ≤ day ∧ day ≤ stop ↔
        start.monthIndex ≤ day.monthIndex ∧ day.monthIndex < start.monthIndex + months := by
  obtain ⟨next, stop, isNext, isStop, stopBefore, nextMonth, nextFirst⟩ :=
    exists_monthsNext isFirst months second last
  have nextLe := next.le_last
  refine ⟨next, stop, isNext, isStop, ne_last_of_ordinal_lt (by omega), fun day => ?_⟩
  have beforeNext : day ≤ stop ↔ ¬ next ≤ day := by
    rw [le_iff, le_iff]
    omega
  rw [beforeNext, le_iff_monthIndex_le isFirst, le_iff_monthIndex_le nextFirst, nextMonth,
    Int.not_le]

/-- The bounds of any month but the last one of the calendar. -/
theorem exists_monthBounds (day : Day) (notLast : day.monthIndex < lastMonth) :
    ∃ start stop, day.monthBounds = .ok (start, stop) ∧ stop ≠ .last ∧
      ∀ other : Day, start ≤ other ∧ other ≤ stop ↔ other.monthIndex = day.monthIndex := by
  obtain ⟨start, isStart, startMonth, startDay⟩ := exists_firstOfMonth day
  have startBounds := monthIndex_bounds start
  obtain ⟨next, stop, isNext, isStop, inside, members⟩ :=
    exists_monthsEnd startDay 1 (by omega) (by omega)
  refine ⟨start, stop, ?_, inside, fun other => ?_⟩
  · rw [monthBounds, isStart, Result.ok_bind, isNext, Result.ok_bind, isStop, Result.ok_bind,
      Result.pure_eq_ok]
  · rw [members, startMonth]
    omega

/-- The last month has no bounds, since the day behind it is not in the calendar. -/
theorem monthBounds_of_last (day : Day) (isLast : day.monthIndex = lastMonth) :
    day.monthBounds = .error (.yearOutOfRange 10000) := by
  obtain ⟨start, isStart, startMonth, -⟩ := exists_firstOfMonth day
  rcases addMonths_cases start 1 with ⟨-, last, -⟩ | ⟨-, failed⟩
  · rw [startMonth, isLast] at last
    omega
  · have year : (lastMonth + 1) / 12 = 10000 := by decide
    have named : yearFault 10000 = .yearOutOfRange 10000 := by decide
    rw [startMonth, isLast, year, named] at failed
    rw [monthBounds, isStart, Result.ok_bind, failed, Result.error_bind]

/-- Bounds of a month are those of its days. -/
theorem monthBounds_sound {day start stop : Day} (areBounds : day.monthBounds = .ok (start, stop)) :
    stop ≠ .last ∧
      ∀ other : Day, start ≤ other ∧ other ≤ stop ↔ other.monthIndex = day.monthIndex := by
  have months := monthIndex_bounds day
  by_cases notLast : day.monthIndex < lastMonth
  · obtain ⟨first, last, sameBounds, members⟩ := exists_monthBounds day notLast
    obtain ⟨rfl, rfl⟩ := Prod.mk.inj (Except.ok.inj (areBounds.symm.trans sameBounds))
    exact members
  · have failed := monthBounds_of_last day (by omega)
    exact absurd (areBounds.symm.trans failed) (Result.ok_ne_error _ _)

end Rendezvous.Day
