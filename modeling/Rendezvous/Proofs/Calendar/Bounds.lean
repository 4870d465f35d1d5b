import Rendezvous.Proofs.Calendar.Period

/-!
Contract: the bounds of weeks and of months divide the calendar.

Owns:
- `Day.exists_monthBounds_next`: the bounds of a month lie before the first day of the next one;
- `Day.IsWeekOf` and `Day.IsMonthOf`, what the bounds of a week and of a month are;
- `Day.bounds_exact`.

The weeks of the first six days and of the last six lie in the calendar only in part, so these days
have no week bounds.
-/

namespace Rendezvous.Day

/-- 7 January of year 1, the first Sunday of the calendar. -/
def firstSunday : Day := ⟨7, by decide, by decide⟩

/-- 25 December of year 9999, the last Saturday of the calendar. -/
def lastSaturday : Day := ⟨3652053, by decide, by decide⟩

theorem civil_firstSunday : firstSunday.civil = ⟨1, 1, 7⟩ := by
  decide

theorem civil_lastSaturday : lastSaturday.civil = ⟨9999, 12, 25⟩ := by
  decide +kernel

variable {day start stop other : Day}

/-! ## Weeks -/

/-- What the bounds of the week of a day are. -/
structure IsWeekOf (day start stop : Day) : Prop where
  begins : start.weekday = 0
  ends : stop.weekday = 6
  sixDays : start.shift 6 = .ok stop
  holds : start ≤ day ∧ day ≤ stop
  sameBounds : ∀ other : Day, other.weekBounds = day.weekBounds ↔ start ≤ other ∧ other ≤ stop

theorem outsideWeeks_iff (day : Day) :
    day.weekIndex = 0 ∨ lastOrdinal < 7 * day.weekIndex + 6 ↔
      day < firstSunday ∨ lastSaturday < day := by
  rw [lt_iff, lt_iff]
  simp only [weekIndex, firstSunday, lastSaturday, lastOrdinal]
  omega

/-- Days of one week have the same bounds, and days of two weeks have different ones. -/
theorem weekBounds_eq_iff (areBounds : day.weekBounds = .ok (start, stop)) :
    other.weekBounds = day.weekBounds ↔ other.weekIndex = day.weekIndex := by
  obtain ⟨isStart, isStop⟩ := (weekBounds_eq_ok_iff _ _ _).1 areBounds
  rw [areBounds, weekBounds_eq_ok_iff]
  omega

theorem isWeekOf_of_weekBounds (areBounds : day.weekBounds = .ok (start, stop)) :
    IsWeekOf day start stop := by
  obtain ⟨isStart, isStop⟩ := (weekBounds_eq_ok_iff _ _ _).1 areBounds
  obtain ⟨-, members⟩ := weekBounds_sound areBounds
  refine {
    begins := Fin.ext ?_
    ends := Fin.ext ?_
    sixDays := (shift_eq_ok_iff _ _ _).2 (by omega)
    holds := (members day).2 rfl
    sameBounds := fun other => (weekBounds_eq_iff areBounds).trans (members other).symm }
  · show start.ordinal % 7 = 0
    omega
  · show stop.ordinal % 7 = 6
    omega

/-! ## Months -/

/-- What the bounds of the month of a day are. -/
structure IsMonthOf (day start stop : Day) : Prop where
  begins : start.civil = ⟨day.year, day.month, 1⟩
  ends : stop.civil = ⟨day.year, day.month, monthLength day.year day.month⟩
  mem_iff : ∀ other : Day,
    start ≤ other ∧ other ≤ stop ↔ other.year = day.year ∧ other.month = day.month
  next : ∃ next, stop.shift 1 = .ok next ∧ next.dayOfMonth = 1 ∧
    next.monthIndex = day.monthIndex + 1

theorem monthIndex_eq_iff_sameMonth (day other : Day) :
    other.monthIndex = day.monthIndex ↔ other.year = day.year ∧ other.month = day.month := by
  have months := month_bounds day
  have inMonth : day.monthIndex = day.year * 12 + (day.month - 1 : Nat) := by
    simp only [monthIndex]
    omega
  rw [inMonth, monthIndex_eq_iff_date other months.1 months.2]

theorem lastMonth_iff (day : Day) :
    day.monthIndex = lastMonth ↔ day.year = 9999 ∧ day.month = 12 := by
  have number : lastMonth = (9999 : Nat) * 12 + (12 - 1 : Nat) := by decide
  rw [number, monthIndex_eq_iff_date day (by decide) (by decide)]

/-- The date that lies a number of days behind the beginning of a month. -/
theorem civil_of_ordinal {date : CivilDate} (valid : date.IsValid)
    (behind : day.ordinal = firstDayIndex date.monthNumber + date.day) : day.civil = date := by
  have positive := valid.one_le_day
  apply civil_eq_of_dayIndex valid
  rw [behind, valid.dayIndex_eq]
  omega

theorem ordinal_monthStart (sameMonth : start.monthIndex = day.monthIndex)
    (begins : start.dayOfMonth = 1) :
    start.ordinal = firstDayIndex day.civil.monthNumber + 1 := by
  rw [monthIndex_eq, monthIndex_eq, Int.natCast_inj] at sameMonth
  rw [ordinal_eq, sameMonth, begins]

/-- The next month begins as many days behind a month as that one is long. -/
theorem ordinal_nextMonthStart (follows : other.monthIndex = day.monthIndex + 1)
    (begins : other.dayOfMonth = 1) :
    other.ordinal =
      firstDayIndex day.civil.monthNumber + monthLength day.year day.month + 1 := by
  have valid := day.civil_valid
  have behind := firstDayIndex_succ _ valid.le_monthNumber
  rw [valid.monthNumber_div, valid.monthNumber_mod] at behind
  rw [monthIndex_eq, monthIndex_eq] at follows
  have nextNumber : other.civil.monthNumber = day.civil.monthNumber + 1 := by omega
  rw [ordinal_eq, begins, nextNumber, behind]
  rfl

/-- A month ends on the day before the first one of the next month. -/
theorem exists_monthBounds_next (day : Day) (notLast : day.monthIndex < lastMonth) :
    ∃ start stop next, day.monthBounds = .ok (start, stop) ∧ stop.shift 1 = .ok next ∧
      (start.monthIndex = day.monthIndex ∧ start.dayOfMonth = 1) ∧
      next.monthIndex = day.monthIndex + 1 ∧ next.dayOfMonth = 1 := by
  obtain ⟨start, isStart, startMonth, startDay⟩ := exists_firstOfMonth day
  have startBounds := monthIndex_bounds start
  obtain ⟨next, stop, isNext, isStop, stopBefore, nextMonth, nextDay⟩ :=
    exists_monthsNext startDay 1 (by omega) (by omega)
  refine ⟨start, stop, next, ?_, (shift_eq_ok_iff _ _ _).2 (by omega), ⟨startMonth, startDay⟩,
    by omega, nextDay⟩
  rw [monthBounds, isStart, Result.ok_bind, isNext, Result.ok_bind, isStop, Result.ok_bind,
    Result.pure_eq_ok]

theorem isMonthOf_of_monthBounds (areBounds : day.monthBounds = .ok (start, stop)) :
    IsMonthOf day start stop := by
  have notLast : day.monthIndex < lastMonth := by
    have bounds := monthIndex_bounds day
    have notLast : day.monthIndex ≠ lastMonth := by
      intro isLast
      rw [monthBounds_of_last day isLast] at areBounds
      contradiction
    omega
  obtain ⟨first, last, next, sameBounds, isNext, ⟨firstMonth, firstDay⟩, nextMonth, nextDay⟩ :=
    exists_monthBounds_next day notLast
  obtain ⟨rfl, rfl⟩ := Prod.mk.inj (Except.ok.inj (sameBounds.symm.trans areBounds))
  obtain ⟨-, members⟩ := monthBounds_sound areBounds
  have valid := day.civil_valid
  have positive := valid.one_le_day
  refine {
    begins := civil_of_ordinal ?_ ?_
    ends := civil_of_ordinal ?_ ?_
    mem_iff := fun other => (members other).trans (monthIndex_eq_iff_sameMonth day other)
    next := ⟨next, isNext, nextDay, nextMonth⟩ }
  · exact { valid with one_le_day := Nat.le_refl 1, day_le := positive.trans valid.day_le }
  · exact ordinal_monthStart firstMonth firstDay
  · exact { valid with
      one_le_day := positive.trans valid.day_le
      day_le := Nat.le_refl _ }
  · have nextOrdinal := ordinal_nextMonthStart nextMonth nextDay
    rw [shift_eq_ok_iff] at isNext
    show last.ordinal = firstDayIndex day.civil.monthNumber + monthLength day.year day.month
    omega

theorem monthBounds_eq_error_iff (day : Day) (fault : Fault) :
    day.monthBounds = .error fault ↔
      fault = .yearOutOfRange 10000 ∧ day.monthIndex = lastMonth := by
  have bounds := monthIndex_bounds day
  by_cases isLast : day.monthIndex = lastMonth
  · rw [monthBounds_of_last day isLast, Except.error.injEq]
    simp only [isLast, and_true, eq_comm]
  · obtain ⟨start, stop, areBounds, -⟩ := exists_monthBounds day (by omega)
    simp only [areBounds, isLast, reduceCtorEq, and_false]

/-! ## The calendar -/

/-- Only the days before the first Sunday and behind the last Saturday have no week bounds; the
bounds of the others are the Sunday and the Saturday around them, and two days have the same ones
exactly if one lies between those of the other.  Only the days of the last month have no month
bounds; the bounds of the others are the first and the last day of their month, and the next day
begins the next month. -/
theorem bounds_exact (day : Day) :
    (firstSunday.civil = ⟨1, 1, 7⟩ ∧ lastSaturday.civil = ⟨9999, 12, 25⟩) ∧
    (∀ fault, day.weekBounds = .error fault ↔
      fault = .outOfCalendar ∧ (day < firstSunday ∨ lastSaturday < day)) ∧
    (∀ start stop, day.weekBounds = .ok (start, stop) → IsWeekOf day start stop) ∧
    (∀ fault, day.monthBounds = .error fault ↔
      fault = .yearOutOfRange 10000 ∧ day.year = 9999 ∧ day.month = 12) ∧
    ∀ start stop, day.monthBounds = .ok (start, stop) → IsMonthOf day start stop := by
  refine ⟨⟨civil_firstSunday, civil_lastSaturday⟩, fun fault => ?_,
    fun _ _ => isWeekOf_of_weekBounds, fun fault => ?_, fun _ _ => isMonthOf_of_monthBounds⟩
  · rw [weekBounds_eq_error_iff, outsideWeeks_iff]
  · rw [monthBounds_eq_error_iff, lastMonth_iff]

/-- 14 February 2024, a Wednesday of a leap year. -/
def february14 : Day := ⟨738930, by decide, by decide⟩

/-- A week and a month in February of a leap year, and the last days without bounds. -/
theorem bounds_exact_february14 :
    (∃ start stop, february14.weekBounds = .ok (start, stop) ∧ IsWeekOf february14 start stop ∧
      start.civil = ⟨2024, 2, 11⟩ ∧ stop.civil = ⟨2024, 2, 17⟩) ∧
    (∃ start stop, february14.monthBounds = .ok (start, stop) ∧ IsMonthOf february14 start stop ∧
      stop.civil = ⟨2024, 2, 29⟩) ∧
    Day.last.weekBounds = .error .outOfCalendar ∧
    lastSaturday.monthBounds = .error (.yearOutOfRange 10000) := by
  obtain ⟨-, -, ofWeek, -, ofMonth⟩ := bounds_exact february14
  have weekBounds : february14.weekBounds =
      .ok (⟨738927, by decide, by decide⟩, ⟨738933, by decide, by decide⟩) := by decide +kernel
  have monthBounds : february14.monthBounds =
      .ok (⟨738917, by decide, by decide⟩, ⟨738945, by decide, by decide⟩) := by decide +kernel
  refine ⟨⟨_, _, weekBounds, ofWeek _ _ weekBounds, ?_, ?_⟩,
    ⟨_, _, monthBounds, ofMonth _ _ monthBounds, ?_⟩, ?_, ?_⟩
  · decide +kernel
  · decide +kernel
  · decide +kernel
  · exact ((bounds_exact .last).2.1 _).2 ⟨rfl, Or.inr (by decide)⟩
  · refine ((bounds_exact lastSaturday).2.2.2.1 _).2 ⟨rfl, ?_⟩
    rw [year, month, civil_lastSaturday]
    decide

end Rendezvous.Day
