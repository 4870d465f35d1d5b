import Mathlib.Data.List.Sort
import Rendezvous.Proofs.Ascending
import Rendezvous.Proofs.Calendar.Civil
import Rendezvous.Calendar.Day

/-!
Contract: the days of the calendar are the valid dates of its years, and lists of days
hold what their names say.

Owns:
- days by their numbers: `Day.shift_eq_ok_iff` says which day a shift comes to, and
  `Day.shift_eq_error_iff` when there is none;
- days by their dates: `Day.civil_valid`, `Day.year_bounds`, `Day.month_bounds`,
  `Day.dayOfMonth_le`, `Day.exists_ofCivil` and `Day.ofCivil_civil`;
- `Day.mem_range` and `Day.mem_sorted`, with the order of both lists, and `Day.ascending_unique`.
-/

namespace Rendezvous.Day

/-! ## Numbers -/

theorem eq_of_ordinal_eq {left right : Day} (same : left.ordinal = right.ordinal) :
    left = right := by
  obtain ⟨ordinal, _, _⟩ := left
  obtain ⟨_, _, _⟩ := right
  subst same
  rfl

theorem ordinal_injective : Function.Injective ordinal :=
  fun _ _ => eq_of_ordinal_eq

theorem le_iff (left right : Day) : left ≤ right ↔ left.ordinal ≤ right.ordinal :=
  Iff.rfl

theorem lt_iff (left right : Day) : left < right ↔ left.ordinal < right.ordinal :=
  Iff.rfl

theorem ofOrdinal?_eq_some_iff (ordinal : Int) (day : Day) :
    ofOrdinal? ordinal = some day ↔ (day.ordinal : Int) = ordinal := by
  have first := day.first_le
  have last := day.le_last
  unfold ofOrdinal?
  split
  next inside =>
    rw [Option.some.injEq]
    constructor
    · rintro rfl
      simp only
      omega
    · intro same
      apply eq_of_ordinal_eq
      simp only
      omega
  next outside =>
    simp only [reduceCtorEq, false_iff]
    omega

theorem ofOrdinal?_eq_none_iff (ordinal : Int) :
    ofOrdinal? ordinal = none ↔ ordinal < 1 ∨ (lastOrdinal : Int) < ordinal := by
  unfold ofOrdinal?
  split
  next inside =>
    simp only [reduceCtorEq, false_iff]
    omega
  next outside =>
    simp only [true_iff]
    omega

theorem shift_eq_ok_iff (day shifted : Day) (days : Int) :
    day.shift days = .ok shifted ↔ (shifted.ordinal : Int) = day.ordinal + days := by
  rw [← ofOrdinal?_eq_some_iff, shift]
  cases ofOrdinal? (day.ordinal + days) <;> simp

theorem shift_eq_error_iff (day : Day) (days : Int) (fault : Fault) :
    day.shift days = .error fault ↔
      fault = .outOfCalendar ∧
        (day.ordinal + days < 1 ∨ (lastOrdinal : Int) < day.ordinal + days) := by
  rw [← ofOrdinal?_eq_none_iff, shift]
  cases ofOrdinal? (day.ordinal + days) <;> simp [eq_comm]

/-- A shift within the calendar comes to a day. -/
theorem exists_shift (day : Day) (days : Int) (first : 1 ≤ day.ordinal + days)
    (last : day.ordinal + days ≤ lastOrdinal) :
    ∃ shifted, day.shift days = .ok shifted ∧ (shifted.ordinal : Int) = day.ordinal + days := by
  cases outcome : day.shift days with
  | ok shifted => exact ⟨shifted, rfl, (shift_eq_ok_iff day shifted days).1 outcome⟩
  | error fault =>
      have := ((shift_eq_error_iff day days fault).1 outcome).2
      omega

theorem ordinal_lt_of_ne_last {day : Day} (notLast : day ≠ .last) : day.ordinal < lastOrdinal :=
  Nat.lt_of_le_of_ne day.le_last fun same => notLast (eq_of_ordinal_eq same)

theorem ne_last_of_ordinal_lt {day : Day} (below : day.ordinal < lastOrdinal) : day ≠ .last := by
  rintro rfl
  exact Nat.lt_irrefl _ below

theorem weekday_val (day : Day) : day.weekday.val = day.ordinal % 7 :=
  rfl

/-! ## Dates -/

theorem civil_valid (day : Day) : day.civil.IsValid :=
  CivilDate.ofDayIndex_valid _

theorem dayIndex_civil (day : Day) : day.civil.dayIndex + 1 = day.ordinal := by
  have := day.first_le
  rw [civil, CivilDate.dayIndex_ofDayIndex]
  omega

theorem civil_eq_of_dayIndex {day : Day} {date : CivilDate} (valid : date.IsValid)
    (same : day.ordinal = date.dayIndex + 1) : day.civil = date := by
  rw [civil, same, Nat.add_sub_cancel, CivilDate.ofDayIndex_dayIndex valid]

example : last.civil = ⟨9999, 12, 31⟩ := by decide +kernel

/-- The calendar ends with the year 9999. -/
theorem firstDayIndex_end : firstDayIndex (10000 * 12) = lastOrdinal := by
  decide

theorem year_bounds (day : Day) : 1 ≤ day.year ∧ day.year ≤ 9999 := by
  refine ⟨day.civil_valid.one_le_year, Nat.le_of_not_lt fun beyond => ?_⟩
  have last := day.le_last
  have index := day.civil_valid.dayIndex_eq
  have number := dayIndex_civil day
  have late : 10000 * 12 ≤ day.civil.monthNumber := by
    change 9999 < day.civil.year at beyond
    simp only [CivilDate.monthNumber]
    omega
  have := firstDayIndex_mono (by decide) late
  rw [firstDayIndex_end] at this
  omega

theorem month_bounds (day : Day) : 1 ≤ day.month ∧ day.month ≤ 12 :=
  ⟨day.civil_valid.one_le_month, day.civil_valid.month_le⟩

theorem dayOfMonth_pos (day : Day) : 1 ≤ day.dayOfMonth :=
  day.civil_valid.one_le_day

theorem dayOfMonth_le (day : Day) : day.dayOfMonth ≤ 31 := by
  have valid := day.civil_valid
  have length := monthLength_bounds day.civil.year (day.civil.monthNumber % 12)
    (Nat.mod_lt _ (by decide))
  rw [valid.monthNumber_mod] at length
  exact Nat.le_trans valid.day_le length.2

/-- A valid date of the years 1 to 9999 is the date of a day. -/
theorem exists_ofCivil {date : CivilDate} (valid : date.IsValid) (inCalendar : date.year ≤ 9999) :
    ∃ day, ofCivil date.year date.month date.day = .ok day ∧ day.civil = date := by
  have oneLeYear := valid.one_le_year
  have oneLeMonth := valid.one_le_month
  have monthLe := valid.month_le
  have oneLeDay := valid.one_le_day
  have dayLe := valid.day_le
  have beforeEnd : date.dayIndex + 1 ≤ lastOrdinal := by
    have ordered : date.monthNumber + 1 ≤ 10000 * 12 := by
      simp only [CivilDate.monthNumber]
      omega
    have := firstDayIndex_mono (by have := valid.le_monthNumber; omega) ordered
    have := valid.dayIndex_lt
    rw [firstDayIndex_end] at *
    omega
  obtain ⟨found, isFound⟩ : ∃ found, ofOrdinal? (date.dayIndex + 1 : Int) = some found := by
    cases outcome : ofOrdinal? (date.dayIndex + 1 : Int) with
    | some found => exact ⟨found, rfl⟩
    | none =>
        have := (ofOrdinal?_eq_none_iff _).1 outcome
        omega
  refine ⟨found, ?_, civil_eq_of_dayIndex valid ?_⟩
  · rw [ofCivil, if_neg (by omega), if_neg (by omega),
      if_neg (by simp only [Int.toNat_natCast]; omega)]
    simp only [Int.toNat_natCast, isFound]
  · have := (ofOrdinal?_eq_some_iff _ found).1 isFound
    omega

theorem eq_of_civil_eq {left right : Day} (same : left.civil = right.civil) : left = right := by
  apply eq_of_ordinal_eq
  rw [← dayIndex_civil, same, dayIndex_civil]

/-- A day is the one of its date. -/
theorem ofCivil_civil (day : Day) : ofCivil day.year day.month day.dayOfMonth = .ok day := by
  obtain ⟨found, isFound, sameDate⟩ := exists_ofCivil day.civil_valid day.year_bounds.2
  rwa [eq_of_civil_eq sameDate] at isFound

/-! ## Lists of days -/

theorem mem_range (start stop day : Day) : day ∈ range start stop ↔ start ≤ day ∧ day ≤ stop := by
  simp only [range, List.mem_filterMap, List.mem_range'_1, ofOrdinal?_eq_some_iff, le_iff,
    Int.natCast_inj]
  constructor
  · rintro ⟨ordinal, bounds, rfl⟩
    omega
  · rintro ⟨fromStart, toStop⟩
    exact ⟨day.ordinal, by omega, rfl⟩

theorem range_pairwise (start stop : Day) : (range start stop).Pairwise (· < ·) := by
  rw [range, List.pairwise_filterMap]
  refine (List.pairwise_lt_range' 1).imp ?_
  intro earlier later ordered left isLeft right isRight
  rw [ofOrdinal?_eq_some_iff] at isLeft isRight
  rw [lt_iff]
  omega

theorem range_of_lt {start stop : Day} (behind : stop < start) : range start stop = [] := by
  rw [lt_iff] at behind
  have empty : stop.ordinal + 1 - start.ordinal = 0 := by omega
  rw [range, empty]
  rfl

theorem range_cons {start next stop : Day} (ordered : start ≤ stop)
    (isNext : next.ordinal = start.ordinal + 1) :
    range start stop = start :: range next stop := by
  rw [le_iff] at ordered
  have longer : stop.ordinal + 1 - start.ordinal = stop.ordinal + 1 - next.ordinal + 1 := by omega
  have itself : ofOrdinal? (start.ordinal : Int) = some start :=
    (ofOrdinal?_eq_some_iff _ _).2 rfl
  rw [range, range, longer, List.range'_succ, isNext]
  simp only [List.filterMap_cons, itself]

@[simp]
theorem mem_sorted (day : Day) (days : List Day) : day ∈ sorted days ↔ day ∈ days :=
  mem_ascending _ _ _

theorem sorted_pairwise (days : List Day) : (sorted days).Pairwise (· < ·) :=
  ascending_pairwise ordinal_injective days

/-- Strictly ascending lists of days are sorted already. -/
theorem sorted_eq_self (days : List Day) (ascends : days.Pairwise (· < ·)) :
    sorted days = days :=
  ascending_eq_self ordinal days ascends

/-- Ascending lists with the same days are the same. -/
theorem ascending_unique {first second : List Day} (firstAscends : first.Pairwise (· < ·))
    (secondAscends : second.Pairwise (· < ·)) (same : ∀ day, day ∈ first ↔ day ∈ second) :
    first = second := by
  have irreflexive : Std.Irrefl fun left right : Day => left < right :=
    ⟨fun day => Nat.lt_irrefl day.ordinal⟩
  have antisymmetric : Std.Antisymm fun left right : Day => left < right :=
    ⟨fun left right before behind => absurd before (Nat.lt_asymm behind)⟩
  exact firstAscends.eq_of_mem_iff secondAscends same

/-! ## A day to try things out on -/

/-- 15 January 2025, a Wednesday. -/
def january15 : Day := ⟨739266, by decide, by decide⟩

end Rendezvous.Day
