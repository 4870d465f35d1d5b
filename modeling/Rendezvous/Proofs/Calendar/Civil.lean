import Rendezvous.Calendar.Civil

/-!
Contract: dates and counts of days determine each other.

Owns:
- the length of a year and the count of days before the next one;
- the first days of the months, counted through all years by `firstDayIndex`, and that
  they ascend strictly;
- `CivilDate.IsValid`, the dates that the calendar has;
- `ofDayIndex_valid`, `dayIndex_ofDayIndex` and `ofDayIndex_dayIndex`: counts of days and
  valid dates correspond one to one.

Months are numbered through all years: January of year 1 has the number 12.
-/

namespace Rendezvous

/-! ## Years -/

theorem isLeapYear_iff (year : Nat) :
    isLeapYear year = true ↔ year % 4 = 0 ∧ (year % 100 ≠ 0 ∨ year % 400 = 0) := by
  simp [isLeapYear]

/-- The length of a year. -/
def yearLength (year : Nat) : Nat :=
  if isLeapYear year then 366 else 365

/-- The surplus days before the next year: one more than before a leap year, and as many
as before any other year. -/
private theorem surplus_succ (past : Nat) :
    (past + 1) / 4 + past / 100 + (past + 1) / 400 =
      past / 4 + (past + 1) / 100 + past / 400 + if isLeapYear (past + 1) then 1 else 0 := by
  split
  next leap =>
    rw [isLeapYear_iff] at leap
    omega
  next ordinary =>
    rw [isLeapYear_iff] at ordinary
    omega

theorem daysBeforeYear_succ (year : Nat) (positive : 1 ≤ year) :
    daysBeforeYear (year + 1) = daysBeforeYear year + yearLength year := by
  obtain ⟨past, rfl⟩ : ∃ past, year = past + 1 := ⟨year - 1, by omega⟩
  have surplus := surplus_succ past
  have fewer : past / 100 ≤ past / 4 := by omega
  have fewerNext : (past + 1) / 100 ≤ (past + 1) / 4 := by omega
  simp only [daysBeforeYear, yearLength, Nat.add_sub_cancel]
  -- The quotients are atoms from here on: their relation is `surplus`.
  generalize past / 4 = fourths, past / 100 = hundredths, past / 400 = fourHundredths,
    (past + 1) / 4 = nextFourths, (past + 1) / 100 = nextHundredths,
    (past + 1) / 400 = nextFourHundredths at *
  by_cases leap : isLeapYear (past + 1) = true
  · rw [if_pos leap] at surplus ⊢
    omega
  · rw [if_neg leap] at surplus ⊢
    omega

/-- The days before a year that lies `quartets` times four years and `odd` years behind
the beginning of a century. -/
theorem daysBeforeYear_split (cycles centuries quartets odd : Nat)
    (centuriesLe : centuries ≤ 3) (quartetsLe : quartets ≤ 24) (oddLe : odd ≤ 3) :
    daysBeforeYear (cycles * 400 + centuries * 100 + quartets * 4 + odd + 1) =
      cycles * 146097 + centuries * 36524 + quartets * 1461 + odd * 365 := by
  have fourths : (cycles * 400 + centuries * 100 + quartets * 4 + odd) / 4 =
      cycles * 100 + centuries * 25 + quartets := by omega
  have hundredths : (cycles * 400 + centuries * 100 + quartets * 4 + odd) / 100 =
      cycles * 4 + centuries := by omega
  have fourHundredths : (cycles * 400 + centuries * 100 + quartets * 4 + odd) / 400 =
      cycles := by omega
  simp only [daysBeforeYear, Nat.add_sub_cancel, fourths, hundredths, fourHundredths]
  omega

theorem isLeapYear_split (cycles centuries quartets odd : Nat)
    (centuriesLe : centuries ≤ 3) (quartetsLe : quartets ≤ 24) (oddLe : odd ≤ 3) :
    isLeapYear (cycles * 400 + centuries * 100 + quartets * 4 + odd + 1) = true ↔
      odd = 3 ∧ (quartets < 24 ∨ centuries = 3) := by
  rw [isLeapYear_iff]
  omega

namespace CivilDate

theorem one_le_splitYear (index : Nat) : 1 ≤ (splitYear index).1 := by
  simp only [splitYear]
  omega

/-- The year found and the days left over make up the count. -/
theorem splitYear_exact (index : Nat) :
    daysBeforeYear (splitYear index).1 + (splitYear index).2 = index := by
  simp only [splitYear]
  rw [daysBeforeYear_split _ _ _ _ (by omega) (by omega) (by omega)]
  omega

/-- The days left over fit in the year found. -/
theorem splitYear_bound (index : Nat) : (splitYear index).2 < yearLength (splitYear index).1 := by
  have leap := isLeapYear_split (index / 146097) (min (index % 146097 / 36524) 3)
    ((index % 146097 - min (index % 146097 / 36524) 3 * 36524) / 1461)
    (min ((index % 146097 - min (index % 146097 / 36524) 3 * 36524) % 1461 / 365) 3)
    (by omega) (by omega) (by omega)
  unfold yearLength
  split
  next isLeap =>
    simp only [splitYear]
    omega
  next notLeap =>
    rw [splitYear, leap] at notLeap
    simp only [splitYear]
    omega

end CivilDate

/-! ## Months -/

theorem length_monthLengths (year : Nat) : (monthLengths year).length = 12 :=
  rfl

/-- The count of days of some months in a row. -/
def totalDays (lengths : List Nat) : Nat :=
  lengths.foldr (· + ·) 0

theorem totalDays_nil : totalDays [] = 0 :=
  rfl

theorem totalDays_cons (length : Nat) (others : List Nat) :
    totalDays (length :: others) = length + totalDays others :=
  rfl

theorem totalDays_append (earlier later : List Nat) :
    totalDays (earlier ++ later) = totalDays earlier + totalDays later := by
  induction earlier with
  | nil => exact (Nat.zero_add _).symm
  | cons length others inductionHypothesis =>
      rw [List.cons_append, totalDays_cons, totalDays_cons, inductionHypothesis, Nat.add_assoc]

theorem totalDays_monthLengths (year : Nat) :
    totalDays (monthLengths year) = yearLength year := by
  unfold monthLengths yearLength
  split <;> rfl

theorem daysBeforeMonth_eq_totalDays (year month : Nat) :
    daysBeforeMonth year month = totalDays ((monthLengths year).take (month - 1)) :=
  rfl

theorem monthLength_eq_getElem (year month : Nat) (inside : month < (monthLengths year).length) :
    monthLength year (month + 1) = (monthLengths year)[month] := by
  rw [monthLength, if_neg (Nat.succ_ne_zero month), Nat.add_sub_cancel,
    List.getD_eq_getElem?_getD, List.getElem?_eq_getElem inside, Option.getD_some]

theorem monthLength_bounds (year month : Nat) (inYear : month < 12) :
    28 ≤ monthLength year (month + 1) ∧ monthLength year (month + 1) ≤ 31 := by
  have inside : month < (monthLengths year).length := by
    rw [length_monthLengths]
    exact inYear
  rw [monthLength_eq_getElem year month inside]
  have all : ∀ length ∈ monthLengths year, 28 ≤ length ∧ length ≤ 31 := by
    intro length member
    unfold monthLengths at member
    split at member <;> simp at member <;> omega
  exact all _ (List.getElem_mem _)

/-- The months passed and the days left over make up the count, and the days left over
fit in the month found. -/
theorem CivilDate.splitMonth_exact (lengths : List Nat) (days : Nat)
    (within : days < totalDays lengths) :
    ∃ bound : (splitMonth lengths days).1 < lengths.length,
      (splitMonth lengths days).2 < lengths[(splitMonth lengths days).1] ∧
        totalDays (lengths.take (splitMonth lengths days).1) + (splitMonth lengths days).2 =
          days := by
  induction lengths generalizing days with
  | nil => exact absurd within (Nat.not_lt_zero days)
  | cons length others inductionHypothesis =>
      by_cases first : days < length
      · simp [splitMonth, first, totalDays_nil]
      · have later : days - length < totalDays others := by
          rw [totalDays_cons] at within
          omega
        obtain ⟨bound, fits, total⟩ := inductionHypothesis (days - length) later
        refine ⟨by simpa [splitMonth, first] using bound,
          by simpa [splitMonth, first] using fits, ?_⟩
        simp only [splitMonth, first, ↓reduceIte, List.take_succ_cons, totalDays_cons]
        omega

theorem CivilDate.splitMonth_monthLengths (year days : Nat) (within : days < yearLength year) :
    (splitMonth (monthLengths year) days).1 < 12 ∧
      (splitMonth (monthLengths year) days).2 <
        monthLength year ((splitMonth (monthLengths year) days).1 + 1) ∧
      daysBeforeMonth year ((splitMonth (monthLengths year) days).1 + 1) +
        (splitMonth (monthLengths year) days).2 = days := by
  obtain ⟨bound, fits, total⟩ := splitMonth_exact (monthLengths year) days
    (by rw [totalDays_monthLengths]; exact within)
  refine ⟨bound, ?_, total⟩
  rw [monthLength_eq_getElem _ _ bound]
  exact fits

/-- The count of days before the first day of a month. -/
def firstDayIndex (month : Nat) : Nat :=
  daysBeforeYear (month / 12) + daysBeforeMonth (month / 12) (month % 12 + 1)

theorem firstDayIndex_succ (month : Nat) (inCalendar : 12 ≤ month) :
    firstDayIndex (month + 1) =
      firstDayIndex month + monthLength (month / 12) (month % 12 + 1) := by
  have inYear : month % 12 < 12 := Nat.mod_lt _ (by decide)
  have short : month % 12 < (monthLengths (month / 12)).length := by
    rw [length_monthLengths]
    exact inYear
  have upTo : totalDays ((monthLengths (month / 12)).take (month % 12 + 1)) =
      daysBeforeMonth (month / 12) (month % 12 + 1) +
        monthLength (month / 12) (month % 12 + 1) := by
    rw [monthLength_eq_getElem _ _ short, daysBeforeMonth_eq_totalDays, List.take_add_one,
      List.getElem?_eq_getElem short, totalDays_append]
    rfl
  by_cases last : month % 12 = 11
  · have nextYear : (month + 1) / 12 = month / 12 + 1 := by omega
    have january : (month + 1) % 12 = 0 := by omega
    have whole : (monthLengths (month / 12)).take (month % 12 + 1) = monthLengths (month / 12) := by
      rw [last]
      rfl
    rw [whole, totalDays_monthLengths] at upTo
    rw [firstDayIndex, firstDayIndex, nextYear, january, daysBeforeYear_succ _ (by omega), upTo]
    simp only [daysBeforeMonth_eq_totalDays, Nat.add_sub_cancel, List.take_zero, totalDays_nil]
    omega
  · have sameYear : (month + 1) / 12 = month / 12 := by omega
    have nextMonth : (month + 1) % 12 = month % 12 + 1 := by omega
    rw [firstDayIndex, firstDayIndex, sameYear, nextMonth, daysBeforeMonth_eq_totalDays,
      Nat.add_sub_cancel, upTo]
    omega

theorem firstDayIndex_mono {earlier later : Nat} (inCalendar : 12 ≤ earlier)
    (ordered : earlier ≤ later) : firstDayIndex earlier ≤ firstDayIndex later := by
  induction ordered with
  | refl => exact Nat.le_refl _
  | step ordered inductionHypothesis =>
      rw [firstDayIndex_succ _ (Nat.le_trans inCalendar ordered)]
      omega

/-- A day lies in one month only. -/
theorem month_unique {first second index : Nat} (firstIn : 12 ≤ first) (secondIn : 12 ≤ second)
    (fromFirst : firstDayIndex first ≤ index) (toFirst : index < firstDayIndex (first + 1))
    (fromSecond : firstDayIndex second ≤ index) (toSecond : index < firstDayIndex (second + 1)) :
    first = second := by
  rcases Nat.lt_trichotomy first second with before | same | behind
  · have := firstDayIndex_mono (by omega : 12 ≤ first + 1) before
    omega
  · exact same
  · have := firstDayIndex_mono (by omega : 12 ≤ second + 1) behind
    omega

/-! ## Dates -/

namespace CivilDate

/-- A date that the calendar has. -/
structure IsValid (date : CivilDate) : Prop where
  one_le_year : 1 ≤ date.year
  one_le_month : 1 ≤ date.month
  month_le : date.month ≤ 12
  one_le_day : 1 ≤ date.day
  day_le : date.day ≤ monthLength date.year date.month

/-- The number of the month of a date. -/
def monthNumber (date : CivilDate) : Nat :=
  date.year * 12 + (date.month - 1)

namespace IsValid

variable {date : CivilDate}

theorem monthNumber_div (valid : date.IsValid) : date.monthNumber / 12 = date.year := by
  have := valid.one_le_month
  have := valid.month_le
  simp only [monthNumber]
  omega

theorem monthNumber_mod (valid : date.IsValid) : date.monthNumber % 12 + 1 = date.month := by
  have := valid.one_le_month
  have := valid.month_le
  simp only [monthNumber]
  omega

theorem le_monthNumber (valid : date.IsValid) : 12 ≤ date.monthNumber := by
  have := valid.one_le_year
  simp only [monthNumber]
  omega

/-- A date lies as many days behind the first of its month as its day says. -/
theorem dayIndex_eq (valid : date.IsValid) :
    date.dayIndex = firstDayIndex date.monthNumber + (date.day - 1) := by
  rw [dayIndex, firstDayIndex, valid.monthNumber_div, valid.monthNumber_mod]

theorem dayIndex_lt (valid : date.IsValid) :
    date.dayIndex < firstDayIndex (date.monthNumber + 1) := by
  have := valid.one_le_day
  have := valid.day_le
  rw [firstDayIndex_succ _ valid.le_monthNumber, valid.dayIndex_eq, valid.monthNumber_div,
    valid.monthNumber_mod]
  omega

end IsValid

/-- The date that lies a number of days behind the beginning of a year. -/
private theorem inYear_valid (year days : Nat) (positive : 1 ≤ year)
    (within : days < yearLength year) :
    IsValid ⟨year, (splitMonth (monthLengths year) days).1 + 1,
      (splitMonth (monthLengths year) days).2 + 1⟩ := by
  obtain ⟨bound, fits, -⟩ := splitMonth_monthLengths year days within
  exact {
    one_le_year := positive
    one_le_month := Nat.le_add_left _ _
    month_le := bound
    one_le_day := Nat.le_add_left _ _
    day_le := fits }

private theorem inYear_dayIndex (year days : Nat) (within : days < yearLength year) :
    dayIndex ⟨year, (splitMonth (monthLengths year) days).1 + 1,
      (splitMonth (monthLengths year) days).2 + 1⟩ = daysBeforeYear year + days := by
  obtain ⟨-, -, total⟩ := splitMonth_monthLengths year days within
  simp only [dayIndex, Nat.add_sub_cancel]
  omega

theorem ofDayIndex_valid (index : Nat) : (ofDayIndex index).IsValid :=
  inYear_valid _ _ (one_le_splitYear index) (splitYear_bound index)

/-- The date of a day lies as many days behind the beginning as the day. -/
theorem dayIndex_ofDayIndex (index : Nat) : (ofDayIndex index).dayIndex = index :=
  (inYear_dayIndex _ _ (splitYear_bound index)).trans (splitYear_exact index)

theorem eq_of_dayIndex_eq {left right : CivilDate} (leftValid : left.IsValid)
    (rightValid : right.IsValid) (same : left.dayIndex = right.dayIndex) : left = right := by
  have leftIndex := leftValid.dayIndex_eq
  have rightIndex := rightValid.dayIndex_eq
  have fromLeft : firstDayIndex left.monthNumber ≤ right.dayIndex := by omega
  have fromRight : firstDayIndex right.monthNumber ≤ right.dayIndex := by omega
  have sameMonth : left.monthNumber = right.monthNumber :=
    month_unique leftValid.le_monthNumber rightValid.le_monthNumber
      fromLeft (same ▸ leftValid.dayIndex_lt) fromRight rightValid.dayIndex_lt
  have sameYear : left.year = right.year := by
    rw [← leftValid.monthNumber_div, sameMonth, rightValid.monthNumber_div]
  have sameMonthOfYear : left.month = right.month := by
    rw [← leftValid.monthNumber_mod, sameMonth, rightValid.monthNumber_mod]
  have sameDay : left.day = right.day := by
    have := leftValid.one_le_day
    have := rightValid.one_le_day
    rw [sameMonth] at leftIndex
    omega
  obtain ⟨year, month, day⟩ := left
  simp_all

/-- A valid date is the date of its day. -/
theorem ofDayIndex_dayIndex {date : CivilDate} (valid : date.IsValid) :
    ofDayIndex date.dayIndex = date :=
  eq_of_dayIndex_eq (ofDayIndex_valid _) valid (dayIndex_ofDayIndex _)

end CivilDate

end Rendezvous
