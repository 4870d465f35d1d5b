import Mathlib.Data.Prod.Lex
import Mathlib.Order.Bounds.Basic
import Rendezvous.Proofs.Phrase.MonthDays
import Rendezvous.Proofs.Recurrence.Weekend

/-!
Contract: a month without a year is the next one of its name, the month of today included.

Owns:
- `Day.comingYear`, the year of that month, and `Day.comingYear_isLeast`: no month of the name comes
  between;
- `Reading.IsComing`, the rule of a recognizer that reads the name of a month as its next first day;
- `Phrase.impliedYear_of_isComing`: where that day lies a year ahead of the month of today, the
  year is taken back;
- `Phrase.ofText_comingMonth`: the days of such a phrase.

The recognizer looks at days and a phrase at months.  They differ in the month of today, whose
first day is over but which is not.
-/

namespace Rendezvous

/-! ## The next month of a name -/

namespace Day

/-- The year of the next month with a number, the month of today included. -/
def comingYear (today : Day) (month : Nat) : Nat :=
  if month < today.month then today.year + 1 else today.year

/-- The months with a number that do not come before the month of today, each with its year in
front, which counts first in their order. -/
def comingMonths (today : Day) (month : Nat) : Set (Lex (Nat × Nat)) :=
  {date | (ofLex date).2 = month ∧ toLex (today.year, today.month) ≤ date}

theorem comingYear_isLeast (today : Day) (month : Nat) :
    IsLeast (today.comingMonths month) (toLex (today.comingYear month, month)) := by
  constructor
  · refine ⟨rfl, ?_⟩
    rw [Prod.Lex.toLex_le_toLex, comingYear]
    split <;> omega
  · rintro date ⟨isMonth, notBefore⟩
    rw [Prod.Lex.le_iff] at notBefore ⊢
    simp only [ofLex_toLex] at notBefore ⊢
    rw [comingYear]
    split <;> omega

end Day

/-! ## The rule of a recognizer -/

/-- A reading of a month without a year: the first day of the month, in the earliest year in which
that day is not past. -/
structure Reading.IsComing (reading : Reading) (today : Day) (month : Nat) : Prop where
  inMonth : reading.value.day.month = month
  firstDay : reading.value.day.dayOfMonth = 1
  notPast : today ≤ reading.value.day
  earliest : ∀ other : Day, other.month = month → other.dayOfMonth = 1 → today ≤ other →
    reading.value.day ≤ other

namespace Reading.IsComing

variable {reading : Reading} {today : Day} {month : Nat}

/-- A first day is the next one of its month if that of the year before is past. -/
theorem of_yearBefore {past : Day} (passed : past < today) (notPast : today ≤ reading.value.day)
    (firstDay : reading.value.day.dayOfMonth = 1) (pastFirst : past.dayOfMonth = 1)
    (nextYear : reading.value.day.monthIndex = past.monthIndex + 12) :
    reading.IsComing today past.month := by
  have ofPast := past.month_bounds
  have ofReading := reading.value.day.month_bounds
  simp only [Day.monthIndex] at nextYear
  refine ⟨by omega, firstDay, notPast, ?_⟩
  intro other sameMonth otherFirst ahead
  by_contra before
  have fromPast := Day.monthIndex_mono (Nat.le_trans (Nat.le_of_lt passed) ahead)
  have toReading := Day.monthIndex_mono (Nat.le_of_not_le before)
  simp only [Day.monthIndex] at fromPast toReading
  by_cases inYear : other.year = past.year
  · have same : other = past :=
      Day.eq_of_monthIndex_eq (by simp only [Day.monthIndex]; omega) (otherFirst.trans pastFirst.symm)
    rw [same] at ahead
    exact Nat.not_lt_of_le ahead passed
  · have same : other = reading.value.day :=
      Day.eq_of_monthIndex_eq (by simp only [Day.monthIndex]; omega) (otherFirst.trans firstDay.symm)
    exact before (Nat.le_of_eq (congrArg Day.ordinal same.symm))

/-- The first day of the month in a year in which the month is still ahead is not passed by. -/
theorem year_le (isComing : reading.IsComing today month) (year : Nat) (inCalendar : year ≤ 9999)
    (ahead : today.monthIndex < year * 12 + (month - 1 : Int)) :
    reading.value.day.year ≤ year := by
  have ofCalendar := today.monthIndex_bounds
  have months := reading.value.day.month_bounds
  rw [isComing.inMonth] at months
  have inYear : (year * 12 + (month - 1)) / 12 = year := by omega
  have ofMonth : (year * 12 + (month - 1)) % 12 + 1 = month := by omega
  have length := monthLength_bounds year (month - 1) (by omega)
  rw [Nat.sub_add_cancel months.1] at length
  obtain ⟨first, -, inMonth, firstDay⟩ := Day.exists_ofCivil_monthIndex
    (year * 12 + (month - 1)) 1 (by omega) (by simp only [Day.lastMonth]; omega) (Nat.le_refl 1)
    (by rw [inYear, ofMonth]; omega)
  have notPast : today ≤ first := by
    apply Nat.le_of_lt
    apply Day.lt_of_monthIndex_lt
    omega
  have behind := Day.monthIndex_mono (isComing.earliest first
    (by rw [Day.month_of_monthIndex inMonth, ofMonth]) firstDay notPast)
  have ofReading := reading.value.day.monthIndex_of_year
  omega

end Reading.IsComing

namespace Phrase

open Pattern

variable {recognizer : Recognizer} {now : Moment} {reading : Reading} {month : Nat}

/-- The year that a phrase implies is that of the next month of the name. -/
theorem impliedYear_of_isComing (isComing : reading.IsComing now.day month)
    (notLastYear : now.day.year ≤ 9998) :
    impliedYear now reading.value = now.day.comingYear month := by
  have fromToday := Day.monthIndex_mono isComing.notPast
  have inThisYear := isComing.year_le now.day.year (by omega)
  have inNextYear := isComing.year_le (now.day.year + 1) (by omega)
  have ofToday := now.day.month_bounds
  have ofReading := reading.value.day.month_bounds
  simp only [Day.monthIndex, isComing.inMonth] at fromToday inThisYear inNextYear ofReading
  rw [impliedYear, Day.comingYear, isComing.inMonth]
  rcases Nat.lt_trichotomy month now.day.month with earlier | same | later
  · have nextYear := inNextYear (by omega)
    rw [if_neg (by omega), if_pos earlier]
    omega
  · have nextYear := inNextYear (by omega)
    rw [if_neg (by omega : ¬ month < now.day.month)]
    -- The first day of the month of today is read in the next year, unless it is today.
    by_cases ahead : reading.value.day.year = now.day.year + 1
    · rw [if_pos ⟨same, ahead⟩]
    · rw [if_neg fun moved => ahead moved.2]
      omega
  · have thisYear := inThisYear (by omega)
    rw [if_neg (by omega), if_neg (by omega)]
    omega

/-- The days of a phrase without a year are those of the next month of its name. -/
theorem exists_daysInMonth_of_isComing {phrase : Phrase} {text : Text} {found : Match Part}
    (namesMonth : phrase.NamesMonth) (isFound : phrase.find? text = some found)
    (noYear : found.text? .year = none)
    (isReading : recognizer.reading? (found.textOf .month) now = .ok (some reading))
    (isComing : reading.IsComing now.day month) (notLastYear : now.day.year ≤ 9998) :
    ∃ days, phrase.days recognizer found now = .ok days ∧ days.Pairwise (· < ·) ∧
      ∀ day, day ∈ days ↔ (day.year = now.day.comingYear month ∧ day.month = month) ∧
        (selectorOf (found.textOf .kind)).selects day = true := by
  have isMonth := resolve_month namesMonth isFound recognizer now
  rw [isReading, Result.ok_map, Option.map_some] at isMonth
  have named := namedMonth_of_unwritten noYear isMonth
  have years := now.day.year_bounds
  have ofToday := now.day.month_bounds
  have ofReading := reading.value.day.month_bounds
  have coming : 1 ≤ now.day.comingYear month ∧
      (now.day.comingYear month ≤ 9998 ∨ now.day.comingYear month ≤ 9999 ∧ month < 12) := by
    rw [Day.comingYear]
    split <;> omega
  obtain ⟨start, isStart, inMonth⟩ := exists_firstDay (now.day.comingYear month)
    reading.value.day coming.1 (by omega)
  rw [impliedYear_of_isComing isComing notLastYear, isStart, Result.ok_map] at named
  have early : start.monthIndex < Day.lastMonth := by
    rw [isComing.inMonth] at inMonth ofReading
    simp only [Day.lastMonth]
    omega
  obtain ⟨days, areDays, ascending, members⟩ := exists_daysInMonth named early
  refine ⟨days, (days_of_namesMonth namesMonth).trans areDays, ascending, fun day => ?_⟩
  rw [members day, inMonth, day.monthIndex_eq_iff_date ofReading.1 ofReading.2, isComing.inMonth]

end Phrase

/-! ## Descriptions -/

/-- A description whose first phrase names a month without a year means the days of the next month
of that name, the month of today included; only the times behind the phrase can be missing. -/
theorem Phrase.ofText_comingMonth (recognizer : Recognizer) (text : Text) (now : Moment)
    (phrase : Phrase) (found : Pattern.Match Part) (reading : Reading) (month : Nat)
    (isFirst : Phrase.first? text = some (phrase, found)) (namesMonth : phrase.NamesMonth)
    (noYear : found.text? .year = none)
    (isReading : recognizer.reading? (found.textOf .month) now = .ok (some reading))
    (isComing : reading.IsComing now.day month) (notLastYear : now.day.year ≤ 9998) :
    IsLeast (now.day.comingMonths month) (toLex (now.day.comingYear month, month)) ∧
    ∃ days, days.Pairwise (· < ·) ∧
      (∀ day, day ∈ days ↔ (day.year = now.day.comingYear month ∧ day.month = month) ∧
        (Phrase.selectorOf (found.textOf .kind)).selects day = true) ∧
      Draft.ofText recognizer text now =
        (recognizer.extract (text.drop found.stop) now).map fun mentions =>
          ⟨some phrase, days, Mention.times mentions, Title.before? text found.start⟩ := by
  refine ⟨now.day.comingYear_isLeast month, ?_⟩
  obtain ⟨days, areDays, ascending, members⟩ := Phrase.exists_daysInMonth_of_isComing namesMonth
    (Phrase.find?_of_first? isFirst) noYear isReading isComing notLastYear
  exact ⟨days, ascending, members, Phrase.ofText_of_days isFirst areDays⟩

/-- A recognizer that knows January, in the middle of one, as the next. -/
def januaryRecognizer : Recognizer :=
  .ofTable {
    mentions := []
    readings := [("January".toList,
      ⟨.midnight ⟨739617, by decide, by decide⟩, true, false⟩)] }

/-- In the middle of January its weekends are those of this year. -/
theorem Phrase.ofText_weekendsInJanuary :
    ∃ draft, Draft.ofText januaryRecognizer "Boys Night every weekend in January".toList
        (.midnight Day.january15) = .ok draft ∧
      draft.days.Pairwise (· < ·) ∧
      ∀ day, day ∈ draft.days ↔ (day.year = 2025 ∧ day.month = 1) ∧
        (day.weekday = 6 ∨ day.weekday = 0) := by
  have pieces : (Phrase.first? "Boys Night every weekend in January".toList).map
      (fun first => (first.1, first.2.textOf .kind, first.2.textOf .month, first.2.text? .year)) =
        some (.everyInMonth, "weekend".toList, "January".toList, none) := by
    decide +kernel
  obtain ⟨⟨phrase, found⟩, isFirst, same⟩ := Option.map_eq_some_iff.1 pieces
  simp only [Prod.mk.injEq] at same
  obtain ⟨rfl, kind, month, noYear⟩ := same
  have isReading : januaryRecognizer.reading? "January".toList (.midnight Day.january15) =
      .ok (some ⟨.midnight ⟨739617, by decide, by decide⟩, true, false⟩) := by
    decide +kernel
  have isComing : Reading.IsComing ⟨.midnight ⟨739617, by decide, by decide⟩, true, false⟩
      Day.january15 (Day.month ⟨739252, by decide, by decide⟩) := by
    apply Reading.IsComing.of_yearBefore <;> decide +kernel
  have isMonth : Day.month ⟨739252, by decide, by decide⟩ = 1 := by
    decide +kernel
  rw [isMonth] at isComing
  obtain ⟨-, days, ascending, members, isDraft⟩ := Phrase.ofText_comingMonth januaryRecognizer _
    (.midnight Day.january15) _ found _ 1 isFirst (Or.inl rfl) noYear (month ▸ isReading)
    isComing (by decide +kernel)
  have thisYear : Day.january15.comingYear 1 = 2025 := by
    decide +kernel
  obtain ⟨mentions, areMentions⟩ := (Recognizer.ofTable_isTotal _).exists_extract
    (List.drop found.stop "Boys Night every weekend in January".toList) (.midnight Day.january15)
  rw [show januaryRecognizer.extract _ _ = .ok mentions from areMentions] at isDraft
  refine ⟨_, isDraft, ascending, fun day => ?_⟩
  have isWeekend : Phrase.selectorOf "weekend".toList = Selector.weekend := by
    decide
  rw [members day, kind, isWeekend, Recurrence.selects_weekend,
    show (Moment.midnight Day.january15).day = Day.january15 from rfl, thisYear]

end Rendezvous
