import Rendezvous.Proofs.Phrase.Draft
import Rendezvous.Proofs.Phrase.KindSelector
import Rendezvous.Proofs.Phrase.Overrun

/-!
Contract: the days of "every weekend in december" and of "fridays and saturdays in january".

Owns:
- `Phrase.exists_kind` and `Phrase.month_not_blank`, the pieces that these forms keep;
- `ofText_monthDays`: a description with such a phrase means the days of the month named that have
  a weekday of the kind named, or no days where the recognizer does not know the month.

Letters of the kind are ASCII letters; the months of year 0 and the last month of the calendar
have no such days.
-/

namespace Rendezvous

/-! ## The pieces kept -/

namespace Phrase

open Pattern

variable {phrase : Phrase} {text : Text} {found : Match Part}

theorem admits_kind (namesMonth : phrase.NamesMonth) (isFound : phrase.find? text = some found) :
    everyKind.Admits (found.textOf .kind) ∨
      (listOf dayNames).Admits (found.textOf .kind) := by
  rcases namesMonth with rfl | rfl
  · exact Or.inl (Expr.admits_textOf rfl (by decide) isFound)
  · exact Or.inr (Expr.admits_textOf rfl (by decide) isFound)

/-- What is kept as the kind is one. -/
theorem exists_kind (namesMonth : phrase.NamesMonth) (isFound : phrase.find? text = some found)
    (ascii : (found.textOf .kind).HasAsciiLetters) :
    ∃ kind : DayKind, kind.text = found.textOf .kind := by
  rcases admits_kind namesMonth isFound with ofEvery | ofPlurals
  · exact DayKind.exists_of_admits (Or.inl rfl) ascii ofEvery
  · exact DayKind.exists_of_admits (Or.inr rfl) ascii ofPlurals

theorem admits_month (namesMonth : phrase.NamesMonth) (isFound : phrase.find? text = some found) :
    (Expr.plus (.char Text.isLetterLike) : Expr Part).Admits (found.textOf .month) ∨
      monthWord.Admits (found.textOf .month) := by
  rcases namesMonth with rfl | rfl
  · exact Or.inl (Expr.admits_textOf rfl (by decide) isFound)
  · exact Or.inr (Expr.admits_textOf rfl (by decide) isFound)

theorem not_allBlank_of_word {name : String} (isWord : IsSmallWord name) {piece : Text}
    (admits : (Expr.word name : Expr Part).Admits piece) : piece.isAllBlank = false := by
  have stands := Expr.stands_of_admits_word admits
  obtain ⟨first, others, rfl⟩ := List.exists_cons_of_ne_nil (stands.ne_nil isWord)
  rw [Text.isAllBlank, List.all_cons, stands.not_blank isWord first List.mem_cons_self,
    Bool.false_and]

/-- What is kept as the month is no mere blanks, so the recognizer is asked for it. -/
theorem month_not_blank (namesMonth : phrase.NamesMonth)
    (isFound : phrase.find? text = some found) : (found.textOf .month).isAllBlank = false := by
  rcases admits_month namesMonth isFound with ofLetters | ofNames
  · obtain ⟨front, back, split, admitsFirst, -⟩ := Expr.admits_seq ofLetters
    obtain ⟨c, rfl, isLetter⟩ := Expr.admits_char admitsFirst
    rw [split, ← Bool.not_eq_true]
    intro blank
    have notBlank := Text.isBlank_of_isLetterLike isLetter
    rw [List.all_eq_true.1 blank c List.mem_cons_self] at notBlank
    contradiction
  · have words : ∀ name ∈ ["january", "february", "march", "april", "may", "june", "july",
        "august", "september", "october", "november", "december", "jan", "feb", "mar", "apr", "jun",
        "jul", "aug", "sep", "sept", "oct", "nov", "dec"], IsSmallWord name := by
      decide
    obtain ⟨name, isName, admitsName⟩ := Expr.admits_wordOf ofNames
    exact not_allBlank_of_word (words name isName) admitsName

theorem resolve_month (namesMonth : phrase.NamesMonth) (isFound : phrase.find? text = some found)
    (recognizer : Recognizer) (now : Moment) :
    recognizer.resolve (found.textOf .month) now =
      (recognizer.reading? (found.textOf .month) now).map fun reading => reading.map (·.value) := by
  rw [Recognizer.resolve, if_neg (Bool.eq_false_iff.1 (month_not_blank namesMonth isFound))]
  cases recognizer.reading? (found.textOf .month) now <;> rfl

end Phrase

/-! ## The days of a month -/

namespace Phrase

open Pattern

variable {phrase : Phrase} {text : Text} {found : Match Part} {recognizer : Recognizer}
  {now : Moment}

theorem days_of_namesMonth (namesMonth : phrase.NamesMonth) :
    phrase.days recognizer found now = daysInMonth recognizer found now := by
  rcases namesMonth with rfl | rfl
  · rfl
  · rfl

/-- Where the recognizer knows the month, the days are those of the month with a weekday of the
kind. -/
theorem exists_daysInMonth_of_reading (total : recognizer.IsTotal)
    (namesMonth : phrase.NamesMonth) (isFound : phrase.find? text = some found) {reading : Reading}
    (isReading : recognizer.reading? (found.textOf .month) now = .ok (some reading))
    (positive : 1 ≤ namedYear found now reading.value)
    (notLast : ¬ (namedYear found now reading.value = 9999 ∧ reading.value.day.month = 12)) :
    ∃ days, daysInMonth recognizer found now = .ok days ∧ days.Pairwise (· < ·) ∧
      ∀ day, day ∈ days ↔ (day.year = namedYear found now reading.value ∧
        day.month = reading.value.day.month) ∧
          (selectorOf (found.textOf .kind)).selects day = true := by
  have isResolved := resolve_month namesMonth isFound recognizer now
  rw [isReading, Result.ok_map, Option.map_some] at isResolved
  have either : (recognizer.resolve (found.textOf .month) now = .ok none ∧ _) ∨ _ :=
    namedMonth_cases total namesMonth isFound
  rcases either with ⟨noMonth, -⟩ | ⟨resolved, isMonth, yearLe, named⟩
  · cases noMonth.symm.trans isResolved
  · obtain rfl := Option.some.inj (Except.ok.inj (isResolved.symm.trans isMonth))
    obtain ⟨start, isStart, inMonth⟩ := exists_firstDay _ reading.value.day positive yearLe
    have bounds := reading.value.day.month_bounds
    have early : start.monthIndex < Day.lastMonth := by
      simp only [Day.lastMonth]
      omega
    rw [isStart, Result.ok_map] at named
    obtain ⟨days, areDays, ascending, members⟩ := exists_daysInMonth named early
    refine ⟨days, areDays, ascending, fun day => ?_⟩
    rw [members day, inMonth, day.monthIndex_eq_iff_date bounds.1 bounds.2]

/-- Where the recognizer does not know the month there are no days. -/
theorem daysInMonth_of_unknown (total : recognizer.IsTotal) (namesMonth : phrase.NamesMonth)
    (isFound : phrase.find? text = some found)
    (unknown : recognizer.reading? (found.textOf .month) now = .ok none) :
    daysInMonth recognizer found now = .ok [] := by
  have isResolved := resolve_month namesMonth isFound recognizer now
  rw [unknown, Result.ok_map, Option.map_none] at isResolved
  have either : (recognizer.resolve (found.textOf .month) now = .ok none ∧ _) ∨ _ :=
    namedMonth_cases total namesMonth isFound
  rcases either with ⟨-, unnamed⟩ | ⟨resolved, isMonth, -⟩
  · exact daysInMonth_of_unnamed unnamed
  · cases isResolved.symm.trans isMonth

end Phrase

/-! ## Descriptions -/

/-- A description whose first phrase names a month means no days where the recognizer does not
know the month, and otherwise the days of that month whose weekday is of the kind named, in
ascending order, each once.  There is a kind for every piece that can be kept as one. -/
theorem ofText_monthDays (recognizer : Recognizer) (total : recognizer.IsTotal) (text : Text)
    (now : Moment) (phrase : Phrase) (found : Pattern.Match Part)
    (isFirst : Phrase.first? text = some (phrase, found)) (namesMonth : phrase.NamesMonth)
    (ascii : (found.textOf .kind).HasAsciiLetters) :
    (recognizer.reading? (found.textOf .month) now = .ok none →
      ∃ draft, Draft.ofText recognizer text now = .ok draft ∧ draft.phrase = some phrase ∧
        draft.days = []) ∧
    ∀ reading, recognizer.reading? (found.textOf .month) now = .ok (some reading) →
      1 ≤ Phrase.namedYear found now reading.value →
      ¬ (Phrase.namedYear found now reading.value = 9999 ∧ reading.value.day.month = 12) →
      (∃ kind : DayKind, kind.text = found.textOf .kind) ∧
      ∃ draft, Draft.ofText recognizer text now = .ok draft ∧ draft.phrase = some phrase ∧
        draft.days.Pairwise (· < ·) ∧
        ∀ kind : DayKind, kind.text = found.textOf .kind → ∀ day, day ∈ draft.days ↔
          (day.year = Phrase.namedYear found now reading.value ∧
            day.month = reading.value.day.month) ∧ kind.Selects day.weekday := by
  have isFound := Phrase.find?_of_first? isFirst
  constructor
  · intro unknown
    have areDays := Phrase.daysInMonth_of_unknown total namesMonth isFound unknown
    exact Phrase.exists_ofText total isFirst
      ((Phrase.days_of_namesMonth namesMonth).trans areDays)
  · intro reading isReading positive notLast
    obtain ⟨days, areDays, ascending, members⟩ := Phrase.exists_daysInMonth_of_reading total
      namesMonth isFound isReading positive notLast
    obtain ⟨draft, isDraft, isPhrase, rfl⟩ := Phrase.exists_ofText total isFirst
      ((Phrase.days_of_namesMonth namesMonth).trans areDays)
    refine ⟨Phrase.exists_kind namesMonth isFound ascii, draft, isDraft, isPhrase, ascending, ?_⟩
    intro kind isKind day
    rw [members day, ← isKind, kind.selects_iff day]

/-- "Mondays, and TUESDAYS". -/
def DayKind.mondaysAndTuesdays : DayKind :=
  .list ⟨⟨⟨1, by decide⟩, "Monday".toList, by decide⟩, some (.small isSmallWord_s)⟩
    [{ separator := .commaAnd .none .space (.small isSmallWord_and) .space
       listed := ⟨⟨⟨2, by decide⟩, "TUESDAY".toList, by decide⟩, some ⟨"S".toList, by decide⟩⟩ }]

/-- A recognizer that knows February. -/
def februaryRecognizer : Recognizer :=
  .ofTable {
    mentions := []
    readings := [("February".toList,
      ⟨.midnight ⟨739283, by decide, by decide⟩, true, false⟩)] }

/-- The Mondays and Tuesdays of a leap February. -/
theorem ofText_mondaysAndTuesdays :
    ∃ draft, Draft.ofText februaryRecognizer
        "Yoga Mondays, and TUESDAYS in February 2024".toList
        (.midnight ⟨738890, by decide, by decide⟩) = .ok draft ∧
      draft.days.Pairwise (· < ·) ∧
      ∀ day, day ∈ draft.days ↔ (day.year = 2024 ∧ day.month = 2) ∧
        (day.weekday.val = 1 ∨ day.weekday.val = 2) := by
  have pieces : (Phrase.first? "Yoga Mondays, and TUESDAYS in February 2024".toList).map
      (fun first => (first.1, first.2.textOf .kind, first.2.textOf .month, first.2.text? .year)) =
        some (.pluralDaysInMonth, "Mondays, and TUESDAYS".toList, "February".toList,
          some "2024".toList) := by
    decide +kernel
  obtain ⟨⟨phrase, found⟩, isFirst, same⟩ := Option.map_eq_some_iff.1 pieces
  simp only [Prod.mk.injEq] at same
  obtain ⟨rfl, kind, month, year⟩ := same
  have ascii : Text.HasAsciiLetters "Mondays, and TUESDAYS".toList := by
    decide
  have isReading : februaryRecognizer.reading? "February".toList
      (.midnight ⟨738890, by decide, by decide⟩) =
        .ok (some ⟨.midnight ⟨739283, by decide, by decide⟩, true, false⟩) := by
    decide +kernel
  have isYear : Phrase.namedYear found (.midnight ⟨738890, by decide, by decide⟩)
      (.midnight ⟨739283, by decide, by decide⟩) = 2024 := by
    rw [Phrase.namedYear, year]
    decide
  have isMonth : (Moment.midnight ⟨739283, by decide, by decide⟩).day.month = 2 := by
    decide +kernel
  obtain ⟨-, named⟩ := ofText_monthDays februaryRecognizer (Recognizer.ofTable_isTotal _) _
    (.midnight ⟨738890, by decide, by decide⟩) _ found isFirst (Or.inr rfl) (kind ▸ ascii)
  obtain ⟨-, draft, isDraft, -, ascending, members⟩ := named _ (month ▸ isReading)
    (by rw [isYear]; decide) (by rw [isYear]; decide)
  refine ⟨draft, isDraft, ascending, fun day => ?_⟩
  rw [members DayKind.mondaysAndTuesdays (by rw [kind]; decide) day, isYear, isMonth]
  simp [DayKind.mondaysAndTuesdays, DayKind.Selects, Fin.ext_iff]

end Rendezvous
