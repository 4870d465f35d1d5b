import Rendezvous.Calendar.Iso
import Rendezvous.Calendar.Written
import Rendezvous.Proofs.Calendar.Day
import Rendezvous.Proofs.Text.Digits

/-!
Contract: the standard text of a day names it in a document.

Owns: the size and the digits of the parts of a date, and `Day.ofWritten?_iso`.
-/

namespace Rendezvous.Day

theorem exists_four {text : Text} (size : text.length = 4) :
    ∃ first second third fourth, text = [first, second, third, fourth] := by
  match text, size with
  | [first, second, third, fourth], _ => exact ⟨first, second, third, fourth, rfl⟩

theorem exists_two {text : Text} (size : text.length = 2) :
    ∃ first second, text = [first, second] := by
  match text, size with
  | [first, second], _ => exact ⟨first, second, rfl⟩

/-- A date in four, two and two digits with hyphens is read as the day of the date. -/
theorem takeDate?_hyphens {year month dayOfMonth : Text} {day : Day} (yearSize : year.length = 4)
    (monthSize : month.length = 2) (daySize : dayOfMonth.length = 2)
    (yearDigits : ∀ c ∈ year, Numeral.isAsciiDigit c = true)
    (monthDigits : ∀ c ∈ month, Numeral.isAsciiDigit c = true)
    (dayDigits : ∀ c ∈ dayOfMonth, Numeral.isAsciiDigit c = true)
    (isDay : ofCivil (Text.digitsValue year) (Text.digitsValue month)
      (Text.digitsValue dayOfMonth) = .ok day) :
    takeDate? (year ++ '-' :: month ++ '-' :: dayOfMonth) = some (day, []) := by
  have yearAll : year.all Numeral.isAsciiDigit = true := List.all_eq_true.2 yearDigits
  have monthAll : month.all Numeral.isAsciiDigit = true := List.all_eq_true.2 monthDigits
  have dayAll : dayOfMonth.all Numeral.isAsciiDigit = true := List.all_eq_true.2 dayDigits
  -- With all ten characters named, evaluation finds the pieces of the date.
  obtain ⟨y₁, y₂, y₃, y₄, rfl⟩ := exists_four yearSize
  obtain ⟨m₁, m₂, rfl⟩ := exists_two monthSize
  obtain ⟨d₁, d₂, rfl⟩ := exists_two daySize
  simp only [List.all_cons, List.all_nil, Bool.and_true, Bool.and_eq_true]
    at yearAll monthAll dayAll
  simp [takeDate?, yearAll, monthAll, dayAll, isDay]

/-- The parts of a date have at most as many digits as are written. -/
theorem parts_small (day : Day) :
    day.year < powerOfTen 4 ∧ day.month < powerOfTen 2 ∧ day.dayOfMonth < powerOfTen 2 := by
  have years := day.year_bounds
  have months := day.month_bounds
  have days := day.dayOfMonth_le
  change day.year < 10000 ∧ day.month < 100 ∧ day.dayOfMonth < 100
  omega

theorem takeDate?_iso (day : Day) : takeDate? day.iso = some (day, []) := by
  obtain ⟨year, month, dayOfMonth⟩ := day.parts_small
  apply takeDate?_hyphens (Text.length_ofNatPadded (by decide) year)
    (Text.length_ofNatPadded (by decide) month) (Text.length_ofNatPadded (by decide) dayOfMonth)
    (fun c member => Text.isAsciiDigit_of_mem_ofNatPadded member)
    (fun c member => Text.isAsciiDigit_of_mem_ofNatPadded member)
    (fun c member => Text.isAsciiDigit_of_mem_ofNatPadded member)
  rw [Text.digitsValue_ofNatPadded, Text.digitsValue_ofNatPadded, Text.digitsValue_ofNatPadded]
  exact ofCivil_civil day

/-- The standard text of a day names the day. -/
theorem ofWritten?_iso (day : Day) : ofWritten? day.iso = some day := by
  have isDated : ofDated? day.iso = some day := by
    rw [ofDated?, takeDate?_iso]
    rfl
  rw [ofWritten?, isDated]

end Rendezvous.Day
