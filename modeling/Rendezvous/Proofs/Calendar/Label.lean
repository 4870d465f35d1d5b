import Mathlib.Data.List.Nodup
import Rendezvous.Calendar.Label
import Rendezvous.Proofs.Calendar.Day
import Rendezvous.Proofs.Text.Digits

/-!
Contract: days are told apart by the labels under which they are shown.

Owns:
- the sizes of the parts of a label and `Day.labelWithYear_injective`;
- `Day.prefix_label_iff` and `Day.prefix_labelWithYear_iff`: a label begins with its weekday;
- `Day.label_sinceMonday`: it does not matter whether weekdays are counted from Sunday or Monday.
-/

namespace Rendezvous

theorem Text.ofNat_injective {left right : Nat} (same : ofNat left = ofNat right) :
    left = right := by
  rw [← digitsValue_ofNatPadded 0 left, ofNatPadded, same]
  simpa [ofNatPadded] using digitsValue_ofNatPadded 0 right

/-! ## Weekdays -/

namespace Weekday

theorem length_abbreviation : ∀ weekday : Weekday, weekday.abbreviation.length = 3 := by
  decide

theorem abbreviation_injective : ∀ left right : Weekday,
    left.abbreviation = right.abbreviation → left = right := by
  decide

/-- Short names are of one length, so that a text begins with one of them at most. -/
theorem abbreviation_prefix_iff (left right : Weekday) (rest : Text) :
    left.abbreviation <+: right.abbreviation ++ rest ↔ left = right := by
  constructor
  · intro begins
    have sameLength : left.abbreviation.length = right.abbreviation.length := by
      rw [length_abbreviation, length_abbreviation]
    have within := List.prefix_of_prefix_length_le begins (List.prefix_append _ _) sameLength.le
    exact abbreviation_injective _ _ (within.eq_of_length sameLength)
  · rintro rfl
    exact List.prefix_append _ _

/-- The short names of the weekdays, Monday first. -/
def mondayFirst : List Text :=
  ["Mon".toList, "Tue".toList, "Wed".toList, "Thu".toList, "Fri".toList, "Sat".toList, "Sun".toList]

theorem mondayFirst_getD : ∀ weekday : Weekday,
    mondayFirst.getD ((weekday.val + 6) % 7) [] = weekday.abbreviation := by
  decide

end Weekday

/-! ## Months -/

theorem length_monthAbbreviation : ∀ month : Fin 12, (monthAbbreviation (month + 1)).length = 3 := by
  decide

theorem monthAbbreviation_injective : ∀ left right : Fin 12,
    monthAbbreviation (left + 1) = monthAbbreviation (right + 1) → left = right := by
  decide

/-- The month of a day, counted from 0. -/
theorem Day.exists_month (day : Day) : ∃ month : Fin 12, day.month = month + 1 := by
  have bounds := day.month_bounds
  exact ⟨⟨day.month - 1, by omega⟩, by simp only; omega⟩

/-! ## Days -/

namespace Day

theorem comma_not_mem_ofNat (value : Nat) : ',' ∉ Text.ofNat value := by
  intro member
  have isDigit := Text.isAsciiDigit_of_mem_ofNat member
  contradiction

/-- The parts of a label, from the back. -/
theorem label_eq (day : Day) :
    day.label = day.weekday.abbreviation ++
      (' ' :: (monthAbbreviation day.month ++ ' ' :: Text.ofNat day.dayOfMonth)) := by
  rw [label, List.append_assoc, List.cons_append]

theorem labelWithYear_eq (day : Day) :
    day.labelWithYear = day.weekday.abbreviation ++ (' ' :: (monthAbbreviation day.month ++
      (' ' :: (Text.ofNat day.dayOfMonth ++ ',' :: (' ' :: Text.ofNat day.year))))) := by
  have separator : ", ".toList = [',', ' '] := rfl
  rw [labelWithYear, label_eq, separator, List.append_assoc, List.append_assoc, List.cons_append,
    List.append_assoc, List.cons_append, List.cons_append, List.cons_append, List.nil_append]

theorem prefix_label_iff (day : Day) (weekday : Weekday) :
    weekday.abbreviation <+: day.label ↔ weekday = day.weekday := by
  rw [label_eq]
  exact weekday.abbreviation_prefix_iff _ _

theorem prefix_labelWithYear_iff (day : Day) (weekday : Weekday) :
    weekday.abbreviation <+: day.labelWithYear ↔ weekday = day.weekday := by
  rw [labelWithYear_eq]
  exact weekday.abbreviation_prefix_iff _ _

/-- The days since the last Monday, which the first day of the calendar is. -/
def sinceMonday (day : Day) : Nat :=
  (day.ordinal + 6) % 7

theorem weekday_sinceMonday (day : Day) : day.weekday.val = (day.sinceMonday + 1) % 7 := by
  rw [weekday_val, sinceMonday]
  omega

theorem label_sinceMonday (day : Day) :
    day.label = Weekday.mondayFirst.getD day.sinceMonday [] ++ ' ' :: monthAbbreviation day.month
      ++ ' ' :: Text.ofNat day.dayOfMonth := by
  have sameNumber : day.sinceMonday = (day.weekday.val + 6) % 7 := by
    rw [weekday_val, sinceMonday]
    omega
  rw [sameNumber, Weekday.mondayFirst_getD, label]

theorem labelWithYear_injective {left right : Day}
    (same : left.labelWithYear = right.labelWithYear) : left = right := by
  rw [labelWithYear_eq, labelWithYear_eq] at same
  obtain ⟨leftMonth, isLeftMonth⟩ := left.exists_month
  obtain ⟨rightMonth, isRightMonth⟩ := right.exists_month
  rw [isLeftMonth, isRightMonth] at same
  -- The names have three letters each, and digits stop at the comma.
  have behindWeekday := (List.append_inj same (by simp [Weekday.length_abbreviation])).2
  obtain ⟨sameMonth, behindMonth⟩ := List.append_inj (List.cons.inj behindWeekday).2
    (by rw [length_monthAbbreviation, length_monthAbbreviation])
  obtain ⟨sameDay, -, behindDay⟩ := (List.append_cons_inj_of_notMem (comma_not_mem_ofNat _)
    (by simp [comma_not_mem_ofNat])).1 (List.cons.inj behindMonth).2
  have sameYear := (List.cons.inj behindDay).2
  apply eq_of_civil_eq
  rw [CivilDate.mk.injEq]
  refine ⟨Text.ofNat_injective sameYear, ?_, Text.ofNat_injective sameDay⟩
  have monthsAgree := monthAbbreviation_injective leftMonth rightMonth sameMonth
  rw [← month, ← month, isLeftMonth, isRightMonth, monthsAgree]

theorem nodup_of_ascends {days : List Day} (ascends : days.Pairwise (· < ·)) : days.Nodup := by
  apply ascends.imp
  rintro left right before rfl
  exact absurd before (Nat.lt_irrefl left.ordinal)

theorem nodup_labels_iff (days : List Day) : (days.map labelWithYear).Nodup ↔ days.Nodup :=
  List.nodup_map_iff fun _ _ => labelWithYear_injective

end Day

end Rendezvous
