import Rendezvous.Calendar.Moment

/-!
Contract: times of day are shown on a twelve-hour clock, and moments are in the order of the
time that has passed.

Owns:
- `IsClockText`, the form of such times, and `Clock.display_isClockText`;
- `Moment.elapsed`, the time that has passed at a moment, and `Moment.isBefore_iff`.
-/

namespace Rendezvous

/-- The hours of a twelve-hour clock. -/
def twelveHours : List Text :=
  ["1", "2", "3", "4", "5", "6", "7", "8", "9", "10", "11", "12"].map String.toList

/-- A time such as "7:05 PM". -/
inductive IsClockText : Text → Prop where
  | intro {hour half : Text} {tens ones : Char} (isHour : hour ∈ twelveHours)
      (isTens : tens ∈ "012345".toList) (isOnes : ones ∈ "0123456789".toList)
      (isHalf : half = "AM".toList ∨ half = "PM".toList) :
      IsClockText (hour ++ ':' :: tens :: ones :: ' ' :: half)

namespace Clock

theorem shownHour_mem (hour : Fin 24) :
    Text.ofNat (if hour.val % 12 = 0 then 12 else hour.val % 12) ∈ twelveHours := by
  decide +revert

theorem shownMinute_eq (minute : Fin 60) :
    Text.ofNatPadded 2 minute.val = [Text.digitOf (minute.val / 10), Text.digitOf minute.val] ∧
      Text.digitOf (minute.val / 10) ∈ "012345".toList ∧
      Text.digitOf minute.val ∈ "0123456789".toList := by
  decide +revert

theorem display_isClockText (clock : Clock) : IsClockText clock.display := by
  obtain ⟨minutes, isTens, isOnes⟩ := shownMinute_eq clock.minute
  obtain ⟨half, isHalf, ending⟩ : ∃ half : Text, (half = "AM".toList ∨ half = "PM".toList) ∧
      (if clock.hour.val < 12 then " AM".toList else " PM".toList) = ' ' :: half := by
    split
    next => exact ⟨"AM".toList, Or.inl rfl, rfl⟩
    next => exact ⟨"PM".toList, Or.inr rfl, rfl⟩
  unfold display
  rw [minutes, ending, List.append_assoc]
  exact .intro (shownHour_mem clock.hour) isTens isOnes isHalf

end Clock

/-! ## The order of moments -/

/-- The number of microseconds in a day. -/
def dayLength : Nat := 24 * 60 * 60 * 1000000

theorem Clock.microseconds_lt (clock : Clock) : clock.microseconds < dayLength := by
  have hour := clock.hour.isLt
  have minute := clock.minute.isLt
  have second := clock.second.isLt
  have microsecond := clock.microsecond.isLt
  simp only [microseconds, dayLength]
  omega

namespace Moment

/-- The number of microseconds up to a moment. -/
def elapsed (moment : Moment) : Nat :=
  moment.day.ordinal * dayLength + moment.clock.microseconds

theorem isBefore_iff (left right : Moment) :
    left.isBefore right = true ↔ left.elapsed < right.elapsed := by
  have leftInDay := left.clock.microseconds_lt
  have rightInDay := right.clock.microseconds_lt
  have sameDay : left.day = right.day ↔ left.day.ordinal = right.day.ordinal := by
    cases left.day
    cases right.day
    simp only [Day.mk.injEq]
  simp only [isBefore, Bool.or_eq_true, Bool.and_eq_true, decide_eq_true_eq, beq_iff_eq, sameDay]
  change left.day.ordinal < right.day.ordinal ∨ _ ↔ _
  simp only [elapsed, dayLength] at leftInDay rightInDay ⊢
  omega

end Moment

end Rendezvous
