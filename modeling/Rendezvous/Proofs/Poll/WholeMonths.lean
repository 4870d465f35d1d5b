import Rendezvous.Poll.Preset
import Rendezvous.Proofs.Calendar.Iso
import Rendezvous.Proofs.Recurrence.Expand

/-!
Contract: the lists for whole months have the selected days of these months and no others.

Owns:
- `ListsMonths`, the selected days of months in a row, which determine each other;
- `exists_wholeMonths`: what lists for whole months are made of;
- `ListsMonths.append`: months behind other months add their days at the end;
- `wholeMonths_exact`, with the list for a quarter.

Months are counted through all years: January of year 1 has the number 12.
-/

namespace Rendezvous.Poll

/-- The selected days of as many months in a row as counted, from the month with the number
`first` on, in ascending order. -/
structure ListsMonths (selector : Selector) (first count : Int) (days : List Day) : Prop where
  ascends : days.Pairwise (· < ·)
  mem_iff : ∀ day : Day, day ∈ days ↔
    (first ≤ day.monthIndex ∧ day.monthIndex < first + count) ∧
      (day.weekday.val : Int) ∈ selector

variable {selector : Selector} {first count further : Int} {days others front back : List Day}

theorem ListsMonths.unique (lists : ListsMonths selector first count days)
    (alsoLists : ListsMonths selector first count others) : days = others :=
  Day.ascending_unique lists.ascends alsoLists.ascends fun day =>
    (lists.mem_iff day).trans (alsoLists.mem_iff day).symm

/-- Months in a row are listed one part behind the other. -/
theorem ListsMonths.append (notNegative : 0 ≤ count) (furtherNotNegative : 0 ≤ further)
    (lists : ListsMonths selector first count front)
    (listsFurther : ListsMonths selector (first + count) further back) :
    ListsMonths selector first (count + further) (front ++ back) := by
  refine ⟨?_, fun day => ?_⟩
  · refine List.pairwise_append.2 ⟨lists.ascends, listsFurther.ascends, ?_⟩
    intro earlier isEarlier later isLater
    have inFront := ((lists.mem_iff earlier).1 isEarlier).1.2
    have inBack := ((listsFurther.mem_iff later).1 isLater).1.1
    exact Day.lt_of_monthIndex_lt (by omega)
  · rw [List.mem_append, lists.mem_iff, listsFurther.mem_iff, ← or_and_right]
    refine and_congr_left fun _ => ?_
    omega

/-- The list for months that lie in the calendar, with the month behind them. -/
theorem exists_wholeMonths (selector : Selector) (today : Day) (ahead count : Int)
    (begins : 12 ≤ today.monthIndex + ahead ∧ today.monthIndex + ahead ≤ Day.lastMonth)
    (ends : 12 < today.monthIndex + ahead + count ∧
      today.monthIndex + ahead + count ≤ Day.lastMonth) :
    ∃ days, wholeMonths selector ahead count today = .ok days ∧
      ListsMonths selector (today.monthIndex + ahead) count days := by
  obtain ⟨firstDay, isFirstDay, sameMonth, isFirst⟩ := today.exists_firstOfMonth
  rw [← sameMonth] at begins ends ⊢
  obtain ⟨start, isStart, startMonth, startIsFirst⟩ :=
    Day.exists_addMonths_of_first isFirst ahead begins.1 begins.2
  rw [← startMonth] at ends ⊢
  obtain ⟨next, stop, isNext, isStop, inside, members⟩ :=
    Day.exists_monthsEnd startIsFirst count ends.1 ends.2
  obtain ⟨days, areDays⟩ := Recurrence.exists_daysOn start stop selector inside
  refine ⟨days, ?_, Recurrence.daysOn_pairwise areDays, fun day => ?_⟩
  · rw [wholeMonths, isFirstDay, Result.ok_bind, isStart, Result.ok_bind, isNext, Result.ok_bind,
      isStop, Result.ok_bind, areDays]
  · rw [Recurrence.mem_daysOn areDays, members, Selector.selects_iff]

theorem quarterlyWeekends_eq (today : Day) :
    quarterlyWeekends today = wholeMonths Selector.longWeekend 0 3 today := by
  obtain ⟨firstDay, isFirstDay, -, isFirst⟩ := today.exists_firstOfMonth
  have bounds := firstDay.monthIndex_bounds
  obtain ⟨same, isSame, sameMonth, sameIsFirst⟩ :=
    Day.exists_addMonths_of_first isFirst 0 (by omega) (by omega)
  obtain rfl : same = firstDay :=
    Day.eq_of_monthIndex_eq (by omega) (sameIsFirst.trans isFirst.symm)
  rw [quarterlyWeekends, wholeMonths, isFirstDay, Result.ok_bind, Result.ok_bind, isSame,
    Result.ok_bind]

/-- Where all months counted are those from February of year 1 to December of year 9999, the one
behind the last included, the list has the days of these months on the weekdays given and no
others, in ascending order, by their standard texts too, and whichever day of its month today is.
So months in a row are listed part by part, and the list for a quarter is that of the long weekends
of three months. -/
theorem wholeMonths_exact (today : Day) :
    (∀ (selector : Selector) (ahead : Int) (count : Nat),
      13 ≤ today.monthIndex + ahead → today.monthIndex + ahead + count ≤ Day.lastMonth →
      ∃ days, wholeMonths selector ahead count today = .ok days ∧
        days.Pairwise (· < ·) ∧ (days.map Day.iso).Pairwise (· < ·) ∧
        (∀ day : Day, day ∈ days ↔
          (today.monthIndex + ahead ≤ day.monthIndex ∧
            day.monthIndex < today.monthIndex + ahead + count) ∧
          (day.weekday.val : Int) ∈ selector) ∧
        ∀ other : Day, other.monthIndex = today.monthIndex →
          wholeMonths selector ahead count other = .ok days) ∧
    (∀ (selector : Selector) (ahead : Int) (count further : Nat),
      13 ≤ today.monthIndex + ahead →
      today.monthIndex + ahead + (count + further) ≤ Day.lastMonth →
      ∃ front back, wholeMonths selector ahead count today = .ok front ∧
        wholeMonths selector (ahead + count) further today = .ok back ∧
        wholeMonths selector ahead (count + further) today = .ok (front ++ back)) ∧
    quarterlyWeekends today = wholeMonths [5, 6, 0] 0 3 today := by
  refine ⟨?_, ?_, quarterlyWeekends_eq today⟩
  · intro selector ahead count second last
    obtain ⟨days, areDays, lists⟩ := exists_wholeMonths selector today ahead count
      (by omega) (by omega)
    refine ⟨days, areDays, lists.ascends, Day.isos_pairwise lists.ascends, lists.mem_iff, ?_⟩
    intro other sameMonth
    obtain ⟨otherDays, areOtherDays, otherLists⟩ := exists_wholeMonths selector other ahead
      count (by omega) (by omega)
    rw [sameMonth] at otherLists
    rw [areOtherDays, otherLists.unique lists]
  · intro selector ahead count further second last
    obtain ⟨front, areFront, listsFront⟩ := exists_wholeMonths selector today ahead count
      (by omega) (by omega)
    obtain ⟨back, areBack, listsBack⟩ := exists_wholeMonths selector today (ahead + count)
      further (by omega) (by omega)
    obtain ⟨days, areDays, lists⟩ := exists_wholeMonths selector today ahead
      (count + further) (by omega) (by omega)
    rw [← Int.add_assoc] at listsBack
    have both := listsFront.append (by omega) (by omega) listsBack
    refine ⟨front, back, areFront, areBack, ?_⟩
    rw [areDays, lists.unique both]

/-- 29 February 2024, a Thursday. -/
def leapDay : Day := ⟨738945, by decide, by decide⟩

/-- In January 2025, the month eleven months back is one with a leap day. -/
theorem wholeMonths_exact_leapDay :
    (13 ≤ Day.january15.monthIndex + -11 ∧
      Day.january15.monthIndex + -11 + (1 + 2 : Nat) ≤ Day.lastMonth) ∧
    ∃ front back, wholeMonths [4] (-11) 1 .january15 = .ok front ∧ leapDay ∈ front ∧
      wholeMonths [4] (-11 + 1) 2 .january15 = .ok back ∧
      wholeMonths [4] (-11) 3 .january15 = .ok (front ++ back) := by
  have january : Day.january15.monthIndex = 24300 := by decide +kernel
  have second : 13 ≤ Day.january15.monthIndex + -11 := by
    rw [january]
    decide
  have last : Day.january15.monthIndex + -11 + (1 + 2 : Nat) ≤ Day.lastMonth := by
    rw [january]
    decide
  obtain ⟨each, parts, -⟩ := wholeMonths_exact .january15
  obtain ⟨front, back, areFront, areBack, areBoth⟩ := parts [4] (-11) 1 2 second last
  obtain ⟨days, areDays, -, -, isDay, -⟩ := each [4] (-11) 1 second (by omega)
  obtain rfl := Except.ok.inj (areFront.symm.trans areDays)
  refine ⟨⟨second, last⟩, front, back, areFront, ?_, areBack, areBoth⟩
  rw [isDay, january]
  decide +kernel

end Rendezvous.Poll
