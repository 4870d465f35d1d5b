import Mathlib.Data.List.Basic
import Rendezvous.Proofs.Recurrence.Expand

/-!
Contract: the weekends from one day to another.

Owns:
- `Recurrence.weekends`, the days of these weekends, which are those that `daysOn` lists;
- `Recurrence.weekends_prefix`: a later end only adds days at the end of the list;
- `Recurrence.length_weekends`, how many there are.

Days are counted by their numbers: Sundays are the multiples of seven, and each follows its
Saturday.
-/

namespace Rendezvous

/-- How many Saturdays and Sundays there are up to a number of days. -/
def weekendsUpTo (ordinal : Nat) : Nat :=
  (ordinal + 1) / 7 + ordinal / 7

/-- Whether the number of a day is that of a Saturday or a Sunday. -/
def isWeekendNumber (ordinal : Nat) : Bool :=
  ordinal % 7 = 6 || ordinal % 7 = 0

theorem countP_isWeekendNumber (start length : Nat) :
    (List.range' (start + 1) length).countP isWeekendNumber + weekendsUpTo start =
      weekendsUpTo (start + length) := by
  induction length generalizing start with
  | zero => rw [List.range'_zero, List.countP_nil, Nat.zero_add, Nat.add_zero]
  | succ length inductionHypothesis =>
      have later := inductionHypothesis (start + 1)
      have next : weekendsUpTo (start + 1) =
          weekendsUpTo start + if isWeekendNumber (start + 1) then 1 else 0 := by
        simp only [weekendsUpTo, isWeekendNumber, Bool.or_eq_true, decide_eq_true_eq]
        split <;> omega
      rw [List.range'_succ, List.countP_cons]
      rw [show start + (length + 1) = start + 1 + length by omega]
      omega

namespace Day

theorem map_ordinal_range (start stop : Day) :
    (range start stop).map ordinal =
      List.range' start.ordinal (stop.ordinal + 1 - start.ordinal) := by
  have itself : ∀ number ∈ List.range' start.ordinal (stop.ordinal + 1 - start.ordinal),
      (ofOrdinal? (number : Int)).map ordinal = some number := by
    intro number inRange
    rw [List.mem_range'_1] at inRange
    have first := start.first_le
    have last := stop.le_last
    obtain ⟨day, isDay⟩ : ∃ day, ofOrdinal? (number : Int) = some day := by
      cases found : ofOrdinal? (number : Int) with
      | some day => exact ⟨day, rfl⟩
      | none =>
          have outside := (ofOrdinal?_eq_none_iff _).1 found
          omega
    have same := (ofOrdinal?_eq_some_iff _ _).1 isDay
    rw [isDay, Option.map_some, Option.some.injEq]
    omega
  rw [range, List.map_filterMap, List.filterMap_congr itself]
  exact List.filterMap_some

theorem range_prefix (start : Day) {stop later : Day} (ordered : stop ≤ later) :
    range start stop <+: range start later := by
  obtain ⟨further, longer⟩ : ∃ further,
      later.ordinal + 1 - start.ordinal = stop.ordinal + 1 - start.ordinal + further := by
    rw [le_iff] at ordered
    exact ⟨later.ordinal + 1 - start.ordinal - (stop.ordinal + 1 - start.ordinal), by omega⟩
  rw [range, range, longer, ← List.range'_append_1]
  exact (List.prefix_append _ _).filterMap _

end Day

namespace Recurrence

/-- The Saturdays and Sundays from one day to another. -/
def weekends (today stop : Day) : List Day :=
  (Day.range today stop).filter Selector.weekend.selects

theorem selects_weekend (day : Day) :
    Selector.weekend.selects day = true ↔ day.weekday = 6 ∨ day.weekday = 0 := by
  rw [Selector.selects_iff, Selector.weekend, List.mem_cons, List.mem_singleton, Fin.ext_iff,
    Fin.ext_iff]
  exact or_congr Int.natCast_inj Int.natCast_inj

theorem mem_weekends (today stop day : Day) :
    day ∈ weekends today stop ↔
      (today ≤ day ∧ day ≤ stop) ∧ (day.weekday = 6 ∨ day.weekday = 0) := by
  rw [weekends, List.mem_filter, Day.mem_range, selects_weekend]

theorem weekends_pairwise (today stop : Day) : (weekends today stop).Pairwise (· < ·) :=
  (Day.range_pairwise today stop).filter _

theorem daysOn_weekend {stop : Day} (today : Day) (inside : stop ≠ .last) :
    daysOn today stop Selector.weekend = .ok (weekends today stop) := by
  rw [daysOn_eq, if_neg fun late => inside late.2]
  rfl

theorem weekends_prefix (today : Day) {stop later : Day} (ordered : stop ≤ later) :
    weekends today stop <+: weekends today later :=
  (Day.range_prefix today ordered).filter _

theorem length_weekends (today stop : Day) (ordered : today ≤ stop) :
    (weekends today stop).length + weekendsUpTo (today.ordinal - 1) =
      weekendsUpTo stop.ordinal := by
  have numbers : Selector.weekend.selects = isWeekendNumber ∘ Day.ordinal := by
    funext day
    rw [Bool.eq_iff_iff, selects_weekend, Function.comp_apply, isWeekendNumber, Bool.or_eq_true,
      decide_eq_true_eq, decide_eq_true_eq, Fin.ext_iff, Fin.ext_iff]
    rfl
  have first := today.first_le
  have counted := countP_isWeekendNumber (today.ordinal - 1) (stop.ordinal + 1 - today.ordinal)
  rw [Day.le_iff] at ordered
  rw [weekends, ← List.countP_eq_length_filter, numbers, ← List.countP_map,
    Day.map_ordinal_range]
  rwa [Nat.sub_add_cancel first, show today.ordinal - 1 + (stop.ordinal + 1 - today.ordinal) =
    stop.ordinal by omega] at counted

/-- In a number of weeks there are as many weekends; a weekend that today belongs to adds a day. -/
theorem length_weekends_of_weeks {today stop : Day} {weeks : Nat}
    (ends : stop.ordinal = today.ordinal + 7 * weeks) :
    (weekends today stop).length =
      2 * weeks + if today.weekday = 6 ∨ today.weekday = 0 then 1 else 0 := by
  have ordered : today ≤ stop := by
    rw [Day.le_iff]
    omega
  have counted := length_weekends today stop ordered
  have first := today.first_le
  rw [ends] at counted
  simp only [weekendsUpTo, Fin.ext_iff, Day.weekday_val] at counted ⊢
  split
  next isWeekend =>
    change today.ordinal % 7 = 6 ∨ today.ordinal % 7 = 0 at isWeekend
    omega
  next isWorkday =>
    change ¬ (today.ordinal % 7 = 6 ∨ today.ordinal % 7 = 0) at isWorkday
    omega

end Recurrence

end Rendezvous
