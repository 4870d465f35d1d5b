import Mathlib.Algebra.BigOperators.Group.Finset.Basic
import Mathlib.Data.Fintype.Basic
import Rendezvous.Proofs.Recurrence.Weekend

/-!
Contract: the selected days of whole weeks, counted, and moved by whole weeks.

Owns:
- `countP_weeks`: in a number of weeks each weekday comes as many times;
- `Day.range_shift`: a range that is moved as a whole has the moved days;
- `Selector.weekdays`, the weekdays that a selector names;
- `Recurrence.weeks_exact`.

Days are counted by their numbers, of which the weekday is the remainder by seven.
-/

namespace Rendezvous

/-! ## Weeks of numbers -/

/-- From one week of numbers to the next number on, the one that leaves has the remainder of the
one that enters. -/
theorem countP_week {remainder : Nat} (small : remainder < 7) (start : Nat) :
    (List.range' start 7).countP (fun ordinal => ordinal % 7 = remainder) = 1 := by
  induction start with
  | zero => decide +revert
  | succ start inductionHypothesis =>
      have leaves : List.range' start 8 = start :: List.range' (start + 1) 7 := rfl
      have enters : List.range' start 8 = List.range' start 7 ++ [start + 7] :=
        List.range'_1_concat
      have counted := congrArg (List.countP fun ordinal => ordinal % 7 = remainder)
        (leaves.symm.trans enters)
      rw [List.countP_cons, List.countP_append, List.countP_singleton, Nat.add_mod_right,
        inductionHypothesis] at counted
      omega

theorem countP_weeks {remainder : Nat} (small : remainder < 7) (start weeks : Nat) :
    (List.range' start (7 * weeks)).countP (fun ordinal => ordinal % 7 = remainder) = weeks := by
  induction weeks with
  | zero => rfl
  | succ weeks inductionHypothesis =>
      rw [Nat.mul_succ, ← List.range'_append_1, List.countP_append, inductionHypothesis,
        countP_week small]

/-! ## Ranges of days -/

namespace Day

variable {start stop movedStart movedStop : Day} {days : Int}

theorem length_range (start stop : Day) :
    (range start stop).length = stop.ordinal + 1 - start.ordinal := by
  rw [← List.length_map ordinal, map_ordinal_range, List.length_range']

theorem ordinal_getElem_range {place : Nat} (inRange : place < (range start stop).length) :
    (range start stop)[place].ordinal = start.ordinal + place := by
  have numbers := map_ordinal_range start stop
  rw [← List.getElem_map ordinal (h := by rwa [List.length_map])]
  simp only [numbers, List.getElem_range', Nat.one_mul]

theorem range_shift (startMoves : start.shift days = .ok movedStart)
    (stopMoves : stop.shift days = .ok movedStop) :
    List.Forall₂ (fun day moved => day.shift days = .ok moved)
      (range start stop) (range movedStart movedStop) := by
  rw [shift_eq_ok_iff] at startMoves stopMoves
  rw [List.forall₂_iff_get]
  refine ⟨?_, fun place inRange inMoved => ?_⟩
  · rw [length_range, length_range]
    omega
  · rw [shift_eq_ok_iff, List.get_eq_getElem, List.get_eq_getElem, ordinal_getElem_range,
      ordinal_getElem_range]
    omega

/-- In a number of weeks each weekday comes as many times. -/
theorem count_weekday_range {weeks : Nat} (ends : stop.ordinal + 1 = start.ordinal + 7 * weeks)
    (weekday : Weekday) : ((range start stop).map Day.weekday).count weekday = weeks := by
  have numbers : (fun other : Weekday => other == weekday) ∘ Day.weekday =
      (fun ordinal => decide (ordinal % 7 = weekday.val)) ∘ ordinal := by
    funext day
    rw [Function.comp_apply, Function.comp_apply, Bool.eq_iff_iff, beq_iff_eq, decide_eq_true_eq,
      Fin.ext_iff, weekday_val]
  rw [List.count, List.countP_map, numbers, ← List.countP_map, map_ordinal_range, ends,
    Nat.add_sub_cancel_left]
  exact countP_weeks weekday.isLt _ weeks

end Day

/-! ## Selected days -/

namespace Selector

/-- Whether a selector names a weekday. -/
def names (selector : Selector) (weekday : Weekday) : Bool :=
  selector.contains (weekday.val : Int)

theorem names_iff (selector : Selector) (weekday : Weekday) :
    selector.names weekday = true ↔ (weekday.val : Int) ∈ selector :=
  List.contains_iff_mem

/-- Which days are selected is a matter of their weekdays. -/
theorem selects_eq (selector : Selector) : selector.selects = selector.names ∘ Day.weekday :=
  rfl

/-- The weekdays that a selector names. -/
def weekdays (selector : Selector) : Finset Weekday :=
  {weekday | selector.names weekday = true}

theorem mem_weekdays (selector : Selector) (weekday : Weekday) :
    weekday ∈ selector.weekdays ↔ selector.names weekday = true := by
  simp [weekdays]

end Selector

namespace Recurrence

variable {start stop movedStart movedStop : Day} {days : List Day}

theorem map_weekday_filter (selector : Selector) (days : List Day) :
    (days.filter selector.selects).map Day.weekday =
      (days.map Day.weekday).filter selector.names := by
  rw [List.filter_map, selector.selects_eq]

theorem count_weekday {selector : Selector} {weeks : Nat}
    (areDays : daysOn start stop selector = .ok days)
    (ends : stop.ordinal + 1 = start.ordinal + 7 * weeks) (weekday : Weekday) :
    (days.map Day.weekday).count weekday = if selector.names weekday = true then weeks else 0 := by
  rw [eq_filter_of_daysOn areDays, map_weekday_filter]
  split
  next named => rw [List.count_filter named, Day.count_weekday_range ends]
  next unnamed =>
    exact List.count_eq_zero.2 fun member => unnamed (List.mem_filter.1 member).2

theorem length_daysOn_weeks {selector : Selector} {weeks : Nat}
    (areDays : daysOn start stop selector = .ok days)
    (ends : stop.ordinal + 1 = start.ordinal + 7 * weeks) :
    days.length = weeks * selector.weekdays.card := by
  have named : ∀ weekday ∈ (days.map Day.weekday : Multiset Weekday),
      weekday ∈ selector.weekdays := by
    intro weekday member
    obtain ⟨day, isDay, rfl⟩ := List.mem_map.1 (Multiset.mem_coe.1 member)
    exact (selector.mem_weekdays day.weekday).2 ((mem_daysOn areDays day).1 isDay).2
  have counted := Multiset.sum_count_eq_card named
  rw [Multiset.coe_card, List.length_map] at counted
  rw [← counted, Nat.mul_comm]
  refine Finset.sum_const_nat fun weekday member => ?_
  rw [Multiset.coe_count, count_weekday areDays ends,
    if_pos ((selector.mem_weekdays weekday).1 member)]

theorem selects_shift (selector : Selector) {day moved : Day} {weeks : Int}
    (moves : day.shift (7 * weeks) = .ok moved) :
    selector.selects day = selector.selects moved := by
  rw [Day.shift_eq_ok_iff] at moves
  have sameWeekday : day.weekday = moved.weekday := by
    apply Fin.ext
    rw [Day.weekday_val, Day.weekday_val]
    omega
  rw [selector.selects_eq, Function.comp_apply, Function.comp_apply, sameWeekday]

theorem filter_shift (selector : Selector) {weeks : Int}
    (startMoves : start.shift (7 * weeks) = .ok movedStart)
    (stopMoves : stop.shift (7 * weeks) = .ok movedStop) :
    List.Forall₂ (fun day moved => day.shift (7 * weeks) = .ok moved)
      ((Day.range start stop).filter selector.selects)
      ((Day.range movedStart movedStop).filter selector.selects) := by
  refine List.rel_filter ?_ (Day.range_shift startMoves stopMoves)
  intro day moved moves
  show selector.selects day = true ↔ selector.selects moved = true
  rw [selects_shift selector moves]

/-- A number of weeks that ends before the last day of the calendar has each weekday of the
selector that many times and no other one, whatever its first day is.  Where days are moved by whole
weeks and keep off the last day of the calendar, those selected move along. -/
theorem weeks_exact (selector : Selector) :
    (∀ (start : Day) (weeks : Nat), 1 ≤ weeks → start.ordinal + 7 * weeks ≤ lastOrdinal →
      ∃ stop days, start.shift (7 * weeks - 1) = .ok stop ∧
        daysOn start stop selector = .ok days ∧ days.Pairwise (· < ·) ∧
        (∀ day ∈ days, start ≤ day ∧ day ≤ stop) ∧
        (∀ weekday : Weekday, (days.map Day.weekday).count weekday =
          if (weekday.val : Int) ∈ selector then weeks else 0) ∧
        days.length = weeks * selector.weekdays.card) ∧
    ∀ (start stop : Day) (weeks : Int), start ≤ stop → stop ≠ .last →
      1 ≤ start.ordinal + 7 * weeks → stop.ordinal + 7 * weeks < lastOrdinal →
      ∃ movedStart movedStop days moved, start.shift (7 * weeks) = .ok movedStart ∧
        stop.shift (7 * weeks) = .ok movedStop ∧
        daysOn start stop selector = .ok days ∧
        daysOn movedStart movedStop selector = .ok moved ∧
        List.Forall₂ (fun day later => day.shift (7 * weeks) = .ok later) days moved := by
  constructor
  · intro start weeks someWeek within
    obtain ⟨stop, isStop, stopIs⟩ := start.exists_shift (7 * weeks - 1) (by omega) (by omega)
    have ends : stop.ordinal + 1 = start.ordinal + 7 * weeks := by omega
    obtain ⟨days, areDays⟩ :=
      exists_daysOn start stop selector (Day.ne_last_of_ordinal_lt (by omega))
    refine ⟨stop, days, isStop, areDays, daysOn_pairwise areDays,
      fun day isDay => ((mem_daysOn areDays day).1 isDay).1, fun weekday => ?_,
      length_daysOn_weeks areDays ends⟩
    simp only [count_weekday areDays ends, selector.names_iff]
  · intro start stop weeks ordered notLast fromFirst beforeLast
    rw [Day.le_iff] at ordered
    obtain ⟨movedStart, startMoves, -⟩ :=
      start.exists_shift (7 * weeks) (by omega) (by omega)
    obtain ⟨movedStop, stopMoves, movedIs⟩ :=
      stop.exists_shift (7 * weeks) (by omega) (by omega)
    have movedNotLast : movedStop ≠ .last := Day.ne_last_of_ordinal_lt (by omega)
    refine ⟨movedStart, movedStop, _, _, startMoves, stopMoves, ?_, ?_,
      filter_shift selector startMoves stopMoves⟩
    · rw [daysOn_eq, if_neg fun late => notLast late.2]
    · rw [daysOn_eq, if_neg fun late => movedNotLast late.2]

/-- Two weeks from a Wednesday on have two weekends, also three weeks earlier; a weekday named twice
counts once, and nine is the number of none. -/
theorem weeks_exact_january15 :
    (1 ≤ 2 ∧ Day.january15.ordinal + 7 * 2 ≤ lastOrdinal) ∧
    ∃ stop days movedStart movedStop moved, Day.january15.shift 13 = .ok stop ∧
      daysOn .january15 stop [6, 0, 6, 9] = .ok days ∧
      days.length = 4 ∧ (days.map Day.weekday).count 0 = 2 ∧
      (Day.january15 ≤ stop ∧ stop ≠ .last ∧ 1 ≤ Day.january15.ordinal + 7 * (-3 : Int) ∧
        stop.ordinal + 7 * (-3 : Int) < lastOrdinal) ∧
      daysOn movedStart movedStop [6, 0, 6, 9] = .ok moved ∧
      List.Forall₂ (fun day earlier => day.shift (7 * -3) = .ok earlier) days moved := by
  obtain ⟨counts, moves⟩ := weeks_exact [6, 0, 6, 9]
  obtain ⟨stop, days, isStop, areDays, -, -, ofWeekday, length⟩ :=
    counts .january15 2 (by decide) (by decide)
  have stopIs := (Day.shift_eq_ok_iff _ _ _).1 isStop
  have january : Day.january15.ordinal = 739266 := rfl
  have last : lastOrdinal = 3652059 := rfl
  have ordered : Day.january15 ≤ stop := by
    rw [Day.le_iff]
    omega
  have notLast : stop ≠ .last := Day.ne_last_of_ordinal_lt (by omega)
  have fromFirst : 1 ≤ Day.january15.ordinal + 7 * (-3 : Int) := by omega
  have beforeLast : stop.ordinal + 7 * (-3 : Int) < lastOrdinal := by omega
  obtain ⟨movedStart, movedStop, sameDays, moved, -, -, areSame, areMoved, movesAlong⟩ :=
    moves .january15 stop (-3) ordered notLast fromFirst beforeLast
  obtain rfl := Except.ok.inj (areDays.symm.trans areSame)
  refine ⟨⟨by decide, by decide⟩, stop, days, movedStart, movedStop, moved, isStop, areDays, ?_, ?_,
    ⟨ordered, notLast, fromFirst, beforeLast⟩, areMoved, movesAlong⟩
  · rw [length]
    decide
  · rw [ofWeekday]
    decide

end Recurrence

end Rendezvous
