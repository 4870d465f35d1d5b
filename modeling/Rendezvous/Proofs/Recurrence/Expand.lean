import Rendezvous.Proofs.Calendar.Day
import Rendezvous.Proofs.Result
import Rendezvous.Proofs.Text.FinalSigma
import Rendezvous.Recurrence.Expand

/-!
Contract: the days of a recurring event are the selected ones of the range.

Owns:
- `Selector.selects_iff`, what a selector selects, and `Selector.mem_namedBy` and
  `Selector.mem_ofText`, which weekdays a text mentions;
- `Recurrence.walk_eq` and `Recurrence.walk_to_last`: where a walk from day to day comes to;
- `Recurrence.daysOn_eq_error_iff`, when a range has no list of days;
- `Recurrence.daysBetween_eq`, the days between two bounds.
-/

namespace Rendezvous

namespace Selector

theorem selects_iff (selector : Selector) (day : Day) :
    selector.selects day = true ↔ (day.weekday.val : Int) ∈ selector :=
  List.contains_iff_mem

@[simp]
theorem mem_normalize (number : Int) (selector : Selector) :
    number ∈ selector.normalize ↔ number ∈ selector :=
  mem_ascending _ _ _

theorem normalize_pairwise (selector : Selector) : selector.normalize.Pairwise (· < ·) :=
  ascending_pairwise Function.injective_id selector

theorem mem_namedBy (number : Int) (names : List (Text × Int)) (text : Text) :
    number ∈ namedBy names text ↔
      ∃ name ∈ names, name.2 = number ∧ name.1.occursIn text.lowerInContext = true := by
  rw [namedBy, mem_normalize, List.mem_map]
  constructor
  · rintro ⟨name, member, same⟩
    obtain ⟨isName, occurs⟩ := List.mem_filter.1 member
    exact ⟨name, isName, same, occurs⟩
  · rintro ⟨name, isName, same, occurs⟩
    exact ⟨name, List.mem_filter.2 ⟨isName, occurs⟩, same⟩

/-- A text mentions the weekdays of which some name occurs in it. -/
theorem mem_ofText (number : Int) (text : Text) :
    number ∈ ofText text ↔
      ∃ mention ∈ mentions, mention.2 = number ∧ mention.1.occursIn text.lower = true := by
  have noSigma : ∀ mention ∈ mentions, '\u03c3' ∉ mention.1 ∧ '\u03c2' ∉ mention.1 := by decide
  rw [ofText, mem_namedBy]
  refine exists_congr fun mention => and_congr_right fun isMention => and_congr_right fun _ => ?_
  rw [Text.occursIn_lowerInContext (noSigma mention isMention).1 (noSigma mention isMention).2]

end Selector

namespace Recurrence

/-! ## The walk -/

/-- A step comes to the next day, if the calendar has it. -/
theorem walk_step {selector : Selector} {day next : Day} (isNext : day.shift 1 = .ok next)
    (remaining : Nat) (passed : List Day) :
    walk selector (remaining + 1) day passed =
      walk selector remaining next (if selector.selects day then day :: passed else passed) := by
  rw [walk, isNext, Result.ok_bind]

/-- A walk to a day before the last one gathers the selected days of the range. -/
theorem walk_eq (selector : Selector) {stop : Day} (inside : stop ≠ .last) (day : Day)
    (passed : List Day) :
    walk selector (stop.ordinal + 1 - day.ordinal) day passed =
      .ok (passed.reverse ++ (Day.range day stop).filter selector.selects) := by
  -- On the days that remain; those passed already stay in front of the range.
  induction counts : stop.ordinal + 1 - day.ordinal generalizing day passed with
  | zero =>
      have behind : stop < day := by
        rw [Day.lt_iff]
        omega
      rw [walk, Day.range_of_lt behind, List.filter_nil, List.append_nil]
  | succ remaining inductionHypothesis =>
      have before := Day.ordinal_lt_of_ne_last inside
      obtain ⟨next, isNext, nextIs⟩ := day.exists_shift 1 (by omega) (by omega)
      have ordered : day ≤ stop := by
        rw [Day.le_iff]
        omega
      rw [walk_step isNext, inductionHypothesis next _ (by omega),
        Day.range_cons ordered (by omega : next.ordinal = day.ordinal + 1), List.filter_cons]
      split
      next => rw [List.reverse_cons, List.append_assoc, List.singleton_append]
      next => rfl

/-- A walk to the last day steps beyond it, wherever it begins. -/
theorem walk_to_last (selector : Selector) (day : Day) (passed : List Day) :
    walk selector (lastOrdinal + 1 - day.ordinal) day passed = .error .outOfCalendar := by
  induction counts : lastOrdinal + 1 - day.ordinal generalizing day passed with
  | zero =>
      have within := day.le_last
      omega
  | succ remaining inductionHypothesis =>
      cases outcome : day.shift 1 with
      | ok next =>
          have nextIs := (Day.shift_eq_ok_iff day next 1).1 outcome
          rw [walk_step outcome, inductionHypothesis next _ (by omega)]
      | error fault =>
          obtain ⟨rfl, -⟩ := (Day.shift_eq_error_iff day 1 fault).1 outcome
          rw [walk, outcome, Result.error_bind]

/-! ## The days selected -/

/-- Up to the last day of the calendar no day may be selected; else the selected days are known. -/
theorem daysOn_eq (start stop : Day) (selector : Selector) :
    daysOn start stop selector =
      if selector ≠ [] ∧ stop = .last then .error .outOfCalendar
      else .ok ((Day.range start stop).filter selector.selects) := by
  cases selector with
  | nil =>
      have noDay : (Day.range start stop).filter (Selector.selects []) = [] :=
        List.filter_eq_nil_iff.2 fun _ _ => Bool.false_ne_true
      rw [if_neg fun late => late.1 rfl, noDay]
      rfl
  | cons weekday others =>
      rw [daysOn, if_neg (by simp)]
      by_cases isLast : stop = .last
      · rw [if_pos ⟨List.cons_ne_nil weekday others, isLast⟩, isLast]
        exact walk_to_last _ start []
      · rw [if_neg fun late => isLast late.2]
        exact walk_eq _ isLast start []

theorem eq_filter_of_daysOn {start stop : Day} {selector : Selector} {days : List Day}
    (isDays : daysOn start stop selector = .ok days) :
    days = (Day.range start stop).filter selector.selects := by
  rw [daysOn_eq] at isDays
  split at isDays
  next => contradiction
  next => exact (Except.ok.inj isDays).symm

theorem mem_daysOn {start stop : Day} {selector : Selector} {days : List Day}
    (isDays : daysOn start stop selector = .ok days) (day : Day) :
    day ∈ days ↔ (start ≤ day ∧ day ≤ stop) ∧ selector.selects day = true := by
  rw [eq_filter_of_daysOn isDays, List.mem_filter, Day.mem_range]

theorem daysOn_pairwise {start stop : Day} {selector : Selector} {days : List Day}
    (isDays : daysOn start stop selector = .ok days) : days.Pairwise (· < ·) := by
  rw [eq_filter_of_daysOn isDays]
  exact (Day.range_pairwise start stop).filter _

/-- A range that ends before the last day of the calendar has a list of days. -/
theorem exists_daysOn (start stop : Day) (selector : Selector) (inside : stop ≠ .last) :
    ∃ days, daysOn start stop selector = .ok days := by
  rw [daysOn_eq, if_neg fun late => inside late.2]
  exact ⟨_, rfl⟩

theorem daysOn_eq_error_iff (start stop : Day) (selector : Selector) (fault : Fault) :
    daysOn start stop selector = .error fault ↔
      fault = .outOfCalendar ∧ selector ≠ [] ∧ stop = .last := by
  rw [daysOn_eq]
  split
  next late => simp only [Except.error.injEq, late, and_true, ne_eq, not_false_eq_true, eq_comm]
  next inside => simp only [reduceCtorEq, inside, and_false]

/-- Between two bounds these are the days with a weekday of the selector, in ascending order, each
once.  They are not known where something is selected up to the last day of the calendar. -/
theorem daysBetween_eq (start stop : Bound) (selector : Selector) :
    ∃ days : List Day, days.Pairwise (· < ·) ∧
      (∀ day, day ∈ days ↔
        (start.toDay ≤ day ∧ day ≤ stop.toDay) ∧ (day.weekday.val : Int) ∈ selector) ∧
      daysBetween start stop selector =
        if selector ≠ [] ∧ stop.toDay = .last then .error .outOfCalendar else .ok days := by
  refine ⟨(Day.range start.toDay stop.toDay).filter selector.selects,
    (Day.range_pairwise _ _).filter _, fun day => ?_, daysOn_eq _ _ selector⟩
  rw [List.mem_filter, Day.mem_range, Selector.selects_iff]

end Recurrence

end Rendezvous
