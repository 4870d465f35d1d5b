import Mathlib.Order.Bounds.Defs
import Rendezvous.Poll.Preset
import Rendezvous.Proofs.Recurrence.Weekend

/-!
Contract: the lists for the coming weekends have whole weekends, one week behind the other.

Owns:
- `comingDays`, the days on or after today with a weekday; `seek` and `onOrAfter` both come to
  the first of them;
- `weekendNumbers`, the numbers of the days of weekends in a row;
- `takeGroups_append`: groups of days are listed up to the day that begins one group too many;
- `nextWeekends_exact`, with the list for this weekend.

The range searched ends with the first day of the weekend after the last one listed, which the
counting of groups drops again.
-/

namespace Rendezvous

/-! ## Days by their numbers -/

/-- The last day of a range follows the others. -/
theorem Day.exists_range_concat {start stop : Day} (ordered : start ≤ stop) :
    ∃ front, Day.range start stop = front ++ [stop] ∧
      front.map Day.ordinal = List.range' start.ordinal (stop.ordinal - start.ordinal) := by
  rw [Day.le_iff] at ordered
  have numbers := Day.map_ordinal_range start stop
  rw [show stop.ordinal + 1 - start.ordinal = stop.ordinal - start.ordinal + 1 by omega,
    ← List.range'_append_1, Nat.add_sub_cancel' ordered, List.map_eq_append_iff] at numbers
  obtain ⟨front, back, split, areFront, isBack⟩ := numbers
  obtain ⟨day, rfl, isStop⟩ := List.map_eq_singleton_iff.1 isBack
  obtain rfl := Day.eq_of_ordinal_eq isStop
  exact ⟨front, split, areFront⟩

theorem Day.eq_of_map_ordinal_eq {days others : List Day}
    (same : days.map Day.ordinal = others.map Day.ordinal) : days = others :=
  List.map_injective_iff.2 (fun _ _ => Day.eq_of_ordinal_eq) same

namespace Poll

/-! ## The first day of a weekend -/

/-- The days on or after `today` with a weekday. -/
def comingDays (weekday : Weekday) (today : Day) : Set Day :=
  {day | today ≤ day ∧ day.weekday = weekday}

section Start

variable {weekday : Weekday} {today start : Day}

/-- The first of the coming days can be reckoned from the weekday of today. -/
theorem isLeast_of_ordinal_eq
    (reckoned : start.ordinal = today.ordinal + (weekday.val + 7 - today.weekday.val) % 7) :
    IsLeast (comingDays weekday today) start := by
  have below := weekday.isLt
  rw [Day.weekday_val] at reckoned
  refine ⟨⟨?_, Fin.ext ?_⟩, ?_⟩
  · rw [Day.le_iff]
    omega
  · rw [Day.weekday_val]
    omega
  · rintro day ⟨notBefore, sameWeekday⟩
    have isWeekday : day.ordinal % 7 = weekday.val := congrArg Fin.val sameWeekday
    rw [Day.le_iff] at notBefore ⊢
    omega

theorem ordinal_eq_of_isLeast (isFirst : IsLeast (comingDays weekday today) start) :
    start.ordinal = today.ordinal + (weekday.val + 7 - today.weekday.val) % 7 := by
  obtain ⟨⟨notBefore, sameWeekday⟩, least⟩ := isFirst
  have isWeekday : start.ordinal % 7 = weekday.val := congrArg Fin.val sameWeekday
  have firstDay := today.first_le
  have lastDay := start.le_last
  have reaches : today.ordinal + (weekday.val + 7 - today.weekday.val) % 7 ≤ start.ordinal := by
    have below := weekday.isLt
    rw [Day.le_iff] at notBefore
    rw [Day.weekday_val]
    omega
  -- The day reckoned is in the calendar, so it is one of the coming days itself.
  let reckoned : Day :=
    ⟨today.ordinal + (weekday.val + 7 - today.weekday.val) % 7, by omega, by omega⟩
  have isComing : reckoned ∈ comingDays weekday today := (isLeast_of_ordinal_eq rfl).1
  exact Nat.le_antisymm (least isComing) reaches

/-- All weekdays come within a week. -/
theorem exists_isLeast (weekday : Weekday) (inside : today.ordinal + 6 ≤ lastOrdinal) :
    ∃ start, IsLeast (comingDays weekday today) start :=
  have firstDay := today.first_le
  ⟨⟨today.ordinal + (weekday.val + 7 - today.weekday.val) % 7, by omega, by omega⟩,
    isLeast_of_ordinal_eq rfl⟩

theorem onOrAfter_of_isLeast (isFirst : IsLeast (comingDays weekday today) start) :
    onOrAfter weekday today = .ok start := by
  rw [onOrAfter, Day.shift_eq_ok_iff, ordinal_eq_of_isLeast isFirst, Int.natCast_add]

/-- The search passes no day with the weekday by. -/
theorem seek_of_isLeast (isFirst : IsLeast (comingDays weekday today) start) :
    seek weekday (lastOrdinal + 1 - today.ordinal) today = .ok start := by
  -- On the days that remain: the first of the coming days stays the same from day to day.
  induction counts : lastOrdinal + 1 - today.ordinal generalizing today with
  | zero =>
      have within := today.le_last
      omega
  | succ remaining inductionHypothesis =>
      obtain ⟨⟨notBefore, sameWeekday⟩, least⟩ := isFirst
      have lastDay := start.le_last
      rw [seek]
      by_cases found : today.weekday = weekday
      · rw [if_pos found, Day.eq_of_ordinal_eq
          (Nat.le_antisymm notBefore (least ⟨Nat.le_refl _, found⟩))]
      · have behind : today.ordinal ≠ start.ordinal := by
          intro same
          rw [Day.eq_of_ordinal_eq same] at found
          exact found sameWeekday
        rw [Day.le_iff] at notBefore
        obtain ⟨next, isNext, nextIs⟩ := today.exists_shift 1 (by omega) (by omega)
        have staysFirst : IsLeast (comingDays weekday next) start := by
          refine ⟨⟨?_, sameWeekday⟩, ?_⟩
          · rw [Day.le_iff]
            omega
          · rintro day ⟨afterNext, isWeekday⟩
            refine least ⟨?_, isWeekday⟩
            rw [Day.le_iff] at afterNext ⊢
            omega
        rw [if_neg found, isNext, Result.ok_bind, inductionHypothesis staysFirst (by omega)]

end Start

/-! ## The days of weekends -/

/-- How many days a weekend has, with or without its Friday. -/
def weekendLength (withFriday : Bool) : Nat :=
  if withFriday then 3 else 2

theorem weekendLength_le (withFriday : Bool) : weekendLength withFriday ≤ 7 := by
  cases withFriday <;> decide

/-- The last day of a weekend is a Sunday. -/
theorem weekendStart_add_weekendLength (withFriday : Bool) :
    (weekendStart withFriday).val + weekendLength withFriday = 8 := by
  cases withFriday <;> rfl

/-- The numbers of the days of `count` weekends in a row, the first of them beginning on the day
with the number `start`. -/
def weekendNumbers (withFriday : Bool) (start count : Nat) : List Nat :=
  (List.range count).flatMap fun week => List.range' (start + 7 * week) (weekendLength withFriday)

/-- Whether the number of a day is that of a weekend day; a weekend ends on a multiple of seven. -/
def isWeekendDay (withFriday : Bool) (ordinal : Nat) : Bool :=
  (ordinal + weekendLength withFriday - 1) % 7 < weekendLength withFriday

theorem selects_weekendSelector (withFriday : Bool) :
    (weekendSelector withFriday).selects = isWeekendDay withFriday ∘ Day.ordinal := by
  funext day
  rw [Bool.eq_iff_iff, Selector.selects_iff, Function.comp_apply, isWeekendDay, decide_eq_true_eq]
  cases withFriday with
  | true =>
      simp only [weekendSelector, weekendLength, if_true, Selector.longWeekend, List.mem_cons,
        List.not_mem_nil, or_false, Day.weekday_val]
      omega
  | false =>
      simp only [weekendSelector, weekendLength, Bool.false_eq_true, if_false, Selector.weekend,
        List.mem_cons, List.not_mem_nil, or_false, Day.weekday_val]
      omega

theorem length_weekendNumbers (withFriday : Bool) (start count : Nat) :
    (weekendNumbers withFriday start count).length = weekendLength withFriday * count := by
  simp [weekendNumbers, Nat.mul_comm]

theorem weekendNumbers_one (withFriday : Bool) (start : Nat) :
    weekendNumbers withFriday start 1 = List.range' start (weekendLength withFriday) :=
  List.append_nil _

theorem weekendNumbers_add (withFriday : Bool) (start count further : Nat) :
    weekendNumbers withFriday start (count + further) =
      weekendNumbers withFriday start count ++
        weekendNumbers withFriday (start + 7 * count) further := by
  rw [weekendNumbers, List.range_add, List.flatMap_append, List.flatMap_map]
  simp only [Nat.mul_add, ← Nat.add_assoc]
  rfl

section Numbers

variable {withFriday : Bool} {start : Nat}

theorem filter_weekend (begins : start % 7 = (weekendStart withFriday).val) :
    (List.range' start (weekendLength withFriday)).filter (isWeekendDay withFriday) =
      List.range' start (weekendLength withFriday) := by
  have ends := weekendStart_add_weekendLength withFriday
  refine List.filter_eq_self.2 fun ordinal inRange => ?_
  rw [List.mem_range'_1] at inRange
  rw [isWeekendDay, decide_eq_true_eq]
  omega

/-- The week that a weekend begins has no other weekend day. -/
theorem filter_week (begins : start % 7 = (weekendStart withFriday).val) :
    (List.range' start 7).filter (isWeekendDay withFriday) =
      List.range' start (weekendLength withFriday) := by
  have ends := weekendStart_add_weekendLength withFriday
  have within := weekendLength_le withFriday
  have outside : (List.range' (start + weekendLength withFriday)
      (7 - weekendLength withFriday)).filter (isWeekendDay withFriday) = [] := by
    refine List.filter_eq_nil_iff.2 fun ordinal inRange => ?_
    rw [List.mem_range'_1] at inRange
    rw [isWeekendDay, decide_eq_true_eq]
    omega
  rw [← Nat.add_sub_cancel' within, ← List.range'_append_1, List.filter_append,
    filter_weekend begins, outside, List.append_nil]

theorem filter_weeks (begins : start % 7 = (weekendStart withFriday).val) (count : Nat) :
    (List.range' start (7 * count)).filter (isWeekendDay withFriday) =
      weekendNumbers withFriday start count := by
  induction count with
  | zero => rfl
  | succ count inductionHypothesis =>
      have laterBegins : (start + 7 * count) % 7 = (weekendStart withFriday).val := by omega
      rw [Nat.mul_succ, ← List.range'_append_1, List.filter_append, inductionHypothesis,
        filter_week laterBegins, weekendNumbers_add, weekendNumbers_one]

theorem countP_weekend (begins : start % 7 = (weekendStart withFriday).val) :
    (List.range' start (weekendLength withFriday)).countP
      (fun ordinal => ordinal % 7 = (weekendStart withFriday).val) = 1 := by
  have within := weekendLength_le withFriday
  obtain ⟨others, longer⟩ : ∃ others, weekendLength withFriday = others + 1 :=
    Nat.exists_eq_add_one_of_ne_zero (by cases withFriday <;> decide)
  have noOther : (List.range' (start + 1) others).countP
      (fun ordinal => ordinal % 7 = (weekendStart withFriday).val) = 0 := by
    refine List.countP_eq_zero.2 fun ordinal inRange => ?_
    rw [List.mem_range'_1] at inRange
    rw [decide_eq_true_eq]
    omega
  rw [longer, List.range'_succ, List.countP_cons, noOther, if_pos (decide_eq_true begins)]

theorem countP_weekendNumbers (begins : start % 7 = (weekendStart withFriday).val)
    (count : Nat) :
    (weekendNumbers withFriday start count).countP
      (fun ordinal => ordinal % 7 = (weekendStart withFriday).val) = count := by
  induction count with
  | zero => rfl
  | succ count inductionHypothesis =>
      have laterBegins : (start + 7 * count) % 7 = (weekendStart withFriday).val := by omega
      rw [weekendNumbers_add, List.countP_append, inductionHypothesis, weekendNumbers_one,
        countP_weekend laterBegins]

end Numbers

/-! ## The lists -/

/-- As many groups are taken as counted if the day behind them begins another one. -/
theorem takeGroups_append {weekday : Weekday} {next : Day} (begins : next.weekday = weekday)
    (days rest : List Day) :
    takeGroups weekday (days.countP fun day => day.weekday = weekday) (days ++ next :: rest) =
      days := by
  induction days with
  | nil => rw [List.nil_append, List.countP_nil, takeGroups, if_pos begins, if_pos (by decide)]
  | cons day days inductionHypothesis =>
      rw [List.cons_append, takeGroups]
      by_cases isStart : day.weekday = weekday
      · rw [if_pos isStart, List.countP_cons, if_pos (decide_eq_true isStart), if_neg (by omega),
          Int.natCast_succ, Int.add_sub_cancel, inductionHypothesis]
      · rw [if_neg isStart, List.countP_cons, if_neg (by simpa using isStart), Nat.add_zero,
          inductionHypothesis]

theorem map_ordinal_filter (withFriday : Bool) (days : List Day) :
    (days.filter (weekendSelector withFriday).selects).map Day.ordinal =
      (days.map Day.ordinal).filter (isWeekendDay withFriday) := by
  rw [selects_weekendSelector, List.filter_map]

section Lists

variable {withFriday : Bool} {today start : Day}

/-- Each weekend has one first day. -/
theorem countP_weekendStart (begins : start.weekday = weekendStart withFriday) {count : Nat}
    {days : List Day}
    (numbers : days.map Day.ordinal = weekendNumbers withFriday start.ordinal count) :
    (days.countP fun day => day.weekday = weekendStart withFriday) = count := by
  have counted := countP_weekendNumbers (congrArg Fin.val begins) count
  rw [← numbers, List.countP_map] at counted
  rw [← counted]
  refine List.countP_congr fun day _ => ?_
  rw [Function.comp_apply, decide_eq_true_eq, decide_eq_true_eq, Fin.ext_iff, Day.weekday_val]

/-- From the beginning of one weekend to that of another, a number of weeks later. -/
theorem exists_daysOn_weeks {stop : Day} (begins : start.weekday = weekendStart withFriday)
    (count : Nat) (ends : stop.ordinal = start.ordinal + 7 * count) (inside : stop ≠ .last) :
    ∃ days, Recurrence.daysOn start stop (weekendSelector withFriday) = .ok (days ++ [stop]) ∧
      days.map Day.ordinal = weekendNumbers withFriday start.ordinal count := by
  have isStart : start.ordinal % 7 = (weekendStart withFriday).val := congrArg Fin.val begins
  have stopSelected : (weekendSelector withFriday).selects stop = true := by
    have length := weekendStart_add_weekendLength withFriday
    rw [selects_weekendSelector, Function.comp_apply, isWeekendDay, decide_eq_true_eq]
    omega
  obtain ⟨front, isRange, areFront⟩ := Day.exists_range_concat (by
    rw [Day.le_iff, ends]
    exact Nat.le_add_right _ _ : start ≤ stop)
  refine ⟨front.filter (weekendSelector withFriday).selects, ?_, ?_⟩
  · rw [Recurrence.daysOn_eq, if_neg fun late => inside late.2, isRange, List.filter_append,
      List.filter_cons_of_pos stopSelected, List.filter_nil]
  · rw [map_ordinal_filter, areFront, ends, Nat.add_sub_cancel_left, filter_weeks isStart]

theorem exists_nextWeekends
    (isFirst : IsLeast (comingDays (weekendStart withFriday) today) start) (count : Nat)
    (inside : start.ordinal + 7 * count < lastOrdinal) :
    ∃ days, nextWeekends count withFriday today = .ok days ∧
      days.map Day.ordinal = weekendNumbers withFriday start.ordinal count := by
  have begins : start.weekday = weekendStart withFriday := isFirst.1.2
  have firstDay := start.first_le
  obtain ⟨stop, isStop, stopIs⟩ := start.exists_shift (count * 7) (by omega) (by omega)
  have stopBegins : stop.weekday = weekendStart withFriday := by
    rw [← begins, Fin.ext_iff, Day.weekday_val, Day.weekday_val]
    omega
  have notLast : stop ≠ .last := Day.ne_last_of_ordinal_lt (by omega)
  obtain ⟨days, areDays, numbers⟩ := exists_daysOn_weeks begins count (by omega) notLast
  refine ⟨days, ?_, numbers⟩
  rw [nextWeekends, seek_of_isLeast isFirst, Result.ok_bind, isStop, Result.ok_bind, areDays,
    Result.ok_bind, Result.pure_eq_ok, ← countP_weekendStart begins numbers,
    takeGroups_append stopBegins]

theorem nextWeekends_of_neg
    (isFirst : IsLeast (comingDays (weekendStart withFriday) today) start) {count : Int}
    (negative : count < 0) (inside : 1 ≤ start.ordinal + 7 * count) :
    nextWeekends count withFriday today = .ok [] := by
  have lastDay := start.le_last
  obtain ⟨stop, isStop, stopIs⟩ := start.exists_shift (count * 7) (by omega) (by omega)
  have behind : stop < start := by
    rw [Day.lt_iff]
    omega
  have notLast : stop ≠ .last := Day.ne_last_of_ordinal_lt (Nat.lt_of_lt_of_le behind lastDay)
  rw [nextWeekends, seek_of_isLeast isFirst, Result.ok_bind, isStop, Result.ok_bind,
    Recurrence.daysOn_eq, if_neg fun late => notLast late.2, Day.range_of_lt behind,
    List.filter_nil, Result.ok_bind, takeGroups, Result.pure_eq_ok]

/-- This weekend is the first one of those to come. -/
theorem exists_thisWeekend
    (isFirst : IsLeast (comingDays (weekendStart withFriday) today) start)
    (inside : start.ordinal + weekendLength withFriday ≤ lastOrdinal) :
    ∃ days, thisWeekend withFriday today = .ok days ∧
      days.map Day.ordinal = weekendNumbers withFriday start.ordinal 1 := by
  have isStart : start.ordinal % 7 = (weekendStart withFriday).val := congrArg Fin.val isFirst.1.2
  have length := weekendStart_add_weekendLength withFriday
  have within := weekendLength_le withFriday
  have below := (weekendStart withFriday).isLt
  have firstDay := start.first_le
  obtain ⟨sunday, -, sundayIs⟩ :=
    start.exists_shift (weekendLength withFriday - 1 : Nat) (by omega) (by omega)
  have isSunday : IsLeast (comingDays 0 start) sunday := by
    apply isLeast_of_ordinal_eq
    change sunday.ordinal = start.ordinal + (0 + 7 - start.ordinal % 7) % 7
    omega
  have notLast : sunday ≠ .last := Day.ne_last_of_ordinal_lt (by omega)
  refine ⟨(Day.range start sunday).filter (weekendSelector withFriday).selects, ?_, ?_⟩
  · rw [thisWeekend, onOrAfter_of_isLeast isFirst, Result.ok_bind, onOrAfter_of_isLeast isSunday,
      Result.ok_bind, Recurrence.daysOn_eq, if_neg fun late => notLast late.2]
  · rw [map_ordinal_filter, Day.map_ordinal_range,
      show sunday.ordinal + 1 - start.ordinal = weekendLength withFriday by omega,
      filter_weekend isStart, weekendNumbers_one]

theorem nextWeekends_beyond
    (isFirst : IsLeast (comingDays (weekendStart withFriday) today) start) {count : Nat}
    (beyond : lastOrdinal ≤ start.ordinal + 7 * count) :
    nextWeekends count withFriday today = .error .outOfCalendar := by
  have lastDay := start.le_last
  rw [nextWeekends, seek_of_isLeast isFirst, Result.ok_bind]
  cases outcome : start.shift (count * 7) with
  | error fault =>
      obtain ⟨rfl, -⟩ := (Day.shift_eq_error_iff _ _ _).1 outcome
      rw [Result.error_bind]
  | ok stop =>
      have stopIs := (Day.shift_eq_ok_iff _ _ _).1 outcome
      have isLast : stop = .last := by
        apply Day.eq_of_ordinal_eq
        have := stop.le_last
        change stop.ordinal = lastOrdinal
        omega
      have notEmpty : weekendSelector withFriday ≠ [] := by
        cases withFriday <;> decide
      rw [Result.ok_bind, (Recurrence.daysOn_eq_error_iff _ _ _ _).2 ⟨rfl, notEmpty, isLast⟩,
        Result.error_bind]

end Lists

/-- The lists for the coming weekends begin with the first Friday or Saturday on or after today, at
most six days away.  They have the days of as many weekends as asked for and no others, in order,
where the weekend behind these begins before the last day of the calendar; where it does not, there
is no list.  More weekends add days at the end, the list for one is that for this weekend, and a
negative number of weeks within the calendar lists nothing. -/
theorem nextWeekends_exact (withFriday : Bool) (today : Day) :
    (today.ordinal + 6 ≤ lastOrdinal →
      ∃ start, IsLeast (comingDays (weekendStart withFriday) today) start) ∧
    ∀ start : Day, IsLeast (comingDays (weekendStart withFriday) today) start →
      (today ≤ start ∧ start.ordinal ≤ today.ordinal + 6) ∧
      (∀ count : Nat, start.ordinal + 7 * count < lastOrdinal →
        ∃ days, nextWeekends count withFriday today = .ok days ∧
          days.map Day.ordinal = weekendNumbers withFriday start.ordinal count ∧
          days.length = weekendLength withFriday * count) ∧
      (∀ count further : Nat, start.ordinal + 7 * (count + further) < lastOrdinal →
        ∃ days more, nextWeekends count withFriday today = .ok days ∧
          nextWeekends (count + further) withFriday today = .ok (days ++ more)) ∧
      (start.ordinal + 7 < lastOrdinal →
        thisWeekend withFriday today = nextWeekends 1 withFriday today) ∧
      (∀ count : Nat, lastOrdinal ≤ start.ordinal + 7 * count →
        nextWeekends count withFriday today = .error .outOfCalendar) ∧
      ∀ count : Int, count < 0 → 1 ≤ start.ordinal + 7 * count →
        nextWeekends count withFriday today = .ok [] := by
  refine ⟨exists_isLeast _, fun start isFirst => ⟨⟨isFirst.1.1, ?_⟩, ?_, ?_, ?_,
    fun _ => nextWeekends_beyond isFirst, fun _ => nextWeekends_of_neg isFirst⟩⟩
  · have startIs := ordinal_eq_of_isLeast isFirst
    omega
  · intro count inside
    obtain ⟨days, areDays, numbers⟩ := exists_nextWeekends isFirst count inside
    refine ⟨days, areDays, numbers, ?_⟩
    rw [← days.length_map Day.ordinal, numbers, length_weekendNumbers]
  · intro count further inside
    obtain ⟨days, areDays, numbers⟩ := exists_nextWeekends isFirst count (by omega)
    obtain ⟨all, areAll, allNumbers⟩ := exists_nextWeekends isFirst (count + further) inside
    rw [weekendNumbers_add, ← numbers, List.map_eq_append_iff] at allNumbers
    obtain ⟨front, more, rfl, sameFront, -⟩ := allNumbers
    obtain rfl := Day.eq_of_map_ordinal_eq sameFront
    exact ⟨front, more, areDays, areAll⟩
  · intro inside
    have length := weekendLength_le withFriday
    obtain ⟨days, areDays, numbers⟩ := exists_nextWeekends isFirst 1 inside
    obtain ⟨others, areOthers, otherNumbers⟩ := exists_thisWeekend isFirst (by omega)
    rw [areOthers, Day.eq_of_map_ordinal_eq (otherNumbers.trans numbers.symm)]
    exact areDays.symm

/-- 17 January 2025, a Friday. -/
def january17 : Day := ⟨Day.january15.ordinal + 2, by decide, by decide⟩

/-- The two long weekends to come on a Wednesday, of which the first is this weekend. -/
theorem nextWeekends_exact_january15 :
    (IsLeast (comingDays (weekendStart true) .january15) january17 ∧
      january17.ordinal + 7 * (1 + 1) < lastOrdinal) ∧
    ∃ days more, thisWeekend true .january15 = .ok days ∧
      days.map Day.ordinal = [739268, 739269, 739270] ∧
      nextWeekends 2 true .january15 = .ok (days ++ more) ∧ more.length = 3 ∧
      nextWeekends (-1) true .january15 = .ok [] := by
  have isFirst : IsLeast (comingDays (weekendStart true) .january15) january17 :=
    isLeast_of_ordinal_eq (by decide)
  obtain ⟨-, fromStart⟩ := nextWeekends_exact true .january15
  obtain ⟨-, lists, grows, sameWeekend, -, nothing⟩ := fromStart january17 isFirst
  obtain ⟨days, more, areDays, areBoth⟩ := grows 1 1 (by decide)
  obtain ⟨one, areOne, oneNumbers, oneLength⟩ := lists 1 (by decide)
  obtain ⟨two, areTwo, -, twoLength⟩ := lists 2 (by decide)
  obtain rfl := Except.ok.inj (areDays.symm.trans areOne)
  obtain rfl := Except.ok.inj (areBoth.symm.trans areTwo)
  refine ⟨⟨isFirst, by decide⟩, days, more, ?_, oneNumbers, areBoth, ?_, nothing (-1) ?_ ?_⟩
  · rw [sameWeekend (by decide)]
    exact areDays
  · rw [List.length_append, oneLength] at twoLength
    exact Nat.add_left_cancel twoLength
  · decide
  · decide

end Poll

end Rendezvous
