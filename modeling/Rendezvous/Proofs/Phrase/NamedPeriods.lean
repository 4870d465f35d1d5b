import Rendezvous.Phrase.Draft
import Rendezvous.Proofs.Calendar.Period
import Rendezvous.Proofs.Phrase.RenderedDays
import Rendezvous.Proofs.Recognizer.Total

/-!
Contract: the days of "every friday and saturday this and next week".

Owns:
- `EveryDay.Means`, the days that such a phrase means on a day: those of the weekdays
  named that lie in the periods named, which are counted from the one that holds today;
- `Phrase.bound_of_weekPeriods` and `Phrase.bound_of_monthPeriods`, the bounds of the periods,
  and `Phrase.exists_weekPeriods` and `Phrase.exists_monthPeriods`;
- `ofText_everyDay`: a description with such a phrase means these days and no others, in
  ascending order, each once.

A month that begins before today counts from today on only.
-/

namespace Rendezvous

/-! ## The days meant -/

/-- The number of a period, which is that of all its days. -/
def Period.index : Period → Day → Int
  | week, day => day.weekIndex
  | month, day => day.monthIndex

/-- How many periods after the one that holds today a timeframe names. -/
def Timeframe.offset : Timeframe → Int
  | this => 0
  | next => 1

namespace EveryDay

/-- How many periods after the one that holds today the periods of a phrase are. -/
def offsets (phrase : EveryDay) : List Int :=
  phrase.timeframe.offset :: phrase.andNext.toList.map fun _ => phrase.timeframe.offset + 1

/-- Whether a day lies in the period a number of periods after the one that holds today;
the month that holds today counts from today on. -/
def IsIn (period : Period) (today : Day) (offset : Int) (day : Day) : Prop :=
  period.index day = period.index today + offset ∧
    (period = .month → offset = 0 → today ≤ day)

/-- The days that a phrase means. -/
structure Means (phrase : EveryDay) (today day : Day) : Prop where
  weekday : day.weekday ∈ phrase.days.weekdays
  inPeriod : ∃ offset ∈ phrase.offsets, IsIn phrase.period today offset day

end EveryDay

/-! ## The bounds of the periods -/

namespace Phrase

open EveryDay

/-- Whether periods are the one a number of periods after the one that holds today, and the
one behind it. -/
structure Periods.Bound (spans : Periods) (period : Period) (today : Day) (offset : Int) :
    Prop where
  stop : spans.stop ≠ .last
  nextStop : spans.nextStop ≠ .last
  mem : ∀ day : Day, spans.start ≤ day ∧ day ≤ spans.stop ↔ IsIn period today offset day
  mem_next : ∀ day : Day,
    spans.nextStart ≤ day ∧ day ≤ spans.nextStop ↔ IsIn period today (offset + 1) day

/-- The period named is the one of a day in it, the anchor. -/
theorem weekPeriods_of_anchor {isThis : Bool} {today anchor : Day}
    (isAnchor : (if isThis then .ok today else today.shift 7) = .ok anchor) :
    weekPeriods isThis today = (do
      let bounds ← anchor.weekBounds
      let next ← (← anchor.shift 7).weekBounds
      return ⟨bounds.1, bounds.2, next.1, next.2⟩) := by
  cases isThis with
  | true =>
      obtain rfl : today = anchor := Except.ok.inj isAnchor
      rfl
  | false =>
      rw [if_neg Bool.false_ne_true] at isAnchor
      rw [weekPeriods, if_neg Bool.false_ne_true, isAnchor, Result.ok_bind]

theorem monthPeriods_of_anchor {isThis : Bool} {today anchor : Day}
    (isAnchor : (if isThis then .ok today else today.addMonths 1) = .ok anchor) :
    monthPeriods isThis today = (do
      let bounds ← anchor.monthBounds
      let next ← (← anchor.addMonths 1).monthBounds
      return ⟨if isThis then today else bounds.1, bounds.2, next.1, next.2⟩) := by
  cases isThis with
  | true =>
      obtain rfl : today = anchor := Except.ok.inj isAnchor
      rw [monthPeriods, if_pos rfl, Result.ok_bind]
  | false =>
      rw [if_neg Bool.false_ne_true] at isAnchor
      rw [monthPeriods, if_neg Bool.false_ne_true, isAnchor, Result.ok_bind]

/-- Periods that are weeks are those that a timeframe names. -/
theorem bound_of_weekPeriods {timeframe : Timeframe} {today : Day} {spans : Periods}
    (areSpans : weekPeriods (timeframe == .this) today = .ok spans) :
    spans.Bound .week today timeframe.offset := by
  obtain ⟨anchor, isAnchor, anchorOrdinal⟩ : ∃ anchor,
      (if timeframe == .this then .ok today else today.shift 7 : Result Day) = .ok anchor ∧
        (anchor.ordinal : Int) = today.ordinal + 7 * timeframe.offset := by
    cases timeframe with
    | this => exact ⟨today, if_pos rfl, (Int.add_zero _).symm⟩
    | next =>
        rw [weekPeriods, if_neg (by decide)] at areSpans
        obtain ⟨anchor, isAnchor, -⟩ := (Result.bind_eq_ok_iff _ _ _).1 areSpans
        exact ⟨anchor, (if_neg (by decide)).trans isAnchor,
          (today.shift_eq_ok_iff anchor 7).1 isAnchor⟩
  rw [weekPeriods_of_anchor isAnchor] at areSpans
  obtain ⟨⟨start, stop⟩, areBounds, rest⟩ := (Result.bind_eq_ok_iff _ _ _).1 areSpans
  obtain ⟨later, isLater, rest⟩ := (Result.bind_eq_ok_iff _ _ _).1 rest
  obtain ⟨⟨nextStart, nextStop⟩, areNext, same⟩ := (Result.bind_eq_ok_iff _ _ _).1 rest
  obtain rfl := Except.ok.inj same
  have laterOrdinal := (anchor.shift_eq_ok_iff later 7).1 isLater
  obtain ⟨inside, members⟩ := Day.weekBounds_sound areBounds
  obtain ⟨nextInside, nextMembers⟩ := Day.weekBounds_sound areNext
  refine ⟨inside, nextInside, fun day => ?_, fun day => ?_⟩
  · rw [members day]
    simp only [IsIn, Period.index, Day.weekIndex, reduceCtorEq, false_implies, and_true]
    omega
  · rw [nextMembers day]
    simp only [IsIn, Period.index, Day.weekIndex, reduceCtorEq, false_implies, and_true]
    omega

theorem exists_weekPeriods (timeframe : Timeframe) (today : Day) (afterFirst : 7 ≤ today.ordinal)
    (beforeLast : today.ordinal + 21 ≤ lastOrdinal) :
    ∃ spans, weekPeriods (timeframe == .this) today = .ok spans ∧
      spans.Bound .week today timeframe.offset := by
  obtain ⟨anchor, isAnchor, anchorOrdinal⟩ : ∃ anchor,
      (if timeframe == .this then .ok today else today.shift 7 : Result Day) = .ok anchor ∧
        (anchor.ordinal : Int) = today.ordinal + 7 * timeframe.offset := by
    cases timeframe with
    | this => exact ⟨today, if_pos rfl, by simp only [Timeframe.offset]; omega⟩
    | next =>
        rw [if_neg (by decide)]
        exact today.exists_shift 7 (by omega) (by omega)
  have offsetBounds : 0 ≤ timeframe.offset ∧ timeframe.offset ≤ 1 := by
    cases timeframe <;> decide
  obtain ⟨start, stop, isBounds, -⟩ := anchor.exists_weekBounds (by omega) (by omega)
  obtain ⟨later, isLater, laterOrdinal⟩ := anchor.exists_shift 7 (by omega) (by omega)
  obtain ⟨nextStart, nextStop, isNext, -⟩ := later.exists_weekBounds (by omega) (by omega)
  have areSpans : weekPeriods (timeframe == .this) today =
      .ok ⟨start, stop, nextStart, nextStop⟩ := by
    rw [weekPeriods_of_anchor isAnchor, isBounds, Result.ok_bind, isLater, Result.ok_bind,
      isNext, Result.ok_bind, Result.pure_eq_ok]
  exact ⟨_, areSpans, bound_of_weekPeriods areSpans⟩

/-- Periods that are months are those that a timeframe names. -/
theorem bound_of_monthPeriods {timeframe : Timeframe} {today : Day} {spans : Periods}
    (areSpans : monthPeriods (timeframe == .this) today = .ok spans) :
    spans.Bound .month today timeframe.offset := by
  have monthOfStep : ∀ {day moved : Day}, day.addMonths 1 = .ok moved →
      moved.monthIndex = day.monthIndex + 1 := by
    intro day moved isMoved
    rcases day.addMonths_cases 1 with ⟨-, -, reached, isReached, inMonth, -⟩ | ⟨-, failed⟩
    · obtain rfl := Except.ok.inj (isMoved.symm.trans isReached)
      exact inMonth
    · exact absurd (isMoved.symm.trans failed) (Result.ok_ne_error _ _)
  obtain ⟨anchor, isAnchor, anchorMonth⟩ : ∃ anchor,
      (if timeframe == .this then .ok today else today.addMonths 1) = .ok anchor ∧
        anchor.monthIndex = today.monthIndex + timeframe.offset := by
    cases timeframe with
    | this => exact ⟨today, if_pos rfl, (Int.add_zero _).symm⟩
    | next =>
        rw [monthPeriods, if_neg (by decide)] at areSpans
        obtain ⟨anchor, isAnchor, -⟩ := (Result.bind_eq_ok_iff _ _ _).1 areSpans
        exact ⟨anchor, (if_neg (by decide)).trans isAnchor, monthOfStep isAnchor⟩
  rw [monthPeriods_of_anchor isAnchor] at areSpans
  obtain ⟨⟨start, stop⟩, areBounds, rest⟩ := (Result.bind_eq_ok_iff _ _ _).1 areSpans
  obtain ⟨later, isLater, rest⟩ := (Result.bind_eq_ok_iff _ _ _).1 rest
  obtain ⟨⟨nextStart, nextStop⟩, areNext, same⟩ := (Result.bind_eq_ok_iff _ _ _).1 rest
  obtain rfl := Except.ok.inj same
  have laterMonth := monthOfStep isLater
  obtain ⟨inside, members⟩ := Day.monthBounds_sound areBounds
  obtain ⟨nextInside, nextMembers⟩ := Day.monthBounds_sound areNext
  refine ⟨inside, nextInside, fun day => ?_, fun day => ?_⟩
  · rw [IsIn, Period.index, Period.index, ← anchorMonth, ← members day]
    cases timeframe with
    | this =>
        -- Today lies in its month, so the days from today on are behind the first one.
        have todayIn := (members today).2 (by rw [anchorMonth]; exact (Int.add_zero _).symm)
        simp only [Timeframe.offset, beq_self_eq_true, ↓reduceIte, forall_const, Day.le_iff] at *
        omega
    | next =>
        have apart : (Timeframe.next == .this) = false := rfl
        simp only [Timeframe.offset, apart, Bool.false_eq_true, ↓reduceIte, Int.one_ne_zero,
          false_implies, implies_true, and_true]
  · have later : Timeframe.offset timeframe + 1 ≠ 0 := by
      cases timeframe <;> decide
    rw [nextMembers day, IsIn, Period.index, Period.index, laterMonth, anchorMonth]
    constructor
    · intro inMonth
      exact ⟨by omega, fun _ isToday => absurd isToday later⟩
    · rintro ⟨inMonth, -⟩
      omega

theorem exists_monthPeriods (timeframe : Timeframe) (today : Day)
    (beforeLast : today.monthIndex + 2 < Day.lastMonth) :
    ∃ spans, monthPeriods (timeframe == .this) today = .ok spans ∧
      spans.Bound .month today timeframe.offset := by
  have todayMonth := today.monthIndex_bounds
  obtain ⟨anchor, isAnchor, anchorMonth⟩ : ∃ anchor,
      (if timeframe == .this then .ok today else today.addMonths 1) = .ok anchor ∧
        anchor.monthIndex = today.monthIndex + timeframe.offset := by
    cases timeframe with
    | this => exact ⟨today, if_pos rfl, (Int.add_zero _).symm⟩
    | next =>
        rw [if_neg (by decide)]
        exact today.exists_addMonths 1 (by omega) (by omega)
  have offsetBounds : 0 ≤ timeframe.offset ∧ timeframe.offset ≤ 1 := by
    cases timeframe <;> decide
  obtain ⟨start, stop, isBounds, -⟩ := anchor.exists_monthBounds (by omega)
  obtain ⟨later, isLater, laterMonth⟩ := anchor.exists_addMonths 1 (by omega) (by omega)
  obtain ⟨nextStart, nextStop, isNext, -⟩ := later.exists_monthBounds (by omega)
  have areSpans : monthPeriods (timeframe == .this) today =
      .ok ⟨if timeframe == .this then today else start, stop, nextStart, nextStop⟩ := by
    rw [monthPeriods_of_anchor isAnchor, isBounds, Result.ok_bind, isLater, Result.ok_bind,
      isNext, Result.ok_bind, Result.pure_eq_ok]
  exact ⟨_, areSpans, bound_of_monthPeriods areSpans⟩

/-! ## The days in the periods -/

variable {found : Pattern.Match Part} {today : Day} {spans : Periods}

/-- The periods read off the pieces of a phrase are those that their words name. -/
theorem bound_of_periods {timeframe : Timeframe} {period : Period}
    (isThis : ((found.textOf .timeframe).lower == "this".toList) = (timeframe == .this))
    (isMonth : ((found.textOf .unit).lower == "month".toList) = (period == .month))
    (areSpans : periods found today = .ok spans) :
    spans.Bound period today timeframe.offset := by
  rw [periods, isThis, isMonth] at areSpans
  cases period with
  | week =>
      rw [if_neg (by decide)] at areSpans
      exact bound_of_weekPeriods areSpans
  | month =>
      rw [if_pos (by decide)] at areSpans
      exact bound_of_monthPeriods areSpans

/-- The days of the periods have a list, whatever weekdays are read off the phrase. -/
theorem exists_everyDayThisNextDays (areSpans : periods found today = .ok spans)
    (inside : spans.stop ≠ .last) (nextInside : spans.nextStop ≠ .last) :
    ∃ days, everyDayThisNextDays found today = .ok days ∧ days.Pairwise (· < ·) := by
  obtain ⟨days, areDays⟩ := Recurrence.exists_daysOn spans.start spans.stop
    (Selector.ofText (found.textOf .days)) inside
  obtain ⟨further, areFurther⟩ := Recurrence.exists_daysOn spans.nextStart spans.nextStop
    (Selector.ofText (found.textOf .days)) nextInside
  rw [everyDayThisNextDays, areSpans, Result.ok_bind, areDays, Result.ok_bind]
  split
  next =>
    rw [areFurther]
    exact ⟨_, rfl, Day.sorted_pairwise _⟩
  next => exact ⟨days, rfl, Recurrence.daysOn_pairwise areDays⟩

/-- The days of a phrase are those of its periods that have a weekday read off it. -/
theorem mem_everyDayThisNextDays {days : List Day} (areSpans : periods found today = .ok spans)
    (areDays : everyDayThisNextDays found today = .ok days) (day : Day) :
    day ∈ days ↔
      ((spans.start ≤ day ∧ day ≤ spans.stop) ∨ (found.text? .andNext).isSome = true ∧
        spans.nextStart ≤ day ∧ day ≤ spans.nextStop) ∧
      (Selector.ofText (found.textOf .days)).selects day = true := by
  rw [everyDayThisNextDays, areSpans, Result.ok_bind] at areDays
  obtain ⟨inSpan, areInSpan, rest⟩ := (Result.bind_eq_ok_iff _ _ _).1 areDays
  split at rest
  next both =>
    obtain ⟨further, areFurther, same⟩ := (Result.bind_eq_ok_iff _ _ _).1 rest
    obtain rfl := Except.ok.inj same
    rw [Day.mem_sorted, List.mem_append, Recurrence.mem_daysOn areInSpan,
      Recurrence.mem_daysOn areFurther]
    simp only [both, true_and, or_and_right]
  next single =>
    obtain rfl := Except.ok.inj rest
    rw [Recurrence.mem_daysOn areInSpan]
    simp only [single, Bool.false_eq_true, false_and, or_false]

end Phrase

/-! ## The pieces read -/

namespace EveryDay

open Pattern Phrase

variable {phrase : EveryDay} {found : Match Part}

theorem textOf_days (kept : found.keptTexts = phrase.kept) :
    found.textOf .days = phrase.days.text := by
  rw [Match.textOf, Match.text?_eq, kept, EveryDay.kept]
  cases phrase.andNext <;> rfl

theorem textOf_timeframe (kept : found.keptTexts = phrase.kept) :
    found.textOf .timeframe = phrase.timeframeWritten.text := by
  rw [Match.textOf, Match.text?_eq, kept, EveryDay.kept]
  cases phrase.andNext <;> rfl

theorem textOf_unit (kept : found.keptTexts = phrase.kept) :
    found.textOf .unit = phrase.periodWritten.text := by
  rw [Match.textOf, Match.text?_eq, kept, EveryDay.kept]
  rfl

theorem isSome_andNext (kept : found.keptTexts = phrase.kept) :
    (found.text? .andNext).isSome = phrase.andNext.isSome := by
  rw [Match.text?_eq, kept, EveryDay.kept]
  cases phrase.andNext <;> rfl

/-- The periods read off a phrase are those that it names. -/
theorem exists_periods (kept : found.keptTexts = phrase.kept) (today : Day)
    (afterFirst : 2 ≤ today.year) (beforeLast : today.year ≤ 9998) :
    ∃ spans, periods found today = .ok spans ∧
      spans.Bound phrase.period today phrase.timeframe.offset := by
  have inner := today.ordinal_of_innerYear afterFirst beforeLast
  have months := today.monthIndex_of_year
  have isThis : ((found.textOf .timeframe).lower == "this".toList) =
      (phrase.timeframe == .this) := by
    rw [textOf_timeframe kept, phrase.timeframeWritten.lower_text phrase.timeframe.isSmallWord]
    cases phrase.timeframe <;> decide
  have isMonth : ((found.textOf .unit).lower == "month".toList) = (phrase.period == .month) := by
    rw [textOf_unit kept, phrase.periodWritten.lower_text phrase.period.isSmallWord]
    cases phrase.period <;> decide
  rw [periods, isThis, isMonth]
  cases phrase.period with
  | week =>
      rw [if_neg (by decide)]
      exact exists_weekPeriods phrase.timeframe today (by omega) (by omega)
  | month =>
      rw [if_pos (by decide)]
      have early : today.monthIndex + 2 < Day.lastMonth := by
        simp only [Day.lastMonth]
        omega
      exact exists_monthPeriods phrase.timeframe today early

theorem selects_iff (kept : found.keptTexts = phrase.kept) (day : Day) :
    (Selector.ofText (found.textOf .days)).selects day = true ↔
      day.weekday ∈ phrase.days.weekdays := by
  rw [Selector.selects_iff, textOf_days kept, phrase.days.mem_ofText]

theorem exists_offset_iff (phrase : EveryDay) (counts : Int → Prop) :
    (∃ offset ∈ phrase.offsets, counts offset) ↔
      counts phrase.timeframe.offset ∨
        phrase.andNext.isSome = true ∧ counts (phrase.timeframe.offset + 1) := by
  rw [offsets, List.exists_mem_cons_iff]
  cases phrase.andNext <;> simp

/-- The days read off a phrase are those that it means. -/
theorem exists_days (kept : found.keptTexts = phrase.kept) (today : Day)
    (afterFirst : 2 ≤ today.year) (beforeLast : today.year ≤ 9998) :
    ∃ days, everyDayThisNextDays found today = .ok days ∧ days.Pairwise (· < ·) ∧
      ∀ day, day ∈ days ↔ phrase.Means today day := by
  obtain ⟨spans, areSpans, bound⟩ := exists_periods kept today afterFirst beforeLast
  obtain ⟨days, areDays, ascending⟩ :=
    exists_everyDayThisNextDays areSpans bound.stop bound.nextStop
  refine ⟨days, areDays, ascending, fun day => ?_⟩
  rw [mem_everyDayThisNextDays areSpans areDays, bound.mem, bound.mem_next, selects_iff kept,
    isSome_andNext kept, ← phrase.exists_offset_iff fun offset =>
      IsIn phrase.period today offset day]
  exact ⟨fun ⟨inPeriod, weekday⟩ => ⟨weekday, inPeriod⟩, fun means =>
    ⟨means.inPeriod, means.weekday⟩⟩

end EveryDay

/-! ## Descriptions with such a phrase -/

/-- A description with such a phrase means the days of the phrase, in ascending order. -/
theorem ofText_everyDay (recognizer : Recognizer) (total : recognizer.IsTotal)
    (phrase : EveryDay) (front behind : Text)
    (separate : front.getLast?.all Text.isBlank = true)
    (without : ¬ "every".toList <:+: front.map Char.toLower)
    (noWeekends : Phrase.weekendsNext.find? (front ++ (phrase.text ++ behind)) = none)
    (now : Moment) (afterFirst : 2 ≤ now.day.year) (beforeLast : now.day.year ≤ 9998) :
    ∃ draft, Draft.ofText recognizer (front ++ (phrase.text ++ behind)) now = .ok draft ∧
      draft.phrase = some .everyDayThisNext ∧ draft.days.Pairwise (· < ·) ∧
      ∀ day, day ∈ draft.days ↔ phrase.Means now.day day := by
  obtain ⟨found, isFound, -, -, kept⟩ := phrase.exists_find separate without behind
  obtain ⟨days, areDays, ascending, means⟩ :=
    EveryDay.exists_days kept now.day afterFirst beforeLast
  generalize front ++ (phrase.text ++ behind) = text at noWeekends isFound ⊢
  obtain ⟨mentions, areMentions⟩ := total.exists_extract (text.drop found.stop) now
  have first : Phrase.first? text = some (.everyDayThisNext, found) := by
    rw [Phrase.first?, Phrase.all, List.findSome?_cons, noWeekends, Option.map_none,
      List.findSome?_cons, isFound, Option.map_some]
  refine ⟨⟨some .everyDayThisNext, days, Mention.times mentions,
    Title.before? text found.start⟩, ?_, rfl, ascending, means⟩
  rw [Draft.ofText, first]
  have isDays : Phrase.everyDayThisNext.days recognizer found now = .ok days := areDays
  change Phrase.everyDayThisNext.draft recognizer text found now = _
  rw [Phrase.draft, isDays, Result.ok_bind, Phrase.draftOf, Phrase.timesAfter, areMentions]
  rfl

/-- "Every Friday AND saturday this and next month". -/
def EveryDay.fridaysAndSaturdays : EveryDay where
  every := ⟨"Every".toList, by decide⟩
  gapBeforeDays := ⟨[' '], by decide, by decide⟩
  days := {
    first := ⟨⟨5, by decide⟩, "Friday".toList, by decide⟩
    others := [{
      gapBefore := ⟨[' ', '\t'], by decide, by decide⟩
      conjunction := ⟨"AND".toList, by decide⟩
      gapBehind := ⟨[' '], by decide, by decide⟩
      day := ⟨⟨6, by decide⟩, "saturday".toList, by decide⟩ }] }
  gapBehindDays := ⟨[' '], by decide, by decide⟩
  timeframe := .this
  timeframeWritten := ⟨"this".toList, by decide⟩
  gapBehindTimeframe := ⟨[' '], by decide, by decide⟩
  andNext := some {
    conjunction := ⟨"and".toList, by decide⟩
    gapBetween := ⟨[' '], by decide, by decide⟩
    next := ⟨"next".toList, by decide⟩
    gapBehind := ⟨[' '], by decide, by decide⟩ }
  period := .month
  periodWritten := ⟨"month".toList, by decide⟩

/-- On 31 January 2025 that day is left of this month, and the next one is February. -/
theorem ofText_everyDay_january :
    ∃ draft, Draft.ofText (.ofTable ⟨[], []⟩)
        "Movies Every Friday \tAND saturday this and next month at 7pm".toList
        (.midnight ⟨739282, by decide, by decide⟩) = .ok draft ∧
      draft.phrase = some .everyDayThisNext ∧ draft.days.Pairwise (· < ·) ∧
      ∀ day, day ∈ draft.days ↔
        EveryDay.fridaysAndSaturdays.Means ⟨739282, by decide, by decide⟩ day := by
  have written : "Movies Every Friday \tAND saturday this and next month at 7pm".toList =
      "Movies ".toList ++ (EveryDay.fridaysAndSaturdays.text ++ " at 7pm".toList) := by
    decide +kernel
  have year : Day.year ⟨739282, by decide, by decide⟩ = 2025 := by decide +kernel
  rw [written]
  exact ofText_everyDay (.ofTable ⟨[], []⟩) (Recognizer.ofTable_isTotal _)
    EveryDay.fridaysAndSaturdays "Movies ".toList " at 7pm".toList (by decide)
    (by decide +kernel) (by decide +kernel) (.midnight ⟨739282, by decide, by decide⟩)
    (by rw [Moment.midnight, year]; decide) (by rw [Moment.midnight, year]; decide)

end Rendezvous
