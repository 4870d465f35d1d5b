import Rendezvous.Proofs.Phrase.MonthDays
import Rendezvous.Proofs.Phrase.RenderedDays

/-!
Contract: which days are read off a phrase that names weekdays, whatever characters stand for
its letters.

Owns:
- `Timeframe.read`, which timeframe is read off a word: "this" only where its lower case is that;
- `RenderedEveryDay`, the pieces of "every friday this week" as they are accepted, and the days
  they mean;
- `Phrase.ofText_renderedDays`: of each phrase that names weekdays the legible ones count, in the
  periods that are read off it.

The expressions accept a long s, a dotless i and a dotted capital I, which have no small letter
for their lower case.
-/

namespace Rendezvous

open Pattern

/-! ## Timeframes -/

/-- The characters that stand for a letter without having it for their lower case. -/
def Text.isMisread (c : Char) : Bool :=
  isStray c || isDotted c

/-- A word without a long s, a dotless i or a dotted capital I. -/
def Rendering.IsPlain {name : String} (rendering : Rendering name) : Prop :=
  rendering.text.any Text.isMisread = false

instance {name : String} (rendering : Rendering name) : Decidable rendering.IsPlain :=
  inferInstanceAs (Decidable (_ = _))

/-- The timeframe that is read off a word. -/
def Timeframe.read (timeframe : Timeframe) (rendering : Rendering timeframe.word) : Timeframe :=
  if timeframe = .this ∧ rendering.IsPlain then .this else .next

theorem Timeframe.read_eq (timeframe : Timeframe) (rendering : Rendering timeframe.word) :
    (rendering.text.lower == "this".toList) = (timeframe.read rendering == .this) := by
  have all : ∀ timeframe ∈ [Timeframe.this, .next], ∀ model ∈ Text.models timeframe.word.toList,
      (Text.lower model == "this".toList) =
        decide (timeframe = .this ∧ model.any Text.isMisread = false) := by
    decide +kernel
  have isTimeframe : timeframe ∈ [Timeframe.this, .next] := by
    cases timeframe <;> decide
  obtain ⟨model, isModel, alike⟩ := rendering.stands.exists_model timeframe.isSmallWord.small
  have samePlain : model.any Text.isMisread = rendering.text.any Text.isMisread :=
    Text.any_of_alike alike fun same => congrArg₂ (· || ·) same.stray same.dotted
  rw [← Text.lower_eq_of_alike alike, all timeframe isTimeframe model isModel, samePlain, read]
  split
  next plain => exact decide_eq_true plain
  next notPlain => exact decide_eq_false notPlain

/-- Nothing but small and capital letters stands for the letters of "month", and a week is never
taken for one. -/
theorem Period.isMonth_eq (period : Period) (rendering : Rendering period.word) :
    (rendering.text.lower == "month".toList) = (period == .month) := by
  have all : ∀ period ∈ [Period.week, .month], ∀ model ∈ Text.models period.word.toList,
      (Text.lower model == "month".toList) = (period == .month) := by
    decide +kernel
  have isPeriod : period ∈ [Period.week, .month] := by
    cases period <;> decide
  obtain ⟨model, isModel, alike⟩ := rendering.stands.exists_model period.isSmallWord.small
  rw [← Text.lower_eq_of_alike alike]
  exact all period isPeriod model isModel

/-! ## Weekdays of this or the next week or month -/

/-- The pieces of "every friday and saturday this and next week" as they are accepted. -/
structure RenderedEveryDay where
  days : RenderedList
  timeframe : Timeframe
  timeframeRendering : Rendering timeframe.word
  andNext : Bool
  period : Period
  periodRendering : Rendering period.word

namespace RenderedEveryDay

variable {pieces : RenderedEveryDay} {found : Match Part}

/-- Whether a phrase was found with these pieces. -/
structure IsOf (pieces : RenderedEveryDay) (found : Match Part) : Prop where
  days : pieces.days.text = found.textOf .days
  timeframe : pieces.timeframeRendering.text = found.textOf .timeframe
  andNext : pieces.andNext = (found.text? .andNext).isSome
  period : pieces.periodRendering.text = found.textOf .unit

/-- The timeframe that is read off the pieces. -/
def timeframeRead (pieces : RenderedEveryDay) : Timeframe :=
  pieces.timeframe.read pieces.timeframeRendering

/-- How many periods after the one that holds today the periods read off the pieces are. -/
def offsets (pieces : RenderedEveryDay) : List Int :=
  pieces.timeframeRead.offset ::
    if pieces.andNext then [pieces.timeframeRead.offset + 1] else []

/-- The days that are read off the pieces. -/
structure Means (pieces : RenderedEveryDay) (today day : Day) : Prop where
  weekday : pieces.days.NamesLegibly day.weekday
  inPeriod : ∃ offset ∈ pieces.offsets, EveryDay.IsIn pieces.period today offset day

theorem exists_of_find {text : Text} (isFound : Phrase.everyDayThisNext.find? text = some found) :
    ∃ pieces : RenderedEveryDay, pieces.IsOf found := by
  have daysAdmitted :
      (Expr.seq Phrase.dayName (.star Phrase.furtherDay)).Admits (found.textOf .days) :=
    Expr.admits_textOf rfl (by decide) isFound
  have timeframeAdmitted : (Expr.wordOf ["this", "next"]).Admits (found.textOf .timeframe) :=
    Expr.admits_textOf rfl (by decide) isFound
  have unitAdmitted : (Expr.wordOf ["week", "month"]).Admits (found.textOf .unit) :=
    Expr.admits_textOf rfl (by decide) isFound
  have timeframes : ∀ name ∈ ["this", "next"], ∃ timeframe : Timeframe, timeframe.word = name := by
    simp only [List.forall_mem_cons, List.not_mem_nil, false_implies, implies_true, and_true]
    exact ⟨⟨.this, rfl⟩, ⟨.next, rfl⟩⟩
  have periods : ∀ name ∈ ["week", "month"], ∃ period : Period, period.word = name := by
    simp only [List.forall_mem_cons, List.not_mem_nil, false_implies, implies_true, and_true]
    exact ⟨⟨.week, rfl⟩, ⟨.month, rfl⟩⟩
  obtain ⟨list, isList⟩ :=
    RenderedList.exists_of_admits List.mem_cons_self isFurther_furtherDay daysAdmitted
  obtain ⟨timeframeName, isTimeframe, admitsTimeframe⟩ := Expr.admits_wordOf timeframeAdmitted
  obtain ⟨timeframe, rfl⟩ := timeframes timeframeName isTimeframe
  obtain ⟨timeframeRendering, timeframeText⟩ := exists_rendering admitsTimeframe
  obtain ⟨unitName, isUnit, admitsUnit⟩ := Expr.admits_wordOf unitAdmitted
  obtain ⟨period, rfl⟩ := periods unitName isUnit
  obtain ⟨periodRendering, periodText⟩ := exists_rendering admitsUnit
  exact ⟨⟨list, timeframe, timeframeRendering, _, period, periodRendering⟩,
    isList, timeframeText, rfl, periodText⟩

theorem exists_offset_iff (pieces : RenderedEveryDay) (counts : Int → Prop) :
    (∃ offset ∈ pieces.offsets, counts offset) ↔
      counts pieces.timeframeRead.offset ∨
        pieces.andNext = true ∧ counts (pieces.timeframeRead.offset + 1) := by
  rw [offsets, List.exists_mem_cons_iff]
  cases pieces.andNext <;> simp

/-- The days of a phrase are those that are read off its pieces. -/
theorem mem_days_iff (isOf : pieces.IsOf found) {today : Day} {days : List Day}
    (areDays : Phrase.everyDayThisNextDays found today = .ok days) (day : Day) :
    day ∈ days ↔ pieces.Means today day := by
  obtain ⟨spans, areSpans, -⟩ := (Result.bind_eq_ok_iff _ _ _).1 areDays
  have isThis : ((found.textOf .timeframe).lower == "this".toList) =
      (pieces.timeframeRead == .this) := by
    rw [← isOf.timeframe]
    exact pieces.timeframe.read_eq pieces.timeframeRendering
  have isMonth : ((found.textOf .unit).lower == "month".toList) = (pieces.period == .month) := by
    rw [← isOf.period]
    exact pieces.period.isMonth_eq pieces.periodRendering
  have bound := Phrase.bound_of_periods isThis isMonth areSpans
  rw [Phrase.mem_everyDayThisNextDays areSpans areDays, bound.mem, bound.mem_next,
    Selector.selects_iff, ← isOf.days, pieces.days.mem_ofText, ← isOf.andNext,
    ← pieces.exists_offset_iff fun offset => EveryDay.IsIn pieces.period today offset day]
  exact ⟨fun ⟨inPeriod, weekday⟩ => ⟨weekday, inPeriod⟩, fun means =>
    ⟨means.inPeriod, means.weekday⟩⟩

end RenderedEveryDay

/-! ## Days of a month -/

namespace Phrase

variable {phrase : Phrase} {text : Text} {found : Match Part} {recognizer : Recognizer}
  {now : Moment}

/-- What is kept as the kind is a list of weekdays, or one of the other kinds. -/
theorem exists_renderedKind (namesMonth : phrase.NamesMonth)
    (isFound : phrase.find? text = some found) :
    (∃ list : RenderedList, list.text = found.textOf .kind) ∨
      ∃ name ∈ ["weekend", "weekday", "day"], ∃ rendering : Rendering name,
        rendering.text = found.textOf .kind := by
  rcases admits_kind namesMonth isFound with ofEvery | ofPlurals
  · exact exists_list_or_word (Or.inl rfl) ofEvery
  · exact exists_list_or_word (Or.inr rfl) ofPlurals

/-- The days of a month are those with a weekday of the kind, if the month is known. -/
theorem mem_daysInMonth_iff {days : List Day}
    (areDays : daysInMonth recognizer found now = .ok days) (day : Day) :
    day ∈ days ↔ (selectorOf (found.textOf .kind)).selects day = true ∧
      ∃ start, namedMonth recognizer found now = .ok (some start) ∧
        day.monthIndex = start.monthIndex := by
  obtain ⟨month?, isMonth, rest⟩ := (Result.bind_eq_ok_iff _ _ _).1 areDays
  rw [isMonth]
  cases month? with
  | none =>
      obtain rfl := Except.ok.inj rest
      simp
  | some start =>
      obtain ⟨⟨first, last⟩, areBounds, isDays⟩ := (Result.bind_eq_ok_iff _ _ _).1 rest
      obtain ⟨-, members⟩ := Day.monthBounds_sound areBounds
      rw [Recurrence.mem_daysOn isDays, members, and_comm]
      simp

end Phrase

/-! ## Descriptions -/

/-- In a description whose first phrase names weekdays, those are read off the phrase that stand
in its list in a legible way.  "Every friday this week" means the days of these weekdays in the
periods read off it, and a phrase with a month those in the month, if it is known. -/
theorem Phrase.ofText_renderedDays (recognizer : Recognizer) (text : Text) (now : Moment)
    (phrase : Phrase) (found : Match Part) (isFirst : first? text = some (phrase, found)) :
    (phrase = .everyDayThisNext →
      (∃ pieces : RenderedEveryDay, pieces.IsOf found) ∧
      ∀ pieces : RenderedEveryDay, pieces.IsOf found →
        pieces.days.IsRead (Selector.ofText (found.textOf .days)) ∧
        ∀ draft, Draft.ofText recognizer text now = .ok draft →
          ∀ day, day ∈ draft.days ↔ pieces.Means now.day day) ∧
    (phrase.NamesMonth →
      ((∃ list : RenderedList, list.text = found.textOf .kind) ∨
        ∃ name ∈ ["weekend", "weekday", "day"], ∃ rendering : Rendering name,
          rendering.text = found.textOf .kind) ∧
      ∀ list : RenderedList, list.text = found.textOf .kind →
        list.IsRead (selectorOf (found.textOf .kind)) ∧
        ∀ draft, Draft.ofText recognizer text now = .ok draft →
          ∀ day, day ∈ draft.days ↔ list.NamesLegibly day.weekday ∧
            ∃ start, namedMonth recognizer found now = .ok (some start) ∧
              day.monthIndex = start.monthIndex) := by
  have isFound := find?_of_first? isFirst
  constructor
  · rintro rfl
    refine ⟨RenderedEveryDay.exists_of_find isFound, fun pieces isOf => ⟨?_, ?_⟩⟩
    · rw [← isOf.days]
      exact pieces.days.isRead_ofText
    · intro draft isDraft day
      exact RenderedEveryDay.mem_days_iff isOf (eq_of_ofText isFirst isDraft).2 day
  · intro namesMonth
    refine ⟨exists_renderedKind namesMonth isFound, fun list isList => ⟨?_, ?_⟩⟩
    · rw [← isList]
      exact list.isRead_selectorOf
    · intro draft isDraft day
      have areDays := (eq_of_ofText isFirst isDraft).2
      rw [days_of_namesMonth namesMonth] at areDays
      rw [mem_daysInMonth_iff areDays, Selector.selects_iff, ← isList,
        list.selectorOf_text, list.mem_ofText_lower]

/-- A Thursday and a Sunday with a long s, and "this" with a dotless i. -/
def RenderedEveryDay.thursdayAndSunday : RenderedEveryDay where
  days := {
    first := ⟨⟨4, by decide⟩, ⟨"thur\u017fday".toList, by decide⟩, none⟩
    others := [(.andAlone .space (.small isSmallWord_and) .space,
      ⟨⟨0, by decide⟩, ⟨"\u017funday".toList, by decide⟩, none⟩)] }
  timeframe := .this
  timeframeRendering := ⟨"th\u0131s".toList, by decide⟩
  andNext := false
  period := .week
  periodRendering := ⟨"week".toList, by decide⟩

/-- The Thursday of the next week alone is read off that phrase: a long s does no harm behind the
short name. -/
theorem Phrase.ofText_thursdayAndSunday :
    ∃ draft, Draft.ofText (.ofTable ⟨[], []⟩)
        "Yoga every thur\u017fday and \u017funday th\u0131s week".toList
        (.midnight ⟨739266, by decide, by decide⟩) = .ok draft ∧
      ∀ day, day ∈ draft.days ↔ day.weekday.val = 4 ∧
        day.weekIndex = Day.weekIndex ⟨739266, by decide, by decide⟩ + 1 := by
  have kept : (first? "Yoga every thur\u017fday and \u017funday th\u0131s week".toList).map
      (fun first => (first.1, first.2.keptTexts)) =
        some (.everyDayThisNext, [(.unit, "week".toList), (.timeframe, "th\u0131s".toList),
          (.days, "thur\u017fday and \u017funday".toList)]) := by
    decide +kernel
  obtain ⟨⟨phrase, found⟩, isFirst, same⟩ := Option.map_eq_some_iff.1 kept
  obtain ⟨rfl, texts⟩ := Prod.mk.inj same
  have isOf : RenderedEveryDay.thursdayAndSunday.IsOf found := by
    constructor <;> simp only [Match.textOf, Match.text?_eq, texts] <;> decide
  obtain ⟨everyDay, -⟩ := ofText_renderedDays (.ofTable ⟨[], []⟩) _
    (.midnight ⟨739266, by decide, by decide⟩) _ found isFirst
  obtain ⟨-, means⟩ := (everyDay rfl).2 _ isOf
  have year : Day.year ⟨739266, by decide, by decide⟩ = 2025 := by decide +kernel
  obtain ⟨days, areDays⟩ := everyDayThisNextDays_ok found ⟨739266, by decide, by decide⟩
    (by rw [year]; decide) (by rw [year]; decide)
  have isDays : everyDayThisNext.days (.ofTable ⟨[], []⟩) found
      (.midnight ⟨739266, by decide, by decide⟩) = .ok days := areDays
  obtain ⟨draft, isDraft, -⟩ := exists_ofText (Recognizer.ofTable_isTotal ⟨[], []⟩) isFirst isDays
  have legible : ∀ weekday : Weekday,
      RenderedEveryDay.thursdayAndSunday.days.NamesLegibly weekday ↔ weekday.val = 4 := by
    decide +kernel
  have offsets : RenderedEveryDay.thursdayAndSunday.offsets = [1] := by
    decide
  refine ⟨draft, isDraft, fun day => ?_⟩
  rw [means draft isDraft]
  constructor
  · rintro ⟨weekday, offset, isOffset, inWeek, -⟩
    rw [offsets, List.mem_singleton] at isOffset
    rw [isOffset] at inWeek
    exact ⟨(legible _).1 weekday, Int.ofNat_inj.1 inWeek⟩
  · rintro ⟨weekday, inWeek⟩
    refine ⟨(legible _).2 weekday, 1, offsets ▸ List.mem_cons_self, Int.ofNat_inj.2 inWeek, ?_⟩
    intro isMonth
    contradiction

/-- A Sunday with a long s is accepted in a list, but no weekday is read off it. -/
theorem Phrase.unread_longSunday :
    ∃ (found : Match Part) (list : RenderedList),
      first? "every \u017funday this week".toList = some (.everyDayThisNext, found) ∧
      list.text = found.textOf .days ∧ list.Names ⟨0, by decide⟩ ∧
      Selector.ofText (found.textOf .days) = [] ∧
      everyDayThisNextDays found ⟨739266, by decide, by decide⟩ = .ok [] := by
  have kept : (first? "every \u017funday this week".toList).map
      (fun first => (first.1, first.2.textOf .days,
        everyDayThisNextDays first.2 ⟨739266, by decide, by decide⟩)) =
        some (.everyDayThisNext, "\u017funday".toList, .ok []) := by
    decide +kernel
  obtain ⟨⟨phrase, found⟩, isFirst, same⟩ := Option.map_eq_some_iff.1 kept
  simp only [Prod.mk.injEq] at same
  obtain ⟨rfl, isDays, noDays⟩ := same
  let sunday : RenderedDay := ⟨⟨0, by decide⟩, ⟨"\u017funday".toList, by decide⟩, none⟩
  refine ⟨found, ⟨sunday, []⟩, isFirst, ?_, ⟨sunday, List.mem_cons_self, rfl⟩, ?_, noDays⟩
  · rw [isDays]
    decide
  · rw [isDays]
    decide +kernel

end Rendezvous
