import Rendezvous.Calendar.Week
import Rendezvous.Phrase.Grammar
import Rendezvous.Proofs.Phrase.Writing
import Rendezvous.Proofs.Recurrence.Expand

/-!
Contract: phrases such as "every friday and saturday this and next week" as they may be
written, and how they are found in a description.

Owns:
- `EveryDay`, the pieces of such a phrase with all freedom of letter case and of blanks;
- `EveryDay.exists_find`: behind a front without "every" the phrase is found as a whole,
  with its pieces under their names, whatever stands behind it.

Does not own: the weekdays that are read off the list of days, and the days that the phrase
means.
-/

namespace Rendezvous

/-- The small name of a weekday. -/
def Weekday.word (weekday : Weekday) : String :=
  ["sunday", "monday", "tuesday", "wednesday", "thursday", "friday", "saturday"].get weekday

theorem Weekday.isSmallWord (weekday : Weekday) : IsSmallWord weekday.word := by
  revert weekday
  decide

/-! ## Lists of days -/

/-- A weekday as it is written. -/
structure WrittenDay where
  weekday : Weekday
  spelling : Spelling weekday.word

/-- A weekday behind another one, with "and" in front of it. -/
structure FurtherDay where
  gapBefore : Gap
  conjunction : Spelling "and"
  gapBehind : Gap
  day : WrittenDay

/-- Weekdays, at least one. -/
structure DayList where
  first : WrittenDay
  others : List FurtherDay

def FurtherDay.text (further : FurtherDay) : Text :=
  further.gapBefore.text ++
    (further.conjunction.text ++ (further.gapBehind.text ++ further.day.spelling.text))

def furtherText (others : List FurtherDay) : Text :=
  others.flatMap FurtherDay.text

namespace DayList

def text (list : DayList) : Text :=
  list.first.spelling.text ++ furtherText list.others

/-- The weekdays of a list. -/
def weekdays (list : DayList) : List Weekday :=
  list.first.weekday :: list.others.map fun further => further.day.weekday

end DayList

/-! ## Phrases -/

/-- The period that counts, in view of the one that holds today. -/
inductive Timeframe where
  | this
  | next
deriving DecidableEq, Repr

/-- The kind of the periods. -/
inductive Period where
  | week
  | month
deriving DecidableEq, Repr

def Timeframe.word : Timeframe → String
  | this => "this"
  | next => "next"

def Period.word : Period → String
  | week => "week"
  | month => "month"

/-- What adds the period behind the one that counts: "and next". -/
structure AndNext where
  conjunction : Spelling "and"
  gapBetween : Gap
  next : Spelling "next"
  gapBehind : Gap

def AndNext.text (further : AndNext) : Text :=
  further.conjunction.text ++
    (further.gapBetween.text ++ (further.next.text ++ further.gapBehind.text))

/-- A phrase such as "every friday and saturday this and next week". -/
structure EveryDay where
  every : Spelling "every"
  gapBeforeDays : Gap
  days : DayList
  gapBehindDays : Gap
  timeframe : Timeframe
  timeframeWritten : Spelling timeframe.word
  gapBehindTimeframe : Gap
  andNext : Option AndNext
  period : Period
  periodWritten : Spelling period.word

namespace EveryDay

def andNextText (phrase : EveryDay) : Text :=
  phrase.andNext.elim [] AndNext.text

def text (phrase : EveryDay) : Text :=
  phrase.every.text ++ (phrase.gapBeforeDays.text ++ (phrase.days.text ++
    (phrase.gapBehindDays.text ++ (phrase.timeframeWritten.text ++
      (phrase.gapBehindTimeframe.text ++ (phrase.andNextText ++ phrase.periodWritten.text))))))

end EveryDay

/-! ## Words of the phrase -/

theorem Timeframe.isSmallWord (timeframe : Timeframe) : IsSmallWord timeframe.word := by
  cases timeframe <;> decide

theorem Period.isSmallWord (period : Period) : IsSmallWord period.word := by
  cases period <;> decide

theorem isSmallWord_and : IsSmallWord "and" := by
  decide

theorem isSmallWord_next : IsSmallWord "next" := by
  decide

theorem isSmallWord_weekend : IsSmallWord "weekend" := by
  decide

theorem isSmallWord_s : IsSmallWord "s" := by
  decide

section Taking

open Pattern Pattern.Expr

variable {behind : Text}

private theorem dayNames_distinct : AreDistinct
    ["sunday", "monday", "tuesday", "wednesday", "thursday", "friday", "saturday"] where
  small := by decide
  apart := by decide

private theorem timeframes_distinct : AreDistinct ["this", "next"] where
  small := by decide
  apart := by decide

private theorem periods_distinct : AreDistinct ["week", "month"] where
  small := by decide
  apart := by decide

theorem WrittenDay.takes (day : WrittenDay) (behind : Text) :
    Phrase.dayName.Takes day.spelling.text behind [] :=
  takes_wordOf dayNames_distinct (List.get_mem _ _) day.spelling.spells behind

theorem FurtherDay.takes (further : FurtherDay) (behind : Text) :
    Phrase.furtherDay.Takes further.text behind [] := by
  have wordDay := further.day.weekday.isSmallWord
  apply takes_gap_inRow further.gapBefore
  · exact further.conjunction.head_not_blank_append isSmallWord_and _ behind
  · apply takes_spelling_inRow further.conjunction
    apply takes_gap_inRow further.gapBehind (further.day.spelling.head_not_blank wordDay behind)
    exact further.day.takes behind

theorem FurtherDay.text_ne_nil (further : FurtherDay) : further.text ≠ [] := by
  intro isEmpty
  exact further.gapBefore.proper (List.append_eq_nil_iff.1 isEmpty).1

/-- No further weekday is read where a timeframe stands. -/
theorem spurns_furtherDay (gap : Gap) {timeframe : Timeframe}
    (spelling : Spelling timeframe.word) (behind : Text) :
    Phrase.furtherDay.Spurns (gap.text ++ (spelling.text ++ behind)) := by
  apply spurns_gap_word isSmallWord_and timeframe.isSmallWord _ _ gap spelling behind
  · cases timeframe <;> decide
  · cases timeframe <;> decide

theorem takesRow_furtherText (spurned : Phrase.furtherDay.Spurns behind)
    (others : List FurtherDay) :
    TakesRow Phrase.furtherDay behind (furtherText others) [] := by
  induction others with
  | nil => exact .stop spurned
  | cons further others inductionHypothesis =>
      exact .more (further.takes (furtherText others ++ behind)) further.text_ne_nil
        inductionHypothesis

theorem DayList.takes (list : DayList) (spurned : Phrase.furtherDay.Spurns behind) :
    (seq Phrase.dayName (star Phrase.furtherDay)).Takes list.text behind [] :=
  (list.first.takes (furtherText list.others ++ behind)).seq
    (takesRow_furtherText spurned list.others).star

theorem AndNext.takes (further : AndNext)
    (stops : behind.head?.any Text.isBlank = false) :
    Phrase.andNextWords.Takes further.text behind [] := by
  apply takes_spelling_inRow further.conjunction
  apply takes_gap_inRow further.gapBetween
  · exact further.next.head_not_blank_append isSmallWord_next _ behind
  · apply takes_spelling_inRow further.next
    exact takes_gap further.gapBehind stops

theorem spurns_andNextWords {period : Period} (spelling : Spelling period.word) (behind : Text) :
    Phrase.andNextWords.Spurns (spelling.text ++ behind) := by
  apply Spurns.inRow_cons
  apply spurns_spelling isSmallWord_and period.isSmallWord
  · cases period <;> decide
  · cases period <;> decide

/-- What is kept of "and next". -/
def keptAndNext (andNext : Option AndNext) : List (Part × Text) :=
  andNext.elim [] fun further => [(.andNext, further.text)]

/-- "And next" is taken if it is there. -/
theorem takes_optional_andNext (andNext : Option AndNext)
    (stops : behind.head?.any Text.isBlank = false) (spurned : Phrase.andNextWords.Spurns behind) :
    (opt (group .andNext Phrase.andNextWords)).Takes (andNext.elim [] AndNext.text) behind
      (keptAndNext andNext) := by
  cases andNext with
  | none =>
      have spurnedGroup : (group .andNext Phrase.andNextWords).Spurns ([] ++ behind) :=
        Spurns.group Part.andNext spurned
      exact Takes.altSecond spurnedGroup (takes_empty behind)
  | some further =>
      have kept : (group .andNext Phrase.andNextWords).Takes further.text behind
          [(.andNext, further.text)] :=
        Takes.group Part.andNext (further.takes stops)
      exact Takes.altFirst kept

theorem takes_period {period : Period} (spelling : Spelling period.word) (behind : Text) :
    (wordOf ["week", "month"] : Expr Part).Takes spelling.text behind [] := by
  have isPeriod : period.word ∈ ["week", "month"] := by
    cases period <;> decide
  exact takes_wordOf periods_distinct isPeriod spelling.spells behind

theorem takes_timeframe {timeframe : Timeframe} (spelling : Spelling timeframe.word)
    (behind : Text) : (wordOf ["this", "next"] : Expr Part).Takes spelling.text behind [] := by
  have isTimeframe : timeframe.word ∈ ["this", "next"] := by
    cases timeframe <;> decide
  exact takes_wordOf timeframes_distinct isTimeframe spelling.spells behind

/-- What is kept of a phrase, the last piece first. -/
def EveryDay.kept (phrase : EveryDay) : List (Part × Text) :=
  (.unit, phrase.periodWritten.text) :: keptAndNext phrase.andNext ++
    [(.timeframe, phrase.timeframeWritten.text), (.days, phrase.days.text)]

/-- The end of a phrase, from "and next" on if it is there. -/
theorem EveryDay.takes_end (phrase : EveryDay) (behind : Text) :
    (inRow [opt (group .andNext Phrase.andNextWords), group .unit (wordOf ["week", "month"])]).Takes
      (phrase.andNextText ++ phrase.periodWritten.text) behind
      ((Part.unit, phrase.periodWritten.text) :: keptAndNext phrase.andNext) := by
  have period : (inRow [group Part.unit (wordOf ["week", "month"])]).Takes
      phrase.periodWritten.text behind [(Part.unit, phrase.periodWritten.text)] :=
    Takes.group Part.unit (takes_period phrase.periodWritten behind)
  have andNext := takes_optional_andNext phrase.andNext
    (phrase.periodWritten.head_not_blank phrase.period.isSmallWord behind)
    (spurns_andNextWords phrase.periodWritten behind)
  exact Takes.inRow_cons andNext period

/-- No blank stands where the end of a phrase begins. -/
theorem EveryDay.end_not_blank (phrase : EveryDay) (behind : Text) :
    ((phrase.andNextText ++ phrase.periodWritten.text) ++ behind).head?.any Text.isBlank =
      false := by
  rw [andNextText]
  cases phrase.andNext with
  | none => exact phrase.periodWritten.head_not_blank phrase.period.isSmallWord behind
  | some further =>
      rw [Option.elim_some, AndNext.text, List.append_assoc, List.append_assoc]
      exact further.conjunction.head_not_blank isSmallWord_and _

/-- A phrase is taken as a whole, whatever stands behind it. -/
theorem EveryDay.takes (phrase : EveryDay) (behind : Text) :
    Phrase.everyDayThisNextForm.Takes phrase.text behind phrase.kept := by
  have wordTimeframe := phrase.timeframe.isSmallWord
  have afterTimeframe := takes_gap_inRow phrase.gapBehindTimeframe
    (phrase.end_not_blank behind) (phrase.takes_end behind)
  have timeframe := (Takes.group Part.timeframe
    (takes_timeframe phrase.timeframeWritten _)).inRow_cons afterTimeframe
  have afterDays := takes_gap_inRow phrase.gapBehindDays
    (phrase.timeframeWritten.head_not_blank_append wordTimeframe _ behind) timeframe
  have spurned : Phrase.furtherDay.Spurns ((phrase.gapBehindDays.text ++
      (phrase.timeframeWritten.text ++ (phrase.gapBehindTimeframe.text ++
        (phrase.andNextText ++ phrase.periodWritten.text)))) ++ behind) := by
    rw [List.append_assoc, List.append_assoc]
    exact spurns_furtherDay phrase.gapBehindDays phrase.timeframeWritten _
  have days := (Takes.group Part.days (phrase.days.takes spurned)).inRow_cons afterDays
  have stops : ((phrase.days.text ++ (phrase.gapBehindDays.text ++
      (phrase.timeframeWritten.text ++ (phrase.gapBehindTimeframe.text ++
        (phrase.andNextText ++ phrase.periodWritten.text))))) ++ behind).head?.any Text.isBlank =
      false := by
    rw [DayList.text, List.append_assoc, List.append_assoc]
    exact phrase.days.first.spelling.head_not_blank phrase.days.first.weekday.isSmallWord _
  have whole := takes_spelling_inRow phrase.every (takes_gap_inRow phrase.gapBeforeDays stops days)
  rw [List.append_assoc] at whole
  exact whole

/-- No match begins in front of the phrase, where "every" does not occur. -/
theorem spurns_before_every {front tail : Text}
    (separate : front.getLast?.all Text.isBlank = true)
    (without : ¬ "every".toList <:+: front.map Char.toLower) (proper : tail ≠ [])
    (suffix : tail <:+ front) (behind : Text) :
    Phrase.everyDayThisNextForm.Spurns (tail ++ behind) := by
  have wordEvery : IsSmallWord "every" := by decide
  apply Spurns.inRow_cons
  apply spurns_word
  rw [← Bool.not_eq_true]
  intro spelled
  have begins := Text.prefix_of_spelledAt_plain (by decide) wordEvery.small spelled
  rw [List.map_append] at begins
  rcases List.prefix_or_prefix_of_prefix begins (List.prefix_append _ _) with inside | surplus
  · exact without (inside.isInfix.trans (suffix.map Char.toLower).isInfix)
  · have isLast : front.getLast? = some (tail.getLast proper) := by
      obtain ⟨start, rfl⟩ := suffix
      rw [List.getLast?_append, List.getLast?_eq_some_getLast proper, Option.some_or]
    rw [isLast, Option.all_some] at separate
    have isLetter := wordEvery.small _ (surplus.subset
      (List.mem_map_of_mem (List.getLast_mem proper)))
    rw [Text.isBlank_of_isLower isLetter] at separate
    contradiction

end Taking

namespace EveryDay

/-- Behind a front without "every" the phrase is found as a whole, with its pieces. -/
theorem exists_find (phrase : EveryDay) {front : Text}
    (separate : front.getLast?.all Text.isBlank = true)
    (without : ¬ "every".toList <:+: front.map Char.toLower) (behind : Text) :
    ∃ found, Phrase.everyDayThisNext.find? (front ++ (phrase.text ++ behind)) = some found ∧
      found.start = front.length ∧ found.stop = front.length + phrase.text.length ∧
      found.keptTexts = phrase.kept :=
  Pattern.Expr.search_of_takes
    (fun _ proper suffix => spurns_before_every separate without proper suffix _)
    (phrase.takes behind)

end EveryDay

end Rendezvous
