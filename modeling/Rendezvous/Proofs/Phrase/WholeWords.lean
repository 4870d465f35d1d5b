import Rendezvous.Proofs.Pattern.Neighbours
import Rendezvous.Proofs.Phrase.DayKind

/-!
Contract: which phrases and pieces of phrases are whole words of the description.

Owns:
- `Match.CutsNoWord` and `Capture.IsWholeWord`, matches and pieces with no part of a word beside
  them;
- `Phrase.Edges`, what every match of a form has at its ends, and `Phrase.edges_of_find`;
- `Phrase.cutsNoWord_iff`: it is the characters beside the match that tell, except where a form
  of phrases with a month looks at them itself.
-/

namespace Rendezvous

open Pattern

/-- Whether a match begins and ends with its words: no part of a word stands before it if it
begins with one, and none behind it. -/
structure Pattern.Match.CutsNoWord (found : Match Part) (text : Text) : Prop where
  front : text.beginsWordAt found.start = true → text.endsWordAt found.start = false
  back : text.beginsWordAt found.stop = false

/-- Whether a piece has no part of a word on either side. -/
structure Pattern.Capture.IsWholeWord (captured : Capture) (text : Text) : Prop where
  front : text.endsWordAt captured.start = false
  back : text.beginsWordAt captured.stop = false

/-! ## Words -/

theorem fills_dayName : Phrase.dayName.Fills Text.isWordCharacter :=
  Expr.fills_wordOf (by decide)

theorem fills_monthWord : Phrase.monthWord.Fills Text.isWordCharacter :=
  Expr.fills_wordOf (by decide)

/-! ## Beside blanks -/

section Blanks

open Pattern.Expr

variable {place middle reached : State Part} {text : Text}

theorem any_isWordCharacter_of_isBlank {neighbour : Option Char}
    (blank : neighbour.any Text.isBlank = true) :
    neighbour.any Text.isWordCharacter = false := by
  cases neighbour with
  | none => rfl
  | some c => exact Text.isWordCharacter_of_isBlank blank

/-- No word goes on behind a place where blanks stand. -/
theorem not_beginsWordAt_of_blanks (gap : Matches blanks place middle) (isIn : place.IsIn text) :
    text.beginsWordAt place.position = false := by
  rw [isIn.beginsWordAt]
  exact any_isWordCharacter_of_isBlank (gap.rest_any fills_blanks)

theorem not_endsWordAt_of_blanks (gap : Matches blanks place middle) (isIn : place.IsIn text) :
    text.endsWordAt middle.position = false := by
  rw [(gap.isIn isIn).endsWordAt]
  exact any_isWordCharacter_of_isBlank (gap.previous_any fills_blanks isIn)

/-- A piece with no part of a word before it, and where it ends. -/
structure BeginsFreely (captured : Capture) (text : Text) (stop : Nat) : Prop where
  front : text.endsWordAt captured.start = false
  stop : captured.stop = stop

theorem BeginsFreely.isWholeWord_iff {captured : Capture} {stop : Nat}
    (free : BeginsFreely captured text stop) :
    captured.IsWholeWord text ↔ text.beginsWordAt stop = false := by
  constructor
  · intro whole
    exact free.stop ▸ whole.back
  · intro back
    exact ⟨free.front, free.stop ▸ back⟩

theorem exists_capture?_of_free {name : Part} {body : Expr Part}
    (free : text.endsWordAt place.position = false)
    (kept : Matches (.group name body) place reached) :
    ∃ captured, reached.capture? name = some captured ∧
      BeginsFreely captured text reached.position ∧ body.Admits captured.text := by
  obtain ⟨captured, isKept, isStart, isStop, admits⟩ := kept.exists_capture?
  exact ⟨captured, isKept, ⟨isStart ▸ free, isStop⟩, admits⟩

/-- Behind a month a year is kept if there is one, and blanks stand in front of it. -/
theorem optionalYear_cases (matched : Matches Phrase.optionalYear place reached)
    (isIn : place.IsIn text) :
    reached = place ∨
      text.beginsWordAt place.position = false ∧
        ∃ captured, reached.capture? .year = some captured ∧
          BeginsFreely captured text reached.position ∧
          (times 4 digit : Expr Part).Admits captured.text := by
  rcases matched.opt_cases with written | nothing
  · cases written with
    | seq gap kept =>
        exact Or.inr ⟨not_beginsWordAt_of_blanks gap isIn,
          exists_capture?_of_free (not_endsWordAt_of_blanks gap isIn) kept⟩
  · exact Or.inl nothing

end Blanks

/-! ## Months with an optional year -/

/-- What is at the ends of a month and of the year behind it.  The month is bounded where the form
looks at what stands behind it. -/
structure MonthEdges (bounded : Prop) (month? year? : Option Capture) (text : Text) (stop : Nat) :
    Prop where
  back : bounded → year? = none → text.beginsWordAt stop = false
  month : ∀ captured, month? = some captured →
    text.endsWordAt captured.start = false ∧
      (bounded ∨ year?.isSome = true → text.beginsWordAt captured.stop = false) ∧
      (year? = none → captured.stop = stop)
  year : ∀ captured, year? = some captured →
    BeginsFreely captured text stop ∧ (Expr.times 4 .digit : Expr Part).Admits captured.text

section Months

open Pattern.Expr

variable {place beforeMonth behindMonth reached : State Part} {text : Text} {body : Expr Part}
  {bounded : Prop} {captured : Capture} {stop : Nat}

theorem monthEdges_none (notBounded : ¬ bounded) : MonthEdges bounded none none text stop where
  back := fun isBounded _ => absurd isBounded notBounded
  month := fun _ isMonth => nomatch isMonth
  year := fun _ isYear => nomatch isYear

theorem monthEdges_without_year (free : BeginsFreely captured text stop)
    (isBounded : bounded → text.beginsWordAt stop = false) :
    MonthEdges bounded (some captured) none text stop where
  back := fun here _ => isBounded here
  month := by
    rintro _ ⟨⟩
    refine ⟨free.front, ?_, fun _ => free.stop⟩
    rintro (here | isSome)
    · exact free.stop ▸ isBounded here
    · contradiction
  year := fun _ isYear => nomatch isYear

theorem monthEdges_with_year {digits : Capture} {behind : Nat}
    (free : BeginsFreely captured text behind) (notCut : text.beginsWordAt behind = false)
    (yearFree : BeginsFreely digits text stop)
    (admits : (times 4 digit : Expr Part).Admits digits.text) :
    MonthEdges bounded (some captured) (some digits) text stop where
  back := fun _ noYear => nomatch noYear
  month := by
    rintro _ ⟨⟩
    exact ⟨free.front, fun _ => free.stop ▸ notCut, fun noYear => nomatch noYear⟩
  year := by
    rintro _ ⟨⟩
    exact ⟨yearFree, admits⟩

theorem monthEdges_of_matches (gap : Matches blanks place beforeMonth)
    (month : Matches (.group .month body) beforeMonth behindMonth)
    (year : Matches Phrase.optionalYear behindMonth reached) (isIn : place.IsIn text)
    (noYear : behindMonth.capture? .year = none)
    (isBounded : bounded → text.beginsWordAt behindMonth.position = false) :
    MonthEdges bounded (reached.capture? .month) (reached.capture? .year) text
      reached.position := by
  obtain ⟨kept, isKept, free, -⟩ :=
    exists_capture?_of_free (not_endsWordAt_of_blanks gap isIn) month
  rw [year.capture?_of_lacks (by decide), isKept]
  rcases optionalYear_cases year (month.isIn (gap.isIn isIn)) with
    rfl | ⟨notCut, digits, isYear, yearFree, admits⟩
  · rw [noYear]
    exact monthEdges_without_year free isBounded
  · rw [isYear]
    exact monthEdges_with_year free notCut yearFree admits

end Months

/-! ## The forms -/

namespace Phrase

open Pattern.Expr

/-- What is at the ends of a match of a form and of the pieces that it keeps.  Phrases such as
"fridays in january" look at the characters beside the first word and the month. -/
structure Edges (phrase : Phrase) (found : Match Part) (text : Text) : Prop
    extends MonthEdges (phrase = .pluralDaysInMonth) (found.capture? .month)
      (found.capture? .year) text found.stop where
  begins : text.beginsWordAt found.start = true
  front : phrase = .pluralDaysInMonth → text.endsWordAt found.start = false
  count : ∀ captured, found.capture? .count = some captured → captured.IsWholeWord text
  unit : ∀ captured, found.capture? .unit = some captured → BeginsFreely captured text found.stop

variable {text : Text} {found : Match Part} {place reached : State Part}

/-- A match begins with its first word. -/
theorem beginsWordAt_of_word {name : String} {others : List (Expr Part)}
    (isWord : IsSmallWord name) (matched : Matches (inRow (.word name :: others)) place reached)
    (isIn : place.IsIn text) : text.beginsWordAt place.position = true := by
  obtain ⟨behindWord, word, -⟩ := matched.inRow_cons
  rw [isIn.beginsWordAt]
  exact word.rest_any (fills_word isWord)

/-- "weekends for the next" -/
def weekendsNextOpening : List (Expr Part) :=
  [.word "weekend", .opt (.letter 's'), .blanks, .wordOf ["for", "over"], .blanks,
    .opt (.seq (.word "the") .blanks), .word "next"]

theorem edges_weekendsNext (isFound : weekendsNext.find? text = some found) :
    weekendsNext.Edges found text := by
  have noMonth := capture?_of_search isFound (by decide : weekendsNextForm.Lacks .month)
  have noYear := capture?_of_search isFound (by decide : weekendsNextForm.Lacks .year)
  obtain ⟨place, reached, isIn, -, matched, rfl⟩ := search_sound isFound
  have row : Matches (inRow (weekendsNextOpening ++
      [.blanks, .group .count (.plus .digit), .blanks, .group .unit unitOrUnits])) place reached :=
    matched
  obtain ⟨behindNext, opening, row⟩ := row.inRow_append
  obtain ⟨beforeCount, gap, row⟩ := row.inRow_cons
  obtain ⟨behindCount, count, row⟩ := row.inRow_cons
  obtain ⟨beforeUnit, gapBehind, unit⟩ := row.inRow_cons
  have inNext := opening.isIn isIn
  have inCount := count.isIn (gap.isIn inNext)
  obtain ⟨number, isNumber, numberFree, -⟩ :=
    exists_capture?_of_free (not_endsWordAt_of_blanks gap inNext) count
  obtain ⟨word, isWord, wordFree, -⟩ :=
    exists_capture?_of_free (not_endsWordAt_of_blanks gapBehind inCount) unit
  have sameNumber : reached.capture? .count = some number :=
    (unit.capture?_of_lacks (by decide)).trans
      ((gapBehind.capture?_of_lacks (by decide)).trans isNumber)
  exact {
    toMonthEdges := by
      rw [noMonth, noYear]
      exact monthEdges_none (by decide)
    begins := beginsWordAt_of_word isSmallWord_weekend matched isIn
    front := fun isPlural => absurd isPlural (by decide)
    count := fun captured isCount => by
      obtain rfl := Option.some.inj (sameNumber.symm.trans isCount)
      exact numberFree.isWholeWord_iff.2 (not_beginsWordAt_of_blanks gapBehind inCount)
    unit := fun captured isUnit => by
      obtain rfl := Option.some.inj (isWord.symm.trans isUnit)
      exact wordFree }

/-- "every friday this" -/
def everyDayThisNextOpening : List (Expr Part) :=
  [.word "every", .blanks, .group .days (.seq dayName (.star furtherDay)), .blanks,
    .group .timeframe (.wordOf ["this", "next"])]

/-- Blanks stand before the unit, with or without "and next". -/
theorem not_endsWordAt_of_andNext {middle : State Part} (gap : Matches blanks place middle)
    (further : Matches (.opt (.group .andNext andNextWords)) middle reached)
    (isIn : place.IsIn text) : text.endsWordAt reached.position = false := by
  rcases further.opt_cases with kept | rfl
  · cases kept with
    | group inside =>
        have row : Matches (inRow ([.word "and", .blanks, .word "next"] ++ [.blanks])) _ _ := inside
        obtain ⟨behindNext, words, gapBehind⟩ := row.inRow_append
        have free := not_endsWordAt_of_blanks gapBehind (words.isIn (gap.isIn isIn))
        exact free
  · exact not_endsWordAt_of_blanks gap isIn

theorem edges_everyDayThisNext (isFound : everyDayThisNext.find? text = some found) :
    everyDayThisNext.Edges found text := by
  have noMonth := capture?_of_search isFound (by decide : everyDayThisNextForm.Lacks .month)
  have noYear := capture?_of_search isFound (by decide : everyDayThisNextForm.Lacks .year)
  have noCount := capture?_of_search isFound (by decide : everyDayThisNextForm.Lacks .count)
  obtain ⟨place, reached, isIn, -, matched, rfl⟩ := search_sound isFound
  have row : Matches (inRow (everyDayThisNextOpening ++
      [.blanks, .opt (.group .andNext andNextWords), .group .unit (.wordOf ["week", "month"])]))
      place reached := matched
  obtain ⟨behindThis, opening, row⟩ := row.inRow_append
  obtain ⟨behindGap, gap, row⟩ := row.inRow_cons
  obtain ⟨beforeUnit, further, unit⟩ := row.inRow_cons
  obtain ⟨word, isWord, wordFree, -⟩ := exists_capture?_of_free
    (not_endsWordAt_of_andNext gap further (opening.isIn isIn)) unit
  exact {
    toMonthEdges := by
      rw [noMonth, noYear]
      exact monthEdges_none (by decide)
    begins := beginsWordAt_of_word (by decide) matched isIn
    front := fun isPlural => absurd isPlural (by decide)
    count := fun captured isCount => by
      rw [noCount] at isCount
      cases isCount
    unit := fun captured isUnit => by
      obtain rfl := Option.some.inj (isWord.symm.trans isUnit)
      exact wordFree }

/-- "every weekend in" -/
def everyInMonthOpening : List (Expr Part) :=
  [.word "every", .blanks, .group .kind everyKind, .opt (.letter 's'), .blanks, .word "in"]

theorem edges_everyInMonth (isFound : everyInMonth.find? text = some found) :
    everyInMonth.Edges found text := by
  have noCount := capture?_of_search isFound (by decide : everyInMonthForm.Lacks .count)
  have noUnit := capture?_of_search isFound (by decide : everyInMonthForm.Lacks .unit)
  obtain ⟨place, reached, isIn, noCaptures, matched, rfl⟩ := search_sound isFound
  have row : Matches (inRow (everyInMonthOpening ++
      [.blanks, .group .month (.plus (.char Text.isLetterLike)), optionalYear])) place reached :=
    matched
  obtain ⟨behindIn, opening, row⟩ := row.inRow_append
  obtain ⟨beforeMonth, gap, row⟩ := row.inRow_cons
  obtain ⟨behindMonth, month, year⟩ := row.inRow_cons
  have noYear : behindMonth.capture? .year = none := by
    rw [month.capture?_of_lacks (by decide), gap.capture?_of_lacks (by decide),
      opening.capture?_of_lacks (by decide), State.capture?, noCaptures]
    rfl
  exact {
    toMonthEdges := monthEdges_of_matches gap month year (opening.isIn isIn) noYear
      fun isPlural => absurd isPlural (by decide)
    begins := beginsWordAt_of_word (by decide) matched isIn
    front := fun isPlural => absurd isPlural (by decide)
    count := fun captured isCount => by
      rw [noCount] at isCount
      cases isCount
    unit := fun captured isUnit => by
      rw [noUnit] at isUnit
      cases isUnit }

/-- "fridays in", with no part of a word before it -/
def pluralDaysOpening : List (Expr Part) :=
  [.boundary, .group .kind (listOf dayNames), .blanks, .word "in"]

theorem edges_pluralDaysInMonth (isFound : pluralDaysInMonth.find? text = some found) :
    pluralDaysInMonth.Edges found text := by
  have noCount := capture?_of_search isFound (by decide : pluralDaysInMonthForm.Lacks .count)
  have noUnit := capture?_of_search isFound (by decide : pluralDaysInMonthForm.Lacks .unit)
  obtain ⟨place, reached, isIn, noCaptures, matched, rfl⟩ := search_sound isFound
  have row : Matches (inRow (pluralDaysOpening ++
      [.blanks, .group .month monthWord, .boundary, optionalYear])) place reached := matched
  obtain ⟨behindIn, opening, row⟩ := row.inRow_append
  obtain ⟨beforeMonth, gap, row⟩ := row.inRow_cons
  obtain ⟨behindMonth, month, row⟩ := row.inRow_cons
  obtain ⟨beforeYear, behindBoundary, year⟩ := row.inRow_cons
  obtain ⟨atStart, startBoundary, rest⟩ := opening.inRow_cons
  obtain ⟨behindKind, kind, -⟩ := rest.inRow_cons
  have inMonth := month.isIn (gap.isIn (opening.isIn isIn))
  obtain ⟨rfl, startEdge⟩ := startBoundary.boundary_cases isIn
  obtain ⟨rfl, monthEdge⟩ := behindBoundary.boundary_cases inMonth
  have begins : text.beginsWordAt atStart.position = true := by
    cases kind with
    | group list =>
        cases list with
        | seq entry _ =>
            cases entry with
            | seq day _ =>
                rw [isIn.beginsWordAt]
                exact day.rest_any fills_dayName
  have ends : text.endsWordAt beforeYear.position = true := by
    cases month with
    | group name =>
        rw [inMonth.endsWordAt]
        exact name.previous_any fills_monthWord (gap.isIn (opening.isIn isIn))
  have noYear : beforeYear.capture? .year = none := by
    rw [month.capture?_of_lacks (by decide), gap.capture?_of_lacks (by decide),
      opening.capture?_of_lacks (by decide), State.capture?, noCaptures]
    rfl
  exact {
    toMonthEdges := monthEdges_of_matches gap month year (opening.isIn isIn) noYear fun _ => by
      rwa [ends, eq_comm, Bool.not_eq_true'] at monthEdge
    begins := begins
    front := fun _ => by rw [startEdge, begins, Bool.not_true]
    count := fun captured isCount => by
      rw [noCount] at isCount
      cases isCount
    unit := fun captured isUnit => by
      rw [noUnit] at isUnit
      cases isUnit }

/-- What every match of a form has at its ends. -/
theorem edges_of_find (phrase : Phrase) (isFound : phrase.find? text = some found) :
    phrase.Edges found text := by
  cases phrase with
  | weekendsNext => exact edges_weekendsNext isFound
  | everyDayThisNext => exact edges_everyDayThisNext isFound
  | everyInMonth => exact edges_everyInMonth isFound
  | pluralDaysInMonth => exact edges_pluralDaysInMonth isFound

/-- A match of a form begins with a word, and it cuts no word in two exactly if no part of a word
stands before it and none behind it, where "fridays in january" sees to both itself, and to what
stands behind it without a year only.  A count is always a whole word.  A unit and a year of four
digits are whole words exactly if nothing of a word stands behind the match, and a month is also one
in front of a year. -/
theorem cutsNoWord_iff (phrase : Phrase) (text : Text) (found : Match Part)
    (isFound : phrase.find? text = some found) :
    text.beginsWordAt found.start = true ∧
    (found.CutsNoWord text ↔
      (phrase = .pluralDaysInMonth ∨ text.endsWordAt found.start = false) ∧
      (phrase = .pluralDaysInMonth ∧ found.capture? .year = none ∨
        text.beginsWordAt found.stop = false)) ∧
    (∀ count, found.capture? .count = some count → count.IsWholeWord text) ∧
    (∀ unit, found.capture? .unit = some unit →
      (unit.IsWholeWord text ↔ text.beginsWordAt found.stop = false)) ∧
    (∀ year, found.capture? .year = some year →
      year.text.length = 4 ∧ (∀ c ∈ year.text, Text.isDigit c = true) ∧
      (year.IsWholeWord text ↔ text.beginsWordAt found.stop = false)) ∧
    ∀ month, found.capture? .month = some month →
      (month.IsWholeWord text ↔ phrase = .pluralDaysInMonth ∨
        (found.capture? .year).isSome = true ∨ text.beginsWordAt found.stop = false) := by
  have edges := phrase.edges_of_find isFound
  refine ⟨edges.begins, ?_, edges.count,
    fun unit isUnit => (edges.unit unit isUnit).isWholeWord_iff, ?_, ?_⟩
  · constructor
    · intro whole
      exact ⟨Or.inr (whole.front edges.begins), Or.inr whole.back⟩
    · rintro ⟨front, back⟩
      refine ⟨fun _ => front.elim edges.front id, ?_⟩
      rcases back with ⟨isPlural, noYear⟩ | free
      · exact edges.back isPlural noYear
      · exact free
  · intro year isYear
    obtain ⟨free, admits⟩ := edges.year year isYear
    obtain ⟨length, digits⟩ := admits_times_char admits
    exact ⟨length, digits, free.isWholeWord_iff⟩
  · intro month isMonth
    obtain ⟨front, back, isLast⟩ := edges.month month isMonth
    constructor
    · intro whole
      cases year : found.capture? .year with
      | none => exact Or.inr (Or.inr (isLast year ▸ whole.back))
      | some _ => exact Or.inr (Or.inl rfl)
    · intro reasons
      refine ⟨front, ?_⟩
      rcases reasons with isPlural | hasYear | free
      · exact back (Or.inl isPlural)
      · exact back (Or.inr hasYear)
      · cases year : found.capture? .year with
        | none => exact (isLast year).symm ▸ free
        | some _ => exact back (Or.inr (by rw [year]; rfl))

/-- A phrase with a whole year. -/
theorem cutsNoWord_fridaysInJanuary :
    ∃ found year, pluralDaysInMonth.find? "Yoga fridays in january 2026 at 7pm".toList =
        some found ∧ found.CutsNoWord "Yoga fridays in january 2026 at 7pm".toList ∧
      found.capture? .year = some year ∧ year.text = "2026".toList ∧
      year.IsWholeWord "Yoga fridays in january 2026 at 7pm".toList := by
  have pieces : (pluralDaysInMonth.find? "Yoga fridays in january 2026 at 7pm".toList).map
      (fun found => (found.stop, found.capture? .year)) =
        some (28, some ⟨24, 28, "2026".toList⟩) := by
    decide +kernel
  obtain ⟨found, isFound, same⟩ := Option.map_eq_some_iff.1 pieces
  obtain ⟨stop, isYear⟩ := Prod.mk.inj same
  obtain ⟨-, whole, -, -, years, -⟩ := cutsNoWord_iff .pluralDaysInMonth _ found isFound
  have free : Text.beginsWordAt "Yoga fridays in january 2026 at 7pm".toList found.stop =
      false := by
    rw [stop]
    decide +kernel
  exact ⟨found, _, isFound, whole.2 ⟨Or.inl rfl, Or.inr free⟩, isYear, rfl,
    (years _ isYear).2.2.2 free⟩

/-- "this weekend" is taken for a week, and "1030am" for a year. -/
theorem cutsWord_weekend :
    (∃ found, everyDayThisNext.find? "every friday this weekend".toList = some found ∧
      found.textOf .unit = "week".toList ∧
      ¬ found.CutsNoWord "every friday this weekend".toList) ∧
    ∃ found, pluralDaysInMonth.find? "fridays in january 1030am".toList = some found ∧
      found.textOf .year = "1030".toList ∧
      ¬ found.CutsNoWord "fridays in january 1030am".toList := by
  have week : (everyDayThisNext.find? "every friday this weekend".toList).map
      (fun found => (found.stop, found.textOf .unit)) = some (22, "week".toList) := by
    decide +kernel
  have year : (pluralDaysInMonth.find? "fridays in january 1030am".toList).map
      (fun found => (found.stop, found.textOf .year)) = some (23, "1030".toList) := by
    decide +kernel
  obtain ⟨weekFound, isWeek, sameWeek⟩ := Option.map_eq_some_iff.1 week
  obtain ⟨yearFound, isYear, sameYear⟩ := Option.map_eq_some_iff.1 year
  obtain ⟨weekStop, unit⟩ := Prod.mk.inj sameWeek
  obtain ⟨yearStop, digits⟩ := Prod.mk.inj sameYear
  refine ⟨⟨weekFound, isWeek, unit, fun whole => ?_⟩, ⟨yearFound, isYear, digits, fun whole => ?_⟩⟩
  · have goesOn : Text.beginsWordAt "every friday this weekend".toList 22 = true := by
      decide +kernel
    rw [← weekStop, whole.back] at goesOn
    exact Bool.false_ne_true goesOn
  · have goesOn : Text.beginsWordAt "fridays in january 1030am".toList 23 = true := by
      decide +kernel
    rw [← yearStop, whole.back] at goesOn
    exact Bool.false_ne_true goesOn

end Phrase

end Rendezvous
