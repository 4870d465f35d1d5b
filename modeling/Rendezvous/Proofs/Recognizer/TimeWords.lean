import Mathlib.Data.List.TakeWhile
import Rendezvous.Proofs.Pattern.Completeness
import Rendezvous.Proofs.Pattern.Neighbours
import Rendezvous.Recognizer.Extract

/-!
Contract: what in the text of a mention tells of a time.

Owns:
- `Text.IsLedBy`, a time word and the blanks behind it in front of a text, with
  `Text.stop_of_leadingTimeWord` and `Text.IsLedBy.exists_match`: the matcher finds just these;
- `Text.StatesTime`, a time stated by the clock, with `Text.occursIn_statedTime_iff`.
-/

namespace Rendezvous.Text

open Pattern Pattern.Expr

/-! ## A time word in front -/

/-- A time word and all the blanks behind it stand in front of the rest of a text. -/
structure IsLedBy (text lead rest : Text) : Prop where
  whole : text = lead ++ rest
  opening : ∃ name ∈ timeWords, ∃ word gap, lead = word ++ gap ∧ Stands name.toList word ∧
    gap ≠ [] ∧ ∀ c ∈ gap, isBlank c = true
  stops : rest.head?.any isBlank = false

variable {text lead rest : Text}

theorem dropWhile_of_stops {accepts : Char → Bool} {front behind : Text}
    (inside : ∀ c ∈ front, accepts c = true) (stops : behind.head?.any accepts = false) :
    (front ++ behind).dropWhile accepts = behind := by
  rw [List.dropWhile_append_of_pos inside]
  cases behind with
  | nil => rfl
  | cons c behind => exact List.dropWhile_cons_of_neg (Bool.eq_false_iff.1 stops)

/-- The rest is what is left without the first word and the blanks behind it. -/
theorem IsLedBy.rest_eq (isLed : text.IsLedBy lead rest) :
    rest = (text.dropWhile fun c => !isBlank c).dropWhile isBlank := by
  obtain ⟨rfl, ⟨name, isName, word, gap, rfl, stands, proper, blank⟩, stops⟩ := isLed
  have areWords : ∀ name ∈ timeWords, IsSmallWord name := by
    decide
  have letters := stands.not_blank (areWords name isName)
  have atGap : (gap ++ rest).head?.any (fun c => !isBlank c) = false := by
    obtain ⟨first, others, rfl⟩ := List.exists_cons_of_ne_nil proper
    simpa using blank first List.mem_cons_self
  rw [List.append_assoc, dropWhile_of_stops (by simpa using letters) atGap,
    dropWhile_of_stops blank stops]

theorem IsLedBy.unique {otherLead otherRest : Text} (isLed : text.IsLedBy lead rest)
    (isOther : text.IsLedBy otherLead otherRest) : lead = otherLead ∧ rest = otherRest := by
  have same : rest = otherRest := isLed.rest_eq.trans isOther.rest_eq.symm
  subst same
  exact ⟨List.append_cancel_right (isLed.whole.symm.trans isOther.whole), rfl⟩

theorem IsLedBy.drop_eq (isLed : text.IsLedBy lead rest) : text.drop lead.length = rest := by
  rw [isLed.whole, List.drop_left]

theorem IsLedBy.length_pos (isLed : text.IsLedBy lead rest) : 0 < lead.length := by
  obtain ⟨-, ⟨-, -, word, gap, rfl, -, proper, -⟩, -⟩ := isLed
  rw [List.length_append]
  exact Nat.add_pos_right _ (List.length_pos_of_ne_nil proper)

theorem exists_leadingBlanks (text : Text) :
    ∃ gap rest, text = gap ++ rest ∧ (∀ c ∈ gap, isBlank c = true) ∧
      rest.head?.any isBlank = false := by
  refine ⟨text.takeWhile isBlank, text.dropWhile isBlank, List.takeWhile_append_dropWhile.symm,
    fun c => List.mem_takeWhile_imp, ?_⟩
  have notBlank := List.head?_dropWhile_not isBlank text
  cases stands : (text.dropWhile isBlank).head? with
  | none => rfl
  | some c => simpa [stands] using notBlank

theorem IsLedBy.exists_match (isLed : text.IsLedBy lead rest) :
    ∃ found, leadingTimeWord.matchStart? text = some found := by
  obtain ⟨rfl, ⟨name, isName, word, gap, rfl, stands, proper, blank⟩, -⟩ := isLed
  rw [← Option.isSome_iff_exists, matchStart?, matchAt?_isSome_iff]
  have fits : (inRow [.wordOf timeWords, .blanks] : Expr Unit).Fits (word ++ gap) :=
    (fits_wordOf isName stands).seq (fits_blanks proper blank)
  obtain ⟨reached, matched, -⟩ := fits (.ofText ((word ++ gap) ++ rest)) rest rfl
  exact ⟨reached, .seq (.atStart rfl) matched⟩

/-- A match in front of a text ends with its lead. -/
theorem stop_of_leadingTimeWord {found : Match Unit}
    (isFound : leadingTimeWord.matchStart? text = some found) :
    ∃ lead rest, text.IsLedBy lead rest ∧ found.stop = lead.length := by
  obtain ⟨result, returned, rfl⟩ := Option.map_eq_some_iff.1 isFound
  rw [leadingTimeWord, run_inRow_cons] at returned
  obtain ⟨start, atStart, continued⟩ := run_sound _ _ _ result returned
  cases atStart
  rw [run_inRow_cons] at continued
  obtain ⟨middle, isWord, continued⟩ := run_sound _ _ _ result continued
  obtain ⟨word, wordSplit, wordPosition⟩ := isWord.exists_piece
  obtain ⟨name, isName, admits⟩ := admits_wordOf ⟨_, _, isWord, wordSplit⟩
  obtain ⟨behind, isGap, -⟩ := run_sound blanks _ _ result continued
  obtain ⟨gap, rest, gapSplit, blank, stops⟩ := exists_leadingBlanks middle.rest
  have proper : gap ≠ [] := by
    rintro rfl
    have blankNext := isGap.rest_any fills_blanks
    rw [gapSplit, List.nil_append, stops] at blankNext
    exact Bool.false_ne_true blankNext
  -- The expression of blanks prefers all of them, so the match ends where the rest begins.
  obtain ⟨reached, prefers, -, reachedPosition, -⟩ :=
    takes_blanks proper blank stops middle gapSplit
  have same : result = reached := Option.some.inj (continued.symm.trans (prefers some reached rfl))
  refine ⟨word ++ gap, rest, ⟨?_, ?_, stops⟩, ?_⟩
  · rw [List.append_assoc, ← gapSplit]
    exact wordSplit
  · exact ⟨name, isName, word, gap, rfl, stands_of_admits_word admits, proper, blank⟩
  · rw [same, reachedPosition, wordPosition, List.length_append]
    exact congrArg (· + gap.length) (Nat.zero_add word.length)

/-! ## Stated times -/

/-- A time stated by the clock, between the text before it and the text behind it.  No word goes on
in front of "at" and on either side of a name. -/
inductive StatedTime (before behind : Text) : Text → Prop where
  /-- "7 pm" -/
  | half {digit : Char} {gap word : Text} {name : String} (digits : isDigit digit = true)
      (blank : ∀ c ∈ gap, isBlank c = true) (isName : name ∈ ["am", "pm", "a.m.", "p.m."])
      (stands : Stands name.toList word) : StatedTime before behind ([digit] ++ (gap ++ word))
  /-- "7:30" -/
  | minutes {hour ten one : Char}
      (digits : isDigit hour = true ∧ isDigit ten = true ∧ isDigit one = true) :
      StatedTime before behind [hour, ':', ten, one]
  /-- "at 7" -/
  | number {word gap : Text} {digit : Char} (free : before.getLast?.any isWordCharacter = false)
      (stands : Stands "at".toList word) (proper : gap ≠ []) (blank : ∀ c ∈ gap, isBlank c = true)
      (digits : isDigit digit = true) : StatedTime before behind (word ++ (gap ++ [digit]))
  /-- "noon" -/
  | twelve {word : Text} {name : String} (free : before.getLast?.any isWordCharacter = false)
      (isName : name ∈ ["noon", "midday", "midnight"]) (stands : Stands name.toList word)
      (freeBehind : behind.head?.any isWordCharacter = false) : StatedTime before behind word
  /-- "o'clock" -/
  | oClock {word : Text} (stands : Stands "o\x27clock".toList word) : StatedTime before behind word

/-- A text states a time by the clock. -/
def StatesTime (text : Text) : Prop :=
  ∃ before piece behind, text = before ++ (piece ++ behind) ∧ StatedTime before behind piece

section StatedTime

variable {place reached : State Unit} {before piece behind : Text}

theorem statedTime_of_admits_half
    (admits : (inRow [.digit, .anyBlanks, .wordOf ["am", "pm", "a.m.", "p.m."]] :
      Expr Unit).Admits piece) : StatedTime before behind piece := by
  obtain ⟨front, back, rfl, admitsDigit, admitsBack⟩ := admits_inRow_cons admits
  obtain ⟨digit, rfl, digits⟩ := admits_char admitsDigit
  obtain ⟨gap, word, rfl, admitsGap, admitsWord⟩ := admits_inRow_cons admitsBack
  obtain ⟨name, isName, admitsName⟩ := admits_wordOf admitsWord
  exact .half digits (admits_star_char admitsGap) isName (stands_of_admits_word admitsName)

theorem statedTime_of_admits_minutes
    (admits : (inRow [.digit, .letter ':', .digit, .digit] : Expr Unit).Admits piece) :
    StatedTime before behind piece := by
  obtain ⟨front, back, rfl, admitsHour, admitsBack⟩ := admits_inRow_cons admits
  obtain ⟨front, back, rfl, admitsColon, admitsBack⟩ := admits_inRow_cons admitsBack
  obtain ⟨front, back, rfl, admitsTen, admitsOne⟩ := admits_inRow_cons admitsBack
  obtain ⟨hour, rfl, isHour⟩ := admits_char admitsHour
  obtain ⟨colon, rfl, isColon⟩ := admits_char admitsColon
  obtain ⟨ten, rfl, isTen⟩ := admits_char admitsTen
  obtain ⟨one, rfl, isOne⟩ := admits_char admitsOne
  obtain rfl := eq_of_sameLetter_sign (by decide) isColon
  exact .minutes ⟨isHour, isTen, isOne⟩

theorem statedTime_of_admits_number (free : before.getLast?.any isWordCharacter = false)
    (admits : (inRow [.word "at", .blanks, .digit] : Expr Unit).Admits piece) :
    StatedTime before behind piece := by
  obtain ⟨word, back, rfl, admitsWord, admitsBack⟩ := admits_inRow_cons admits
  obtain ⟨gap, front, rfl, admitsGap, admitsDigit⟩ := admits_inRow_cons admitsBack
  obtain ⟨digit, rfl, digits⟩ := admits_char admitsDigit
  exact .number free (stands_of_admits_word admitsWord) (fills_blanks gap admitsGap).1
    (admits_blanks admitsGap) digits

/-- What the expression matches is a stated time. -/
theorem statedTime_of_matches (matched : Matches statedTime place reached) (isIn : place.IsIn text)
    (split : place.rest = piece ++ reached.rest) :
    StatedTime (text.take place.position) reached.rest piece := by
  obtain ⟨form, isForm, matchedForm⟩ := matches_choice_iff.1 matched
  simp only [List.mem_cons, List.not_mem_nil, or_false] at isForm
  rcases isForm with rfl | rfl | rfl | rfl | rfl
  · exact statedTime_of_admits_half ⟨place, reached, matchedForm, split⟩
  · exact statedTime_of_admits_minutes ⟨place, reached, matchedForm, split⟩
  · obtain ⟨middle, atBoundary, row⟩ := matchedForm.inRow_cons
    obtain ⟨rfl, edge⟩ := atBoundary.boundary_cases isIn
    obtain ⟨behindWord, isWord, -⟩ := row.inRow_cons
    rw [isIn.beginsWordAt, isWord.rest_any (fills_word (by decide))] at edge
    exact statedTime_of_admits_number edge ⟨middle, reached, row, split⟩
  · obtain ⟨middle, atBoundary, row⟩ := matchedForm.inRow_cons
    obtain ⟨rfl, edge⟩ := atBoundary.boundary_cases isIn
    obtain ⟨behindWord, isWord, atEnd⟩ := row.inRow_cons
    have inWord := isWord.isIn isIn
    obtain ⟨rfl, edgeBehind⟩ := Matches.boundary_cases atEnd inWord
    have fills : (wordOf ["noon", "midday", "midnight"] : Expr Unit).Fills isWordCharacter :=
      fills_wordOf (by decide)
    rw [isIn.beginsWordAt, isWord.rest_any fills] at edge
    rw [inWord.endsWordAt, inWord.beginsWordAt, isWord.previous_any fills isIn] at edgeBehind
    obtain ⟨name, isName, admits⟩ := admits_wordOf ⟨_, _, isWord, split⟩
    exact .twelve edge isName (stands_of_admits_word admits)
      (Bool.not_eq_true' _ ▸ edgeBehind.symm)
  · exact .oClock (stands_of_admits_word ⟨place, reached, matchedForm, split⟩)

/-- Between a word and something else there is a boundary. -/
theorem matches_boundary {before after : Bool} (isBefore : place.previous.any isWordCharacter = before)
    (isAfter : place.rest.head?.any isWordCharacter = after) (differ : before ≠ after) :
    Matches (.boundary : Expr Unit) place place := by
  apply Matches.boundary
  rw [State.isBoundary, isBefore, isAfter]
  exact bne_iff_ne.2 differ

/-- A stated time is matched where it stands. -/
theorem StatedTime.exists_matches (stated : StatedTime before behind piece)
    (isIn : place.IsIn (before ++ (piece ++ behind))) (atPiece : place.position = before.length) :
    ∃ reached, Matches statedTime place reached := by
  have previous : place.previous = before.getLast? := by
    rw [isIn.previous, atPiece, List.take_left]
  have rest : place.rest = piece ++ behind := by
    rw [isIn.rest, atPiece, List.drop_left]
  cases stated with
  | @half digit gap word name digits blank isName stands =>
      have fits : (inRow [.digit, .anyBlanks, .wordOf ["am", "pm", "a.m.", "p.m."]] :
          Expr Unit).Fits ([digit] ++ (gap ++ word)) :=
        (fits_char digits).seq ((fits_star_char blank).seq (fits_wordOf isName stands))
      obtain ⟨reached, matched, -⟩ := fits place behind rest
      exact ⟨reached, matches_choice_iff.2 ⟨_, .head _, matched⟩⟩
  | @minutes hour ten one digits =>
      obtain ⟨isHour, isTen, isOne⟩ := digits
      have fits : (inRow [.digit, .letter ':', .digit, .digit] : Expr Unit).Fits
          ([hour] ++ ([':'] ++ ([ten] ++ [one]))) :=
        (fits_char isHour).seq ((fits_char rfl).seq ((fits_char isTen).seq (fits_char isOne)))
      obtain ⟨reached, matched, -⟩ := fits place behind rest
      exact ⟨reached, matches_choice_iff.2 ⟨_, .tail _ (.head _), matched⟩⟩
  | @number word gap digit free stands proper blank digits =>
      have fits : (inRow [.word "at", .blanks, .digit] : Expr Unit).Fits
          (word ++ (gap ++ [digit])) :=
        (fits_word stands).seq ((fits_blanks proper blank).seq (fits_char digits))
      obtain ⟨reached, matched, -⟩ := fits place behind rest
      obtain ⟨middle, isWord, -⟩ := matched.inRow_cons
      have edge : Matches (.boundary : Expr Unit) place place :=
        matches_boundary (previous ▸ free) (isWord.rest_any (fills_word (by decide))) (by decide)
      exact ⟨reached, matches_choice_iff.2
        ⟨_, .tail _ (.tail _ (.head _)), .seq edge matched⟩⟩
  | @twelve word name free isName stands freeBehind =>
      have fills : (wordOf ["noon", "midday", "midnight"] : Expr Unit).Fills isWordCharacter :=
        fills_wordOf (by decide)
      obtain ⟨reached, isWord, behindWord⟩ := fits_wordOf isName stands place behind rest
      have edge : Matches (.boundary : Expr Unit) place place :=
        matches_boundary (previous ▸ free) (isWord.rest_any fills) (by decide)
      have edgeBehind : Matches (.boundary : Expr Unit) reached reached :=
        matches_boundary (isWord.previous_any fills isIn) (behindWord ▸ freeBehind) (by decide)
      exact ⟨reached, matches_choice_iff.2
        ⟨_, .tail _ (.tail _ (.tail _ (.head _))), .seq edge (.seq isWord edgeBehind)⟩⟩
  | oClock stands =>
      obtain ⟨reached, matched, -⟩ := fits_word stands place behind rest
      exact ⟨reached, matches_choice_iff.2
        ⟨_, .tail _ (.tail _ (.tail _ (.tail _ (.head _)))), matched⟩⟩

end StatedTime

theorem occursIn_statedTime_iff (text : Text) :
    statedTime.occursIn text = true ↔ text.StatesTime := by
  rw [Expr.occursIn_iff]
  constructor
  · rintro ⟨position, -, reached, matched⟩
    obtain ⟨piece, split, -⟩ := matched.exists_piece
    refine ⟨text.take position, piece, reached.rest, ?_, ?_⟩
    · rw [← split]
      exact (List.take_append_drop position text).symm
    · exact statedTime_of_matches matched ⟨rfl, rfl⟩ split
  · rintro ⟨before, piece, behind, rfl, stated⟩
    refine ⟨before.length, by simp, stated.exists_matches ⟨rfl, rfl⟩ rfl⟩

end Rendezvous.Text
