import Rendezvous.Proofs.Phrase.EveryDay
import Rendezvous.Proofs.Text.Digits

/-!
Contract: phrases such as "weekends for the next 3 months" as they may be written, and how they
are found in a description.

Owns:
- `WeekendsNext`, the pieces of such a phrase with all freedom of letter case, of blanks and of
  the words that may be left out;
- `WeekendsNext.exists_find`: behind a front in which "weekend" is not spelled the phrase is
  found, with its number, whatever stands behind it.

A plural "s" of the unit is what stands behind the phrase.  It is kept with the unit, as any other
character that passes for it is, and means nothing.  Does not own: the days that the phrase means.
-/

namespace Rendezvous

/-- An article in front of a word. -/
structure Article where
  the : Spelling "the"
  gapBehind : Gap

/-- A phrase such as "weekends for the next 3 months", up to the plural of the unit. -/
structure WeekendsNext where
  weekend : Spelling "weekend"
  plural : Option (Spelling "s")
  gapBehindWeekend : Gap
  preposition : String
  isPreposition : preposition ∈ ["for", "over"]
  prepositionWritten : Spelling preposition
  gapBehindPreposition : Gap
  article : Option Article
  next : Spelling "next"
  gapBehindNext : Gap
  digits : Text
  someDigit : digits ≠ []
  areDigits : digits.all Numeral.isAsciiDigit = true
  gapBehindDigits : Gap
  period : Period
  periodWritten : Spelling period.word

def Article.text (article : Article) : Text :=
  article.the.text ++ article.gapBehind.text

namespace WeekendsNext

def pluralText (phrase : WeekendsNext) : Text :=
  phrase.plural.elim [] Spelling.text

def articleText (phrase : WeekendsNext) : Text :=
  phrase.article.elim [] Article.text

/-- A phrase with a unit as given. -/
def textWith (phrase : WeekendsNext) (unit : Text) : Text :=
  phrase.weekend.text ++ (phrase.pluralText ++ (phrase.gapBehindWeekend.text ++
    (phrase.prepositionWritten.text ++ (phrase.gapBehindPreposition.text ++
      (phrase.articleText ++ (phrase.next.text ++ (phrase.gapBehindNext.text ++
        (phrase.digits ++ (phrase.gapBehindDigits.text ++ unit)))))))))

def text (phrase : WeekendsNext) : Text :=
  phrase.textWith phrase.periodWritten.text

/-- How many weeks or months a phrase names. -/
def count (phrase : WeekendsNext) : Nat :=
  Text.digitsValue phrase.digits

theorem textWith_append (phrase : WeekendsNext) (unit behind : Text) :
    phrase.textWith (unit ++ behind) = phrase.textWith unit ++ behind := by
  simp only [textWith, List.append_assoc]

end WeekendsNext

/-! ## The phrase is taken -/

section Taking

open Pattern Pattern.Expr

variable {behind back : Text} {captured : List (Part × Text)}

theorem isSmallWord_the : IsSmallWord "the" := by
  decide

theorem isSmallWord_over : IsSmallWord "over" := by
  decide

namespace WeekendsNext

theorem isSmallWord_preposition (phrase : WeekendsNext) : IsSmallWord phrase.preposition := by
  have all : ∀ preposition ∈ ["for", "over"], IsSmallWord preposition := by
    decide
  exact all phrase.preposition phrase.isPreposition

theorem isAsciiDigit_of_mem (phrase : WeekendsNext) :
    ∀ c ∈ phrase.digits, Numeral.isAsciiDigit c = true :=
  List.all_eq_true.1 phrase.areDigits

private theorem prepositions_distinct : AreDistinct ["for", "over"] where
  small := by decide
  apart := by decide

/-- The plural of the first word is taken if it is there. -/
theorem takes_plural (phrase : WeekendsNext) (gap : Gap) (behind : Text) :
    (opt (letter 's') : Expr Part).Takes phrase.pluralText (gap.text ++ behind) [] := by
  rw [pluralText]
  cases phrase.plural with
  | none =>
      obtain ⟨c, rest, stands, blank⟩ := gap.exists_head
      have refused : (c :: (rest ++ behind)).head?.any (Text.sameLetter 's') = false :=
        Text.sameLetter_of_isBlank (by decide) blank
      rw [stands]
      exact Takes.altSecond (spurns_char refused) (takes_empty _)
  | some spelling => exact (takes_spelling spelling _).altFirst

/-- The article is taken if it is there. -/
theorem takes_article (phrase : WeekendsNext) (next : Spelling "next") (behind : Text) :
    (opt (seq (word "the") blanks) : Expr Part).Takes phrase.articleText (next.text ++ behind)
      [] := by
  rw [articleText]
  cases phrase.article with
  | none =>
      have spurned : (seq (word "the") blanks : Expr Part).Spurns ([] ++ (next.text ++ behind)) :=
        (spurns_spelling isSmallWord_the isSmallWord_next (by decide) (by decide) next
          behind).seq
      exact Takes.altSecond spurned (takes_empty _)
  | some article =>
      have stops := next.head_not_blank isSmallWord_next behind
      exact ((takes_spelling article.the _).seq (takes_gap article.gapBehind stops)).altFirst

/-- No blank stands where an article or the word behind it begins. -/
theorem article_not_blank (phrase : WeekendsNext) (next : Spelling "next") (back behind : Text) :
    ((phrase.articleText ++ (next.text ++ back)) ++ behind).head?.any Text.isBlank = false := by
  rw [articleText]
  cases phrase.article with
  | none => exact next.head_not_blank_append isSmallWord_next back behind
  | some article =>
      rw [Option.elim_some, Article.text, List.append_assoc, List.append_assoc]
      exact article.the.head_not_blank isSmallWord_the _

/-- The number is taken as a whole, since a blank stands behind it. -/
theorem takes_digits (phrase : WeekendsNext) (gap : Gap) (behind : Text) :
    (group .count (plus digit)).Takes phrase.digits (gap.text ++ behind)
      [(Part.count, phrase.digits)] := by
  have stops : (gap.text ++ behind).head?.any Text.isDigit = false := by
    obtain ⟨c, rest, stands, blank⟩ := gap.exists_head
    rw [stands]
    exact Text.isDigit_of_isBlank blank
  exact Takes.group Part.count (takes_plus_char phrase.someDigit
    (fun c member => Text.isDigit_of_isAsciiDigit (phrase.isAsciiDigit_of_mem c member)) stops)

theorem digits_not_blank (phrase : WeekendsNext) (back behind : Text) :
    ((phrase.digits ++ back) ++ behind).head?.any Text.isBlank = false := by
  have areDigits := phrase.isAsciiDigit_of_mem
  cases stands : phrase.digits with
  | nil => exact absurd stands phrase.someDigit
  | cons c rest => exact Text.isBlank_of_isAsciiDigit (areDigits c (stands ▸ List.mem_cons_self))

/-- A unit is taken with a character behind it that passes for a plural. -/
theorem takes_unit {period : Period} (spelling : Spelling period.word) {plural : Text}
    (takesPlural : (opt (letter 's') : Expr Part).Takes plural behind []) :
    Phrase.unitOrUnits.Takes (spelling.text ++ plural) behind [] := by
  cases period with
  | month => exact ((takes_spelling spelling _).seq takesPlural).choice_first
  | week =>
      have spurned : (seq (word "month") (opt (letter 's')) : Expr Part).Spurns
          (spelling.text ++ plural ++ behind) := by
        rw [List.append_assoc]
        exact (spurns_spelling (by decide) (by decide) (by decide) (by decide) spelling _).seq
      exact Takes.choice_later spurned ((takes_spelling spelling _).seq takesPlural)

/-- What is kept of a phrase with a unit as given, the last piece first. -/
def keptWith (phrase : WeekendsNext) (unit : Text) : List (Part × Text) :=
  [(.unit, unit), (.count, phrase.digits)]

/-- A phrase is taken as a whole. -/
theorem takes (phrase : WeekendsNext) {unit : Text}
    (takesUnit : Phrase.unitOrUnits.Takes unit behind [])
    (stops : (unit ++ behind).head?.any Text.isBlank = false) :
    Phrase.weekendsNextForm.Takes (phrase.textWith unit) behind (phrase.keptWith unit) := by
  have unitKept : (inRow [group .unit Phrase.unitOrUnits]).Takes unit behind [(Part.unit, unit)] :=
    Takes.group Part.unit takesUnit
  have afterDigits := takes_gap_inRow phrase.gapBehindDigits stops unitKept
  have digits := phrase.takes_digits phrase.gapBehindDigits (unit ++ behind)
  rw [← List.append_assoc] at digits
  have fromDigits := digits.inRow_cons afterDigits
  have afterNext := takes_gap_inRow phrase.gapBehindNext (phrase.digits_not_blank _ behind)
    fromDigits
  have fromNext := takes_spelling_inRow phrase.next afterNext
  have article := phrase.takes_article phrase.next ((phrase.gapBehindNext.text ++
    (phrase.digits ++ (phrase.gapBehindDigits.text ++ unit))) ++ behind)
  rw [← List.append_assoc] at article
  have fromArticle := article.inRow_cons fromNext
  have afterPreposition := takes_gap_inRow phrase.gapBehindPreposition
    (phrase.article_not_blank phrase.next _ behind) fromArticle
  have fromPreposition := (takes_wordOf prepositions_distinct phrase.isPreposition
    phrase.prepositionWritten.spells _).inRow_cons afterPreposition
  have afterPlural := takes_gap_inRow phrase.gapBehindWeekend
    (phrase.prepositionWritten.head_not_blank_append phrase.isSmallWord_preposition _ behind)
    fromPreposition
  have plural := phrase.takes_plural phrase.gapBehindWeekend ((phrase.prepositionWritten.text ++
    (phrase.gapBehindPreposition.text ++ (phrase.articleText ++ (phrase.next.text ++
      (phrase.gapBehindNext.text ++ (phrase.digits ++ (phrase.gapBehindDigits.text ++ unit)))))))
        ++ behind)
  rw [← List.append_assoc] at plural
  exact takes_spelling_inRow phrase.weekend (plural.inRow_cons afterPlural)

/-- No match begins in front of the phrase, where "weekend" is not spelled: it would have to
reach into the phrase, but "w" is none of its later letters. -/
theorem spurns_before_weekend (phrase : WeekendsNext) {front tail : Text}
    (without : Text.spelledIn "weekend".toList front = false) (proper : tail ≠ [])
    (suffix : tail <:+ front) (unit behind : Text) :
    Phrase.weekendsNextForm.Spurns (tail ++ (phrase.textWith unit ++ behind)) := by
  apply Spurns.inRow_cons
  apply spurns_word
  rw [← Bool.not_eq_true]
  intro spelled
  obtain ⟨c, rest, stands, isFirst⟩ : ∃ c rest, phrase.weekend.text = c :: rest ∧
      c.toLower = 'w' := by
    have spells := phrase.weekend.spells
    cases stands : phrase.weekend.text with
    | nil =>
        rw [stands] at spells
        contradiction
    | cons c rest =>
        rw [stands] at spells
        exact ⟨c, rest, rfl, (List.cons.inj spells).1⟩
  rw [textWith, stands] at spelled
  rcases Text.spelledAt_append_cons spelled with inside | ⟨letter, later, same⟩
  · rw [Text.spelledAt_of_suffix without suffix] at inside
    contradiction
  · have isLater : letter ∈ "eekend".toList := by
      have := List.length_pos_iff.2 proper
      exact List.drop_subset_drop_left _ this later
    have small : letter.isLower = true :=
      isSmallWord_weekend.small letter (List.mem_of_mem_drop later)
    have isLetter : c.toLower.isLower = true := by
      rw [isFirst]
      decide
    have itself := (Text.sameLetter_iff_toLower small isLetter).1 same
    rw [← itself, isFirst] at isLater
    exact absurd isLater (by decide)

/-- Behind a front without "weekend" the phrase is found, with its number and its unit. -/
theorem exists_find (phrase : WeekendsNext) {front : Text}
    (without : Text.spelledIn "weekend".toList front = false) (behind : Text) :
    ∃ found plural, Phrase.weekendsNext.find? (front ++ (phrase.text ++ behind)) = some found ∧
      found.keptTexts = phrase.keptWith (phrase.periodWritten.text ++ plural) := by
  obtain ⟨plural, rest, split, takesPlural⟩ : ∃ plural rest, behind = plural ++ rest ∧
      (opt (letter 's') : Expr Part).Takes plural rest [] :=
    exists_takes_opt_char (Text.sameLetter 's') behind
  have stops := phrase.periodWritten.head_not_blank_append phrase.period.isSmallWord plural rest
  obtain ⟨found, isFound, -, -, kept⟩ := search_of_takes
    (fun _ proper suffix => phrase.spurns_before_weekend without proper suffix _ rest)
    (phrase.takes (takes_unit phrase.periodWritten takesPlural) stops)
  refine ⟨found, plural, ?_, kept⟩
  rw [split, text, ← List.append_assoc _ plural rest, ← textWith_append]
  exact isFound

end WeekendsNext

end Taking

end Rendezvous
