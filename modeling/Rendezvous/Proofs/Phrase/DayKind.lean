import Rendezvous.Proofs.Phrase.EveryDay

/-!
Contract: the kinds of days that a phrase with a month can name, as they are written.

Owns:
- `DayKind`, weekends, workdays, all days, or a list of weekdays with any separators and plurals;
- `Separator.exists_of_admits`: the expressions of lists admit no other separators.

Does not own: the weekdays that are read off such a kind.
-/

namespace Rendezvous

/-- Blanks, possibly none. -/
structure Blanks where
  text : Text
  blank : text.isAllBlank = true

theorem isAllBlank_nil : Text.isAllBlank [] = true :=
  rfl

/-- No blanks at all. -/
def Blanks.none : Blanks := ⟨[], isAllBlank_nil⟩

/-- A single space. -/
def Blanks.space : Blanks := ⟨[' '], isAllBlank_space⟩

/-- What stands between two weekdays of a list. -/
inductive Separator where
  | commaAnd (before between : Blanks) (conjunction : Spelling "and") (behind : Gap)
  | comma (before behind : Blanks)
  | andAlone (before : Gap) (conjunction : Spelling "and") (behind : Gap)
  | ampersand (before behind : Blanks)

/-- A weekday of a list, or several of them. -/
structure ListedDay where
  day : WrittenDay
  plural : Option (Spelling "s")

/-- A weekday behind another one, with what separates them. -/
structure FurtherListed where
  separator : Separator
  listed : ListedDay

/-- The days that a phrase with a month names. -/
inductive DayKind where
  | weekend (written : Spelling "weekend")
  | workday (written : Spelling "weekday")
  | everyDay (written : Spelling "day")
  | list (first : ListedDay) (others : List FurtherListed)

def Separator.text : Separator → Text
  | commaAnd before between conjunction behind =>
      before.text ++ (',' :: (between.text ++ (conjunction.text ++ behind.text)))
  | comma before behind => before.text ++ (',' :: behind.text)
  | andAlone before conjunction behind => before.text ++ (conjunction.text ++ behind.text)
  | ampersand before behind => before.text ++ ('&' :: behind.text)

def ListedDay.text (listed : ListedDay) : Text :=
  listed.day.spelling.text ++ listed.plural.elim [] Spelling.text

def FurtherListed.text (further : FurtherListed) : Text :=
  further.separator.text ++ further.listed.text

namespace DayKind

def text : DayKind → Text
  | weekend written => written.text
  | workday written => written.text
  | everyDay written => written.text
  | list first others => first.text ++ others.flatMap FurtherListed.text

/-- Whether a kind has a weekday. -/
def Selects : DayKind → Weekday → Prop
  | weekend _, weekday => weekday.val = 6 ∨ weekday.val = 0
  | workday _, weekday => weekday.val ≠ 6 ∧ weekday.val ≠ 0
  | everyDay _, _ => True
  | list first others, weekday =>
      weekday = first.day.weekday ∨ ∃ further ∈ others, weekday = further.listed.day.weekday

end DayKind

/-! ## What the expressions admit -/

section Admitting

open Pattern Pattern.Expr

variable {piece : Text}

theorem isSmallWord_weekday : IsSmallWord "weekday" := by
  decide

theorem isSmallWord_day : IsSmallWord "day" := by
  decide

theorem exists_gap (admits : (blanks : Expr Part).Admits piece) : ∃ gap : Gap, gap.text = piece := by
  have blank := List.all_eq_true.2 (admits_blanks admits)
  obtain ⟨front, back, split, admitsFirst, -⟩ := admits_seq admits
  obtain ⟨c, rfl, -⟩ := admits_char admitsFirst
  have proper : piece ≠ [] := by
    rw [split]
    exact List.cons_ne_nil c back
  exact ⟨⟨piece, proper, blank⟩, rfl⟩

theorem exists_blanks (admits : (anyBlanks : Expr Part).Admits piece) :
    ∃ blanks : Blanks, blanks.text = piece :=
  ⟨⟨piece, List.all_eq_true.2 (admits_star_char admits)⟩, rfl⟩

/-- For a sign nothing but itself stands. -/
theorem eq_of_admits_sign {sign : Char} (isSign : sign = ',' ∨ sign = '&')
    (admits : (letter sign : Expr Part).Admits piece) : piece = [sign] := by
  obtain ⟨c, rfl, same⟩ := admits_char admits
  have notLetter : sign ≠ 's' ∧ sign ≠ 'k' ∧ sign ≠ 'i' ∧ sign.toNat < 65 := by
    rcases isSign with rfl | rfl <;> decide
  obtain ⟨notS, notK, notI, small⟩ := notLetter
  simp only [Text.sameLetter, notS, notK, notI, Bool.or_eq_true, beq_iff_eq, Bool.and_eq_true,
    false_and, or_false] at same
  rcases same with itself | lower
  · rw [itself]
  · have number := Text.toNat_toLower c
    rw [lower] at number
    split at number
    next => omega
    next => rw [Text.eq_of_toNat_eq number]

theorem exists_conjunction_gap (admits : (inRow [word "and", blanks] : Expr Part).Admits piece) :
    ∃ (conjunction : Spelling "and") (gap : Gap), piece = conjunction.text ++ gap.text := by
  obtain ⟨front, back, rfl, admitsAnd, admitsBlanks⟩ := admits_inRow_cons admits
  have isAnd := admits_plain_word isSmallWord_and.small (by decide) admitsAnd
  obtain ⟨gap, rfl⟩ := exists_gap admitsBlanks
  exact ⟨⟨front, isAnd⟩, gap, rfl⟩

theorem exists_blanks_sign {sign : Char} (isSign : sign = ',' ∨ sign = '&') {others : List (Expr Part)}
    (admits : (inRow (anyBlanks :: letter sign :: others)).Admits piece) :
    ∃ (before : Blanks) (rest : Text), piece = before.text ++ ([sign] ++ rest) ∧
      (inRow others).Admits rest := by
  obtain ⟨front, back, rfl, admitsBefore, admitsBack⟩ := admits_inRow_cons admits
  obtain ⟨before, rfl⟩ := exists_blanks admitsBefore
  obtain ⟨middle, rest, rfl, admitsSign, admitsRest⟩ := admits_inRow_cons admitsBack
  obtain rfl := eq_of_admits_sign isSign admitsSign
  exact ⟨before, rest, rfl, admitsRest⟩

/-- Whatever separates the weekdays of a list is a separator. -/
theorem Separator.exists_of_admits (admits : Phrase.separator.Admits piece) :
    ∃ separator : Separator, separator.text = piece := by
  obtain ⟨one, member, admitted⟩ := admits_choice admits
  simp only [List.mem_cons, List.not_mem_nil, or_false] at member
  rcases member with rfl | rfl | rfl | rfl
  · obtain ⟨before, back, rfl, admitsBack⟩ := exists_blanks_sign (by decide) admitted
    obtain ⟨front, rest, rfl, admitsBetween, admitsRest⟩ := admits_inRow_cons admitsBack
    obtain ⟨between, rfl⟩ := exists_blanks admitsBetween
    obtain ⟨conjunction, behind, rfl⟩ := exists_conjunction_gap admitsRest
    exact ⟨.commaAnd before between conjunction behind, rfl⟩
  · obtain ⟨before, back, rfl, admitsBack⟩ := exists_blanks_sign (by decide) admitted
    obtain ⟨behind, rfl⟩ := exists_blanks admitsBack
    exact ⟨.comma before behind, rfl⟩
  · obtain ⟨front, back, rfl, admitsBefore, admitsBack⟩ := admits_inRow_cons admitted
    obtain ⟨before, rfl⟩ := exists_gap admitsBefore
    obtain ⟨conjunction, behind, rfl⟩ := exists_conjunction_gap admitsBack
    exact ⟨.andAlone before conjunction behind, rfl⟩
  · obtain ⟨before, back, rfl, admitsBack⟩ := exists_blanks_sign (by decide) admitted
    obtain ⟨behind, rfl⟩ := exists_blanks admitsBack
    exact ⟨.ampersand before behind, rfl⟩

end Admitting

end Rendezvous
