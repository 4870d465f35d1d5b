import Rendezvous.Proofs.Phrase.DayKind
import Rendezvous.Recurrence.Selector

/-!
Contract: what separates the weekdays of a list keeps their names apart.

Owns:
- `Text.IsMark` and `Text.IsPlain`, the characters of separators, and `Text.lower_lower`: plain
  texts have one lower case only;
- `occursIn_append_separator`: no name of a weekday reaches over a separator.
-/

namespace Rendezvous

/-! ## Plain texts -/

namespace Text

/-- A blank, or a sign that separates weekdays. -/
def IsMark (c : Char) : Prop :=
  isBlank c = true ∨ c = ',' ∨ c = '&'

/-- An ASCII letter, or a mark. -/
def IsPlain (c : Char) : Prop :=
  c.toLower.isLower = true ∨ IsMark c

theorem IsMark.lowerCharacter_eq {c : Char} (mark : IsMark c) : lowerCharacter c = [c] := by
  rcases mark with blank | rfl | rfl
  · have whole : lower [c] = [c] := lower_of_isBlank (by simpa using blank)
    rwa [lower, List.flatMap_singleton] at whole
  · decide
  · decide

/-- No mark is a small letter. -/
theorem IsMark.isLower_eq {c : Char} (mark : IsMark c) : c.isLower = false := by
  rcases mark with blank | rfl | rfl
  · rw [← Bool.not_eq_true]
    intro small
    have notBlank := isBlank_of_isLower ((toLower_of_isLower small).symm ▸ small)
    rw [blank] at notBlank
    contradiction
  · decide
  · decide

theorem lower_of_isMark {text : Text} (marks : ∀ c ∈ text, IsMark c) : text.lower = text := by
  induction text with
  | nil => rfl
  | cons c rest inductionHypothesis =>
      rw [lower, List.flatMap_cons, (marks c List.mem_cons_self).lowerCharacter_eq]
      exact congrArg _ (inductionHypothesis fun other member =>
        marks other (List.mem_cons_of_mem _ member))

theorem IsPlain.exists_lower {c : Char} (plain : IsPlain c) :
    ∃ small, lowerCharacter c = [small] ∧ lowerCharacter small = [small] := by
  rcases plain with letter | mark
  · have again : c.toLower.toLower = c.toLower := toLower_of_isLower letter
    refine ⟨c.toLower, lowerCharacter_of_isLower letter, ?_⟩
    rw [lowerCharacter_of_isLower (again.symm ▸ letter), again]
  · exact ⟨c, mark.lowerCharacter_eq, mark.lowerCharacter_eq⟩

theorem lower_lower {text : Text} (plain : ∀ c ∈ text, IsPlain c) :
    text.lower.lower = text.lower := by
  induction text with
  | nil => rfl
  | cons c rest inductionHypothesis =>
      obtain ⟨small, isSmall, again⟩ := (plain c List.mem_cons_self).exists_lower
      have step : lower (c :: rest) = [small] ++ lower rest := by
        rw [lower, List.flatMap_cons, isSmall]
        rfl
      have itself : lower [small] = [small] := by
        rw [lower, List.flatMap_singleton, again]
      rw [step, lower_append, itself,
        inductionHypothesis fun other member => plain other (List.mem_cons_of_mem _ member)]

end Text

theorem Spelling.isPlain {name : String} (isWord : IsSmallWord name) (spelling : Spelling name) :
    ∀ c ∈ spelling.text, Text.IsPlain c :=
  fun _ member => Or.inl (spelling.isLower_toLower isWord member)

theorem Gap.isMark (gap : Gap) : ∀ c ∈ gap.text, Text.IsMark c :=
  fun c member => Or.inl (gap.isBlank_of_mem c member)

theorem Blanks.isMark (blanks : Blanks) : ∀ c ∈ blanks.text, Text.IsMark c :=
  fun c member => Or.inl (List.all_eq_true.1 blanks.blank c member)

/-! ## Separators -/

namespace Separator

/-- The marks that a separator begins with. -/
def marks : Separator → Text
  | commaAnd before between _ _ => before.text ++ [','] ++ between.text
  | comma before behind => before.text ++ [','] ++ behind.text
  | andAlone before _ _ => before.text
  | ampersand before behind => before.text ++ ['&'] ++ behind.text

/-- The word in a separator, with the gap behind it. -/
def word? : Separator → Option (Spelling "and" × Gap)
  | commaAnd _ _ conjunction behind | andAlone _ conjunction behind => some (conjunction, behind)
  | comma _ _ | ampersand _ _ => none

/-- What stands behind the marks. -/
def wordText (separator : Separator) : Text :=
  separator.word?.elim [] fun word => word.1.text ++ word.2.text

theorem text_eq (separator : Separator) : separator.text = separator.marks ++ separator.wordText := by
  cases separator <;> simp [text, marks, wordText, word?]

theorem marks_ne_nil (separator : Separator) : separator.marks ≠ [] := by
  cases separator with
  | andAlone before _ _ => exact before.proper
  | commaAnd | comma | ampersand => simp [marks]

theorem isMark (separator : Separator) : ∀ c ∈ separator.marks, Text.IsMark c := by
  have signed : ∀ (before behind : Blanks) {sign : Char}, (sign = ',' ∨ sign = '&') →
      ∀ c ∈ before.text ++ [sign] ++ behind.text, Text.IsMark c := by
    intro before behind sign isSign c member
    rcases List.mem_append.1 member with front | inBehind
    · rcases List.mem_append.1 front with inBefore | itself
      · exact before.isMark c inBefore
      · exact Or.inr (List.mem_singleton.1 itself ▸ isSign)
    · exact behind.isMark c inBehind
  cases separator with
  | commaAnd before between _ _ => exact signed before between (by decide)
  | comma before behind => exact signed before behind (by decide)
  | andAlone before _ _ => exact before.isMark
  | ampersand before behind => exact signed before behind (by decide)

theorem isPlain (separator : Separator) : ∀ c ∈ separator.text, Text.IsPlain c := by
  intro c member
  rw [text_eq, wordText] at member
  rcases List.mem_append.1 member with inMarks | inWord
  · exact Or.inr (separator.isMark c inMarks)
  · cases isWord : separator.word? with
    | none =>
        rw [isWord] at inWord
        contradiction
    | some word =>
        rw [isWord] at inWord
        rcases List.mem_append.1 inWord with inAnd | inGap
        · exact word.1.isPlain isSmallWord_and c inAnd
        · exact Or.inr (word.2.isMark c inGap)

theorem lower_text (separator : Separator) :
    separator.text.lower = separator.marks ++
      separator.word?.elim [] fun word => "and".toList ++ word.2.text := by
  rw [text_eq, wordText, Text.lower_append, Text.lower_of_isMark separator.isMark]
  cases separator.word? with
  | none => rfl
  | some word =>
      rw [Option.elim_some, Option.elim_some, Text.lower_append,
        word.1.lower_text isSmallWord_and, word.2.lower_text]

end Separator

theorem mention_letters {mention : Text × Int} (isMention : mention ∈ Selector.mentions) :
    mention.1 ≠ [] ∧ (∀ c ∈ mention.1, Text.isBlank c = false) ∧
      mention.1.occursIn "and".toList = false := by
  have all : ∀ mention ∈ Selector.mentions, mention.1 ≠ [] ∧
      mention.1.any Text.isBlank = false ∧ mention.1.occursIn "and".toList = false := by
    decide
  obtain ⟨proper, noBlank, notInAnd⟩ := all mention isMention
  refine ⟨proper, ?_, notInAnd⟩
  intro c inMention
  exact Bool.eq_false_iff.2 (List.any_eq_false.1 noBlank c inMention)

theorem mention_isLower {mention : Text × Int} (isMention : mention ∈ Selector.mentions) :
    ∀ c ∈ mention.1, c.isLower = true := by
  have all : ∀ mention ∈ Selector.mentions, mention.1.all Char.isLower = true := by
    decide
  exact List.all_eq_true.1 (all mention isMention)

/-- A name of a weekday that occurs in two texts with a separator between them occurs in one of
the two. -/
theorem occursIn_append_separator {mention : Text × Int} (isMention : mention ∈ Selector.mentions)
    (separator : Separator) (front back : Text) :
    mention.1.occursIn (front ++ (separator.text.lower ++ back)) =
      (mention.1.occursIn front || mention.1.occursIn back) := by
  obtain ⟨proper, letters, notInAnd⟩ := mention_letters isMention
  have apart : ∀ c ∈ separator.marks, c ∉ mention.1 := by
    intro c inMarks inName
    have notSmall := (separator.isMark c inMarks).isLower_eq
    rw [mention_isLower isMention c inName] at notSmall
    contradiction
  have overMarks : ∀ behind : Text, mention.1.occursIn (front ++ (separator.marks ++ behind)) =
      (mention.1.occursIn front || mention.1.occursIn behind) := by
    intro behind
    rw [Bool.eq_iff_iff, Bool.or_eq_true, Text.occursIn_iff, Text.occursIn_iff, Text.occursIn_iff]
    exact Text.infix_append_gap_iff apart proper separator.marks_ne_nil
  rw [separator.lower_text, List.append_assoc, overMarks]
  cases separator.word? with
  | none => rfl
  | some word =>
      rw [Option.elim_some, List.append_assoc, Text.occursIn_append_blanks letters proper
        word.2.proper word.2.isBlank_of_mem, notInAnd, Bool.false_or]

end Rendezvous
