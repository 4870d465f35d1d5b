import Rendezvous.Proofs.Pattern.Preference
import Rendezvous.Proofs.Text.StandIn

/-!
Contract: which texts the expressions of words and of blanks take.

Owns:
- `IsSmallWord`, words in small letters;
- `Text.spelledAt`, whether letters stand where a text begins, in any letter case;
- `takes_word`: a word is taken in any mixture of small and capital letters;
- `spurns_word`, with the usual reasons: another word stands there, or a blank;
- `takes_wordOf`, a word of several ones;
- `takes_plus_char` and `exists_takes_opt_char`: characters with a property, several or at
  most one;
- `Text.spelledIn`, whether letters stand anywhere in a text;
- `stands_of_admits_word`, what a word admits, and `admits_plain_word`: nothing but itself where
  small and capital letters alone stand for its letters;
- `Text.Stands.not_blank` and `Text.Stands.ne_nil`: what stands for a word has no blanks and is not
  empty;
- `Text.Stands.map_toLower`: nor does it in a text whose letters are ASCII letters;
- `takes_blanks` and `spurns_blanks_inRow`: blanks are taken up to the next character
  that is none, so what is spurned there is spurned behind fewer blanks as well.
-/

namespace Rendezvous

/-- Small letters, at least one. -/
structure IsSmallWord (name : String) : Prop where
  proper : name.toList ≠ []
  small : ∀ letter ∈ name.toList, letter.isLower = true

instance (name : String) : Decidable (IsSmallWord name) :=
  decidable_of_iff (name.toList ≠ [] ∧ name.toList.all Char.isLower = true)
    ⟨fun both => ⟨both.1, List.all_eq_true.1 both.2⟩,
      fun word => ⟨word.proper, List.all_eq_true.2 word.small⟩⟩

/-- Whether small letters stand where a text begins, in any letter case. -/
def Text.spelledAt : (letters text : Text) → Bool
  | [], _ => true
  | _ :: _, [] => false
  | letter :: letters, c :: rest => sameLetter letter c && spelledAt letters rest

namespace Text

variable {letters written behind : Text}

/-- In front of letters, only their beginning or a longer word can stand. -/
theorem prefix_of_spelledAt (small : ∀ letter ∈ letters, letter.isLower = true)
    (isWord : ∀ c ∈ written, c.toLower.isLower = true)
    (spelled : spelledAt letters (written ++ behind) = true) :
    letters <+: written.map Char.toLower ∨ written.map Char.toLower <+: letters := by
  induction letters generalizing written with
  | nil => exact Or.inl (List.nil_prefix)
  | cons letter letters inductionHypothesis =>
      cases written with
      | nil => exact Or.inr (List.nil_prefix)
      | cons c rest =>
          rw [List.cons_append, spelledAt, Bool.and_eq_true] at spelled
          have same : c.toLower = letter :=
            (sameLetter_iff_toLower (small letter List.mem_cons_self)
              (isWord c List.mem_cons_self)).1 spelled.1
          rw [List.map_cons, same, List.cons_prefix_cons, List.cons_prefix_cons]
          rcases inductionHypothesis
            (fun other member => small other (List.mem_cons_of_mem _ member))
            (fun other member => isWord other (List.mem_cons_of_mem _ member)) spelled.2 with
            shorter | longer
          · exact Or.inl ⟨rfl, shorter⟩
          · exact Or.inr ⟨rfl, longer⟩

/-- Nothing but small and capital letters stands for any of some letters. -/
def IsUnmistakable (letters : Text) : Prop :=
  ∀ letter ∈ letters, letter ≠ 's' ∧ letter ≠ 'k' ∧ letter ≠ 'i'

instance (letters : Text) : Decidable (IsUnmistakable letters) :=
  List.decidableBAll (fun letter => letter ≠ 's' ∧ letter ≠ 'k' ∧ letter ≠ 'i') letters

theorem toLower_of_unmistakable {letter c : Char} (small : letter.isLower = true)
    (plain : letter ≠ 's' ∧ letter ≠ 'k' ∧ letter ≠ 'i') (same : sameLetter letter c = true) :
    c.toLower = letter := by
  simp only [sameLetter, plain, Bool.or_eq_true, Bool.and_eq_true, beq_iff_eq, false_and,
    or_false] at same
  rcases same with rfl | isLetter
  · exact toLower_of_isLower small
  · exact isLetter

theorem prefix_of_spelledAt_plain {text : Text} (plain : IsUnmistakable letters)
    (small : ∀ letter ∈ letters, letter.isLower = true)
    (spelled : spelledAt letters text = true) : letters <+: text.map Char.toLower := by
  induction letters generalizing text with
  | nil => exact List.nil_prefix
  | cons letter letters inductionHypothesis =>
      cases text with
      | nil => exact absurd spelled Bool.false_ne_true
      | cons c rest =>
          obtain ⟨isPlain, arePlain⟩ := List.forall_mem_cons.1 plain
          obtain ⟨isSmall, areSmall⟩ := List.forall_mem_cons.1 small
          rw [spelledAt, Bool.and_eq_true] at spelled
          rw [List.map_cons, List.cons_prefix_cons]
          exact ⟨(toLower_of_unmistakable isSmall isPlain spelled.1).symm,
            inductionHypothesis arePlain areSmall spelled.2⟩

/-- Whether small letters stand anywhere in a text, in any letter case. -/
def spelledIn (letters : Text) : Text → Bool
  | [] => spelledAt letters []
  | c :: rest => spelledAt letters (c :: rest) || spelledIn letters rest

theorem spelledAt_of_suffix {tail text : Text} (without : spelledIn letters text = false)
    (suffix : tail <:+ text) : spelledAt letters tail = false := by
  induction text with
  | nil =>
      rw [List.suffix_nil.1 suffix]
      exact without
  | cons c rest inductionHypothesis =>
      rw [spelledIn, Bool.or_eq_false_iff] at without
      rcases List.suffix_cons_iff.1 suffix with whole | further
      · exact whole ▸ without.1
      · exact inductionHypothesis without.2 further

/-- Letters that reach beyond a text stand for the character behind it as well. -/
theorem spelledAt_append_cons {text : Text} {c : Char}
    (spelled : spelledAt letters (text ++ c :: behind) = true) :
    spelledAt letters text = true ∨ ∃ letter ∈ letters.drop text.length, sameLetter letter c = true := by
  induction letters generalizing text with
  | nil =>
      left
      cases text <;> rfl
  | cons letter letters inductionHypothesis =>
      cases text with
      | nil =>
          rw [List.nil_append, spelledAt, Bool.and_eq_true] at spelled
          exact Or.inr ⟨letter, List.mem_cons_self, spelled.1⟩
      | cons d text =>
          rw [List.cons_append, spelledAt, Bool.and_eq_true] at spelled
          rcases inductionHypothesis spelled.2 with inside | beyond
          · left
            rw [spelledAt, spelled.1, inside, Bool.and_self]
          · exact Or.inr beyond

/-- Whether all characters that stand for a letter are ASCII letters. -/
def HasAsciiLetters (text : Text) : Prop :=
  ∀ c ∈ text, isLetterLike c = true → c.toNat < 128

instance (text : Text) : Decidable (HasAsciiLetters text) :=
  decidable_of_iff ((text.filter isLetterLike).all fun c => decide (c.toNat < 128)) (by
    simp only [HasAsciiLetters, List.all_eq_true, List.mem_filter, and_imp, decide_eq_true_eq])

theorem HasAsciiLetters.front {front back : Text} (ascii : HasAsciiLetters (front ++ back)) :
    HasAsciiLetters front :=
  fun c member => ascii c (List.mem_append_left back member)

theorem HasAsciiLetters.back {front back : Text} (ascii : HasAsciiLetters (front ++ back)) :
    HasAsciiLetters back :=
  fun c member => ascii c (List.mem_append_right front member)

/-- The letters beyond ASCII that stand for small letters are letters themselves. -/
theorem toLower_of_sameLetter {letter c : Char} (small : letter.isLower = true)
    (ascii : isLetterLike c = true → c.toNat < 128) (same : sameLetter letter c = true) :
    c.toLower = letter := by
  have plain : ∀ other : Char, isLetterLike other = true → 128 ≤ other.toNat →
      (c == other) = false := by
    intro other isLetter far
    rw [beq_eq_false_iff_ne]
    rintro rfl
    have := ascii isLetter
    omega
  rw [sameLetter, plain '\u017f' (by decide) (by decide), plain '\u212a' (by decide) (by decide),
    plain '\u0130' (by decide) (by decide), plain '\u0131' (by decide) (by decide)] at same
  simp only [Bool.and_false, Bool.or_false, Bool.or_eq_true, beq_iff_eq] at same
  rcases same with itself | isSmall
  · rw [itself]
    exact toLower_of_isLower small
  · exact isSmall

theorem Stands.map_toLower (stands : Stands letters written)
    (small : ∀ letter ∈ letters, letter.isLower = true) (ascii : HasAsciiLetters written) :
    written.map Char.toLower = letters := by
  induction stands with
  | nil => rfl
  | cons same _ inductionHypothesis =>
      obtain ⟨isSmall, areSmall⟩ := List.forall_mem_cons.1 small
      obtain ⟨isAscii, areAscii⟩ := List.forall_mem_cons.1 ascii
      rw [List.map_cons, toLower_of_sameLetter isSmall isAscii same,
        inductionHypothesis areSmall areAscii]

theorem Stands.not_blank {name : String} (isWord : IsSmallWord name)
    (stands : Stands name.toList written) : ∀ c ∈ written, isBlank c = false := by
  intro c member
  obtain ⟨letter, isLetter, same⟩ := stands.exists_letter member
  rw [← Bool.not_eq_true]
  intro blank
  rw [sameLetter_of_isBlank (isWord.small letter isLetter) blank] at same
  contradiction

theorem Stands.ne_nil {name : String} (isWord : IsSmallWord name)
    (stands : Stands name.toList written) : written ≠ [] := by
  rintro rfl
  exact isWord.proper (List.forall₂_nil_right_iff.1 stands)

theorem Stands.map_toLower_of_unmistakable (stands : Stands letters written)
    (small : ∀ letter ∈ letters, letter.isLower = true) (plain : IsUnmistakable letters) :
    written.map Char.toLower = letters := by
  induction stands with
  | nil => rfl
  | cons same _ inductionHypothesis =>
      obtain ⟨isSmall, areSmall⟩ := List.forall_mem_cons.1 small
      obtain ⟨isPlain, arePlain⟩ := List.forall_mem_cons.1 plain
      rw [List.map_cons, toLower_of_unmistakable isSmall isPlain same,
        inductionHypothesis areSmall arePlain]

end Text

namespace Pattern.Expr

variable {Name : Type} [DecidableEq Name] {others : List (Expr Name)}
  {letters written gap text behind : Text} {captured : List (Name × Text)}

/-! ## Words -/

theorem takes_letters (spells : written.map Char.toLower = letters) (behind : Text) :
    (inRow (letters.map letter) : Expr Name).Takes written behind [] := by
  subst spells
  induction written with
  | nil => exact takes_empty behind
  | cons c rest inductionHypothesis =>
      exact Takes.inRow_cons (takes_char (Text.sameLetter_toLower c) (rest ++ behind))
        inductionHypothesis

/-- A word is taken in any mixture of small and capital letters. -/
theorem takes_word {name : String} (spells : written.map Char.toLower = name.toList)
    (behind : Text) : (word name : Expr Name).Takes written behind [] :=
  takes_letters spells behind

theorem spurns_letters (refused : Text.spelledAt letters text = false) :
    (inRow (letters.map letter) : Expr Name).Spurns text := by
  induction letters generalizing text with
  | nil => exact absurd refused.symm Bool.false_ne_true
  | cons first letters inductionHypothesis =>
      cases text with
      | nil => exact (spurns_char rfl).inRow_cons
      | cons c rest =>
          by_cases same : Text.sameLetter first c = true
          · have refusedRest : Text.spelledAt letters rest = false := by
              rw [Text.spelledAt, same, Bool.true_and] at refused
              exact refused
            apply spurns_inRow_cons
            intro front back split admits
            obtain ⟨accepted, rfl, -⟩ := admits_char admits
            obtain ⟨-, rfl⟩ := List.cons.inj split
            exact inductionHypothesis refusedRest
          · have refusedHere : (c :: rest).head?.any (Text.sameLetter first) = false :=
              Bool.eq_false_iff.2 same
            exact (spurns_char refusedHere).inRow_cons

theorem spurns_word {name : String} (refused : Text.spelledAt name.toList text = false) :
    (word name : Expr Name).Spurns text :=
  spurns_letters refused

/-- A word is spurned where another one stands, unless one of them begins with the other. -/
theorem spurns_word_of_word {name : String} {other : Text}
    (small : ∀ letter ∈ name.toList, letter.isLower = true)
    (spells : written.map Char.toLower = other) (isWord : ∀ c ∈ other, c.isLower = true)
    (notLonger : ¬ name.toList <+: other) (notShorter : ¬ other <+: name.toList) (behind : Text) :
    (word name : Expr Name).Spurns (written ++ behind) := by
  apply spurns_word
  rw [← Bool.not_eq_true]
  intro spelled
  have letters : ∀ c ∈ written, c.toLower.isLower = true := fun c member =>
    isWord _ (spells ▸ List.mem_map_of_mem member)
  rcases Text.prefix_of_spelledAt small letters spelled with shorter | longer
  · exact notLonger (spells ▸ shorter)
  · exact notShorter (spells ▸ longer)

theorem spurns_letters_of_blank {c : Char} {rest : Text} (proper : letters ≠ [])
    (small : ∀ letter ∈ letters, letter.isLower = true) (blank : Text.isBlank c = true) :
    (inRow (letters.map letter) : Expr Name).Spurns (c :: rest) := by
  cases letters with
  | nil => contradiction
  | cons first letters =>
      apply spurns_letters
      rw [Text.spelledAt, Text.sameLetter_of_isBlank (small first List.mem_cons_self) blank,
        Bool.false_and]

/-- Small words of which none begins with another one. -/
structure AreDistinct (names : List String) : Prop where
  small : ∀ name ∈ names, name.toList.all Char.isLower = true
  apart : ∀ name ∈ names, ∀ other ∈ names, name ≠ other → ¬ name.toList <+: other.toList

theorem AreDistinct.tail {name : String} {names : List String}
    (distinct : AreDistinct (name :: names)) : AreDistinct names where
  small := fun one member => distinct.small one (List.mem_cons_of_mem _ member)
  apart := fun one member other otherMember =>
    distinct.apart one (List.mem_cons_of_mem _ member) other (List.mem_cons_of_mem _ otherMember)

/-- Of distinct words the one that stands there is taken. -/
theorem takes_wordOf {names : List String} {name : String} (distinct : AreDistinct names)
    (member : name ∈ names) (spells : written.map Char.toLower = name.toList) (behind : Text) :
    (wordOf names : Expr Name).Takes written behind [] := by
  induction names with
  | nil => exact absurd member List.not_mem_nil
  | cons first names inductionHypothesis =>
      by_cases same : first = name
      · subst same
        exact (takes_word spells behind).choice_first
      · have later : name ∈ names := (List.mem_cons.1 member).resolve_left (Ne.symm same)
        have isFirst : first ∈ first :: names := List.mem_cons_self
        have spurned : (word first : Expr Name).Spurns (written ++ behind) :=
          spurns_word_of_word (List.all_eq_true.1 (distinct.small first isFirst)) spells
            (List.all_eq_true.1 (distinct.small name member))
            (distinct.apart first isFirst name member same)
            (distinct.apart name member first isFirst (Ne.symm same)) behind
        exact (inductionHypothesis distinct.tail later).choice_later spurned

theorem stands_of_admits_letters (admits : (inRow (letters.map letter) : Expr Name).Admits text) :
    Text.Stands letters text := by
  induction letters generalizing text with
  | nil =>
      rw [admits_empty admits]
      exact .nil
  | cons first letters inductionHypothesis =>
      obtain ⟨front, back, rfl, admitsFirst, admitsRest⟩ := admits_inRow_cons admits
      obtain ⟨c, rfl, same⟩ := admits_char admitsFirst
      exact .cons same (inductionHypothesis admitsRest)

/-- A word admits a character that stands for each of its letters. -/
theorem stands_of_admits_word {name : String} (admits : (word name : Expr Name).Admits text) :
    Text.Stands name.toList text :=
  stands_of_admits_letters admits

/-- Where small and capital letters alone stand for its letters a word admits nothing but itself. -/
theorem admits_plain_word {name : String} (small : ∀ letter ∈ name.toList, letter.isLower = true)
    (plain : Text.IsUnmistakable name.toList) (admits : (word name : Expr Name).Admits text) :
    text.map Char.toLower = name.toList :=
  (stands_of_admits_word admits).map_toLower_of_unmistakable small plain

theorem admits_wordOf {names : List String} (admits : (wordOf names : Expr Name).Admits text) :
    ∃ name ∈ names, (word name : Expr Name).Admits text := by
  obtain ⟨one, member, admitted⟩ := admits_choice admits
  obtain ⟨name, isName, rfl⟩ := List.mem_map.1 member
  exact ⟨name, isName, admitted⟩

/-! ## Blanks -/

/-- Characters with a property are taken up to the next one without it. -/
theorem takes_plus_char {accepts : Char → Bool} (proper : written ≠ [])
    (accepted : ∀ c ∈ written, accepts c = true) (stops : behind.head?.any accepts = false) :
    (plus (char accepts) : Expr Name).Takes written behind [] := by
  have row : ∀ further : Text, (∀ c ∈ further, accepts c = true) →
      TakesRow (char accepts : Expr Name) behind further [] := by
    intro further allAccepted
    induction further with
    | nil => exact .stop (spurns_char stops)
    | cons c rest inductionHypothesis =>
        exact .more (takes_char (allAccepted c List.mem_cons_self) (rest ++ behind))
          (List.cons_ne_nil c []) (inductionHypothesis fun other member =>
            allAccepted other (List.mem_cons_of_mem _ member))
  cases written with
  | nil => contradiction
  | cons c rest =>
      exact Takes.seq (takes_char (accepted c List.mem_cons_self) (rest ++ behind))
        (row rest fun other member => accepted other (List.mem_cons_of_mem _ member)).star

theorem admits_plus_char {accepts : Char → Bool}
    (admits : (plus (char accepts) : Expr Name).Admits text) : ∀ c ∈ text, accepts c = true := by
  obtain ⟨front, back, rfl, admitsFront, admitsBack⟩ := admits_seq admits
  obtain ⟨first, rfl, accepted⟩ := admits_char admitsFront
  intro c member
  rcases List.mem_append.1 member with inFront | inBack
  · exact List.mem_singleton.1 inFront ▸ accepted
  · exact admits_star_char admitsBack c inBack

/-- Of the characters with a property at most one is taken. -/
theorem exists_takes_opt_char (accepts : Char → Bool) (text : Text) :
    ∃ piece behind, text = piece ++ behind ∧
      (opt (char accepts) : Expr Name).Takes piece behind [] := by
  by_cases accepted : text.head?.any accepts = true
  · cases text with
    | nil => contradiction
    | cons c rest => exact ⟨[c], rest, rfl, (takes_char accepted rest).altFirst⟩
  · exact ⟨[], text, rfl, Takes.altSecond (spurns_char (Bool.eq_false_iff.2 accepted))
      (takes_empty text)⟩

/-- Blanks are taken up to the next character that is none. -/
theorem takes_blanks (proper : gap ≠ []) (blank : ∀ c ∈ gap, Text.isBlank c = true)
    (stops : behind.head?.any Text.isBlank = false) :
    (blanks : Expr Name).Takes gap behind [] :=
  takes_plus_char proper blank stops

theorem admits_blanks (admits : (blanks : Expr Name).Admits text) :
    ∀ c ∈ text, Text.isBlank c = true :=
  admits_plus_char admits

/-- What is spurned behind all the blanks, and at a blank, is spurned behind any of them. -/
theorem spurns_blanks_inRow (blank : ∀ c ∈ gap, Text.isBlank c = true)
    (stops : behind.head?.any Text.isBlank = false) (spurned : (inRow others).Spurns behind)
    (spurnedBlank : ∀ c rest, Text.isBlank c = true → (inRow others).Spurns (c :: rest)) :
    (inRow (blanks :: others)).Spurns (gap ++ behind) := by
  apply spurns_inRow_cons
  intro front back split admits
  rcases List.append_eq_append_iff.1 split with ⟨surplus, frontIs, behindIs⟩ | ⟨left, gapIs, backIs⟩
  · cases surplus with
    | nil => exact (List.nil_append back ▸ behindIs) ▸ spurned
    | cons c surplus =>
        have isBlank := admits_blanks admits c
          (frontIs ▸ List.mem_append_right gap List.mem_cons_self)
        rw [behindIs, List.cons_append, List.head?_cons, Option.any_some, isBlank] at stops
        contradiction
  · cases left with
    | nil => exact (List.nil_append behind ▸ backIs) ▸ spurned
    | cons c left =>
        rw [backIs, List.cons_append]
        exact spurnedBlank c _ (blank c (gapIs ▸ List.mem_append_right front List.mem_cons_self))

end Pattern.Expr

end Rendezvous
