import Rendezvous.Proofs.Event
import Rendezvous.Proofs.Pattern.Erasing
import Rendezvous.Proofs.Text.Words

/-!
Contract: the title of every event that is read is in order.

Owns:
- `Text.IsTitleOf`, a piece of a description that can be its title;
- `Title.dropSeparators_eq`: erasing the separators up to the end drops the longest run of them;
- `Title.before?_isTitleOf` and `Title.distinctive?_isTitleOf`: both titles before a position are
  such pieces, wherever the position lies;
- `Event.titleOf_cases`: another title is made of the first words;
- `Event.ofText_title`: only a blank description has an empty title, and only a title made of the
  first words is long or ends with a separator.
-/

namespace Rendezvous

/-- A piece of a text that can be its title: it has the size of one, no blank in front and nothing
at its end that separates it from what follows. -/
structure Text.IsTitleOf (title text : Text) : Prop where
  inside : title <:+: text
  notEmpty : title ≠ []
  short : title.length < 100
  head_not_blank : ∀ c, title.head? = some c → isBlank c = false
  last_not_separator : ∀ c, title.getLast? = some c → Title.isSeparator c = false

namespace Title

open Pattern

variable {text title piece : Text} {index : Int}

/-! ## Titles before a position -/

theorem isBlank_of_not_separator {c : Char} (noSeparator : isSeparator c = false) :
    Text.isBlank c = false := by
  simp only [isSeparator, Bool.or_eq_false_iff] at noSeparator
  exact noSeparator.1.1.1.1.1

theorem ofSized?_eq_some_iff :
    ofSized? piece = some title ↔ piece = title ∧ title ≠ [] ∧ title.length < sizeBound := by
  rw [ofSized?]
  by_cases sized : 0 < piece.length ∧ piece.length < sizeBound
  · rw [if_pos sized, Option.some.injEq]
    refine ⟨?_, And.left⟩
    rintro rfl
    exact ⟨rfl, List.ne_nil_of_length_pos sized.1, sized.2⟩
  · rw [if_neg sized]
    simp only [reduceCtorEq, false_iff]
    rintro ⟨rfl, notEmpty, short⟩
    exact sized ⟨List.length_pos_of_ne_nil notEmpty, short⟩

theorem trim_upTo_isInfix (text : Text) (index : Int) : (text.upTo index).trim <:+: text :=
  (Text.trim_isInfix _).trans (List.take_prefix _ text).isInfix

theorem dropOpening_isSuffix (text : Text) : dropOpening text <:+ text := by
  rw [dropOpening]
  split
  · exact List.drop_suffix _ text
  · exact List.suffix_refl text

/-- The line feed is a separator itself, so none is left behind the others. -/
theorem dropSeparators_eq (text : Text) :
    dropSeparators text = Text.dropEndWhile isSeparator text :=
  Expr.erase_finalRun (by decide) text

theorem dropSeparators_isPrefix (text : Text) : dropSeparators text <+: text := by
  rw [dropSeparators_eq]
  exact Text.dropEndWhile_isPrefix isSeparator text

theorem last_dropSeparators (text : Text) (c : Char)
    (isLast : (dropSeparators text).getLast? = some c) : isSeparator c = false := by
  rw [dropSeparators_eq] at isLast
  exact Text.last_dropEndWhile isSeparator text c isLast

theorem before?_isTitleOf (isTitle : before? text index = some title) : title.IsTitleOf text := by
  obtain ⟨rfl, notEmpty, short⟩ := ofSized?_eq_some_iff.1 isTitle
  have isPrefix := dropSeparators_isPrefix (text.upTo index).trim
  refine ⟨?_, notEmpty, short, fun c isHead => ?_, last_dropSeparators _⟩
  · exact isPrefix.isInfix.trans (trim_upTo_isInfix text index)
  · obtain ⟨dropped, whole⟩ := isPrefix
    apply (Text.trim_isTrimmed (text.upTo index)).head_not_blank
    rw [← whole, List.head?_append_of_ne_nil _ notEmpty]
    exact isHead

/-- Without a separator at the end, only the blanks in front are trimmed. -/
theorem trim_dropSeparators (text : Text) :
    (dropSeparators text).trim = (dropSeparators text).dropWhile Text.isBlank := by
  rw [Text.trim_eq_rdropWhile, List.rdropWhile_eq_self_iff]
  intro someRest
  rw [(List.dropWhile_suffix Text.isBlank).getLast someRest]
  apply Bool.eq_false_iff.1
  apply isBlank_of_not_separator
  exact last_dropSeparators text _ (List.getLast?_eq_some_getLast _)

theorem distinctive?_isTitleOf (isTitle : distinctive? text index = some title) :
    title.IsTitleOf text := by
  obtain ⟨same, notEmpty, short⟩ := ofSized?_eq_some_iff.1 isTitle
  have trimmed := Text.trim_isTrimmed (dropSeparators (dropOpening (text.upTo index).trim))
  rw [same] at trimmed
  rw [trim_dropSeparators] at same
  have isSuffix : title <:+ dropSeparators (dropOpening (text.upTo index).trim) :=
    same ▸ List.dropWhile_suffix Text.isBlank
  refine ⟨?_, notEmpty, short, trimmed.head_not_blank, fun c isLast => ?_⟩
  · exact isSuffix.isInfix.trans ((dropSeparators_isPrefix _).isInfix.trans
      ((dropOpening_isSuffix _).isInfix.trans (trim_upTo_isInfix text index)))
  · obtain ⟨dropped, whole⟩ := isSuffix
    apply last_dropSeparators (dropOpening (text.upTo index).trim)
    rw [← whole, List.getLast?_append_of_ne_nil _ notEmpty]
    exact isLast

/-! ## Titles made of the first words -/

theorem isWordOf_of_first {word : Text} (isFirst : word ∈ text.words.take wordCount) :
    word.IsWordOf text :=
  Text.isWordOf_of_mem (List.mem_of_mem_take isFirst)

theorem ofWords_isTrimmed (text : Text) : (ofWords text).IsTrimmed :=
  (Text.isNormal_unwords fun _ isFirst => isWordOf_of_first isFirst).toIsTrimmed

theorem ofWords_eq_nil_iff (text : Text) :
    ofWords text = [] ↔ ∀ c ∈ text, Text.isBlank c = true := by
  rw [ofWords, Text.unwords_eq_nil_iff fun word isFirst => (isWordOf_of_first isFirst).notEmpty,
    List.take_eq_nil_iff, ← text.splits_words.eq_nil_iff]
  exact or_iff_right (by decide)

end Title

/-! ## Pieces as titles -/

namespace Text.IsTitleOf

variable {text title : Text}

theorem isTrimmed (isTitle : title.IsTitleOf text) : title.IsTrimmed where
  head_not_blank := isTitle.head_not_blank
  last_not_blank c isLast := Title.isBlank_of_not_separator (isTitle.last_not_separator c isLast)

/-- The first character of a title is one of the text that is not blank. -/
theorem not_blank (isTitle : title.IsTitleOf text) : ¬ ∀ c ∈ text, isBlank c = true := by
  intro blank
  obtain ⟨c, rest, rfl⟩ := List.exists_cons_of_ne_nil isTitle.notEmpty
  have notBlank := isTitle.head_not_blank c rfl
  rw [blank c (isTitle.inside.subset List.mem_cons_self)] at notBlank
  contradiction

end Text.IsTitleOf

/-! ## Events -/

variable {recognizer : Recognizer} {text : Text} {now : Moment}

/-- Whatever a draft is read by, its title is a piece of the description. -/
theorem Draft.title_isTitleOf {draft : Draft} {title : Text}
    (isDraft : ofText recognizer text now = .ok draft) (isTitle : draft.title = some title) :
    title.IsTitleOf text := by
  unfold ofText at isDraft
  split at isDraft
  next phrase found _ =>
    obtain ⟨days, -, rest⟩ := (Result.bind_eq_ok_iff _ _ _).1 isDraft
    obtain ⟨times, -, same⟩ := (Result.bind_eq_ok_iff _ _ _).1 rest
    obtain rfl := Except.ok.inj same
    dsimp only at isTitle
    exact Title.before?_isTitleOf isTitle
  next =>
    obtain ⟨mentions, -, rest⟩ := (Result.bind_eq_ok_iff _ _ _).1 isDraft
    dsimp only at rest
    split at rest
    next =>
      obtain rfl := Except.ok.inj rest
      cases isTitle
    next first others _ =>
      rw [Result.pure_eq_ok, Except.ok.injEq] at rest
      rw [← rest] at isTitle
      dsimp only at isTitle
      exact Title.distinctive?_isTitleOf isTitle

namespace Event

/-- The title of an event is a piece of the description or made of its first words. -/
theorem title_cases {event : Event} (isRead : ofText recognizer text now = .ok event) :
    event.title.IsTitleOf text ∨ event.title = Title.ofWords text := by
  obtain ⟨draft, isDraft, rfl⟩ := exists_draft isRead
  rw [show (ofDraft draft text).title = titleOf draft text from rfl, titleOf]
  split
  next isTitle => exact Or.inl (Draft.title_isTitleOf isDraft isTitle)
  next => exact Or.inr rfl

/-- Only a blank description has an empty title, and no title has a blank around it.  A title
without the size of one, or with a separator at its end, is made of the first words. -/
theorem ofText_title (recognizer : Recognizer) (text : Text) (now : Moment) (event : Event)
    (isRead : ofText recognizer text now = .ok event) :
    (event.title = [] ↔ ∀ c ∈ text, Text.isBlank c = true) ∧ event.title.IsTrimmed ∧
      ((100 ≤ event.title.length ∨
          ∃ c ∈ ['-', '\u2013', '\u2014', ':', ','], event.title.getLast? = some c) →
        event.title = Text.unwords (text.words.take 5)) := by
  rcases title_cases isRead with isTitle | ofWords
  · refine ⟨iff_of_false isTitle.notEmpty isTitle.not_blank, isTitle.isTrimmed, ?_⟩
    rintro (long | ⟨c, isSign, isLast⟩)
    · exact absurd isTitle.short (Nat.not_lt_of_le long)
    · have noSeparator := isTitle.last_not_separator c isLast
      have areSeparators : ['-', '\u2013', '\u2014', ':', ','].all Title.isSeparator = true := by
        decide
      rw [List.all_eq_true.1 areSeparators c isSign] at noSeparator
      contradiction
  · rw [ofWords]
    exact ⟨Title.ofWords_eq_nil_iff text, Title.ofWords_isTrimmed text, fun _ => rfl⟩

/-- A title that ends with a comma is made of five words. -/
theorem ofText_guestList :
    ∃ event, ofText (.ofTable ⟨[], []⟩) "Lunch with Ann, Bob, and, Cy".toList
        (.midnight Day.january15) = .ok event ∧
      event.title.getLast? = some ',' ∧
      event.title = Text.unwords ((Text.words "Lunch with Ann, Bob, and, Cy".toList).take 5) := by
  have isRead : ofText (.ofTable ⟨[], []⟩) "Lunch with Ann, Bob, and, Cy".toList
      (.midnight Day.january15) = .ok ⟨"Lunch with Ann, Bob, and,".toList, [], [], some [],
        "Lunch with Ann, Bob, and, Cy".toList⟩ := by
    decide +kernel
  obtain ⟨-, -, ofWords⟩ := ofText_title _ _ _ _ isRead
  exact ⟨_, isRead, by decide, ofWords (Or.inr ⟨',', by decide, by decide⟩)⟩

end Event

end Rendezvous
