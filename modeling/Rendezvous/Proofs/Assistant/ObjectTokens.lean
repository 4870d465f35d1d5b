import Mathlib.Data.List.Infix
import Mathlib.Data.List.TakeWhile
import Rendezvous.Proofs.Assistant.EmbeddedObject

/-!
Contract: the object in a text, told by tokens.

Owns:
- `Token` and `Divides`, the division of any text into string literals and single other
  characters, which exists and is unique;
- `IsShortestCut`, the shortest beginning whose braces are balanced;
- `Ends`, where a search over tokens ends, carried from the rest of the tokens to all of them;
- `embeddedObject?_eq_shortestCut`: for every text, whether or not it is a document, the object
  found is that beginning, and it depends on nothing around it.
-/

namespace Rendezvous.Reply

/-! ## Tokens -/

/-- A piece of a text: a string literal with its marks, or another character. -/
inductive Token where
  | literal (written : Text)
  | character (c : Char)
deriving DecidableEq

namespace Token

def text : Token → Text
  | literal written => written
  | character c => [c]

abbrev openingBrace : Token := .character '\x7b'

abbrev closingBrace : Token := .character '\x7d'

end Token

/-- What can stand between the marks of a literal: a backslash takes the character behind it along,
whichever it is. -/
inductive Quoted : Text → Prop where
  | nil : Quoted []
  | plain {c : Char} {text : Text} (noMark : c ≠ '"') (noBackslash : c ≠ '\\')
      (others : Quoted text) : Quoted (c :: text)
  | escape {c : Char} {text : Text} (others : Quoted text) : Quoted ('\\' :: c :: text)

/-- No mark ends the literal whose opening mark stands in front of a text. -/
def IsEndless (text : Text) : Prop :=
  ∀ inside, Quoted inside → ¬ inside ++ ['"'] <+: text

/-- How a text divides into tokens; a literal without an end takes all that is left. -/
inductive Divides : Text → List Token → Prop where
  | nil : Divides [] []
  | character {c : Char} {rest : Text} {tokens : List Token} (noMark : c ≠ '"')
      (others : Divides rest tokens) : Divides (c :: rest) (.character c :: tokens)
  | literal {inside rest : Text} {tokens : List Token} (quoted : Quoted inside)
      (others : Divides rest tokens) :
      Divides ('"' :: (inside ++ '"' :: rest)) (.literal ('"' :: (inside ++ ['"'])) :: tokens)
  | endless {rest : Text} (endless : IsEndless rest) :
      Divides ('"' :: rest) [.literal ('"' :: rest)]

variable {text rest inside : Text} {tokens others : List Token}

/-- A literal ends at one place only. -/
theorem Quoted.unique {first second behindFirst behindSecond : Text} (isFirst : Quoted first)
    (isSecond : Quoted second)
    (same : first ++ '"' :: behindFirst = second ++ '"' :: behindSecond) :
    first = second ∧ behindFirst = behindSecond := by
  induction isFirst generalizing second with
  | nil =>
      cases isSecond with
      | nil => exact ⟨rfl, (List.cons.inj same).2⟩
      | plain noMark => exact absurd (List.cons.inj same).1.symm noMark
      | escape => simp at same
  | plain noMark noBackslash _ inductionHypothesis =>
      cases isSecond with
      | nil => exact absurd (List.cons.inj same).1 noMark
      | plain _ _ isRest =>
          obtain ⟨rfl, sameRest⟩ := List.cons.inj same
          simpa using inductionHypothesis isRest sameRest
      | escape => exact absurd (List.cons.inj same).1 noBackslash
  | escape _ inductionHypothesis =>
      cases isSecond with
      | nil => simp at same
      | plain _ noBackslash => exact absurd (List.cons.inj same).1.symm noBackslash
      | escape isRest =>
          obtain ⟨rfl, sameRest⟩ := List.cons.inj (List.cons.inj same).2
          simpa using inductionHypothesis isRest sameRest

theorem not_isEndless (quoted : Quoted inside) (rest : Text) :
    ¬ IsEndless (inside ++ '"' :: rest) :=
  fun endless => endless inside quoted ⟨rest, by simp⟩

theorem Divides.unique (divides : Divides text tokens) (divided : Divides text others) :
    others = tokens := by
  induction divides generalizing others with
  | nil =>
      cases divided
      rfl
  | character noMark _ inductionHypothesis =>
      cases divided with
      | character _ isRest => rw [inductionHypothesis isRest]
      | literal => contradiction
      | endless => contradiction
  | @literal inside rest tokens quoted _ inductionHypothesis =>
      generalize whole : inside ++ '"' :: rest = behind at divided
      cases divided with
      | character noMark => contradiction
      | literal isOther isRest =>
          obtain ⟨rfl, rfl⟩ := quoted.unique isOther whole
          rw [inductionHypothesis isRest]
      | endless endless => exact absurd (whole ▸ endless) (not_isEndless quoted rest)
  | @endless rest endless =>
      generalize whole : rest = behind at divided
      cases divided with
      | character noMark => contradiction
      | literal isOther => exact absurd (whole ▸ endless) (not_isEndless isOther _)
      | endless => rfl

theorem exists_divides (text : Text) : ∃ tokens, Divides text tokens := by
  -- On the length, since a literal is taken as a whole.
  induction size : text.length using Nat.strongRecOn generalizing text with
  | ind size inductionHypothesis =>
      subst size
      cases text with
      | nil => exact ⟨[], .nil⟩
      | cons c rest =>
          by_cases isMark : c = '"'
          · subst isMark
            by_cases endless : IsEndless rest
            · exact ⟨_, .endless endless⟩
            · simp only [IsEndless, not_forall, not_not] at endless
              obtain ⟨inside, quoted, behind, rfl⟩ := endless
              obtain ⟨tokens, divides⟩ :=
                inductionHypothesis behind.length (by simp; omega) behind rfl
              rw [List.append_assoc]
              exact ⟨_, .literal quoted divides⟩
          · obtain ⟨tokens, divides⟩ := inductionHypothesis rest.length (by simp) rest rfl
            exact ⟨_, .character isMark divides⟩

theorem Divides.text_eq (divides : Divides text tokens) : tokens.flatMap Token.text = text := by
  induction divides with
  | nil => rfl
  | character _ _ inductionHypothesis => simp [Token.text, inductionHypothesis]
  | literal _ _ inductionHypothesis => simp [Token.text, inductionHypothesis]
  | endless => simp [Token.text]

/-! ## Cuts -/

/-- A text made of the first tokens, one at least, among which as many braces open as close. -/
def IsCut (tokens : List Token) (beginning : Text) : Prop :=
  ∃ taken, taken <+: tokens ∧ taken ≠ [] ∧
    taken.count .openingBrace = taken.count .closingBrace ∧ beginning = taken.flatMap Token.text

structure IsShortestCut (tokens : List Token) (beginning : Text) : Prop where
  isCut : IsCut tokens beginning
  shortest : ∀ other, IsCut tokens other → beginning.length ≤ other.length

theorem IsCut.prefix {beginning : Text} (isCut : IsCut tokens beginning) :
    beginning <+: tokens.flatMap Token.text := by
  obtain ⟨taken, isPrefix, -, -, rfl⟩ := isCut
  exact isPrefix.flatMap Token.text

theorem IsShortestCut.unique {first second : Text} (isFirst : IsShortestCut tokens first)
    (isSecond : IsShortestCut tokens second) : first = second := by
  have sameLength : first.length = second.length :=
    Nat.le_antisymm (isFirst.shortest second isSecond.isCut)
      (isSecond.shortest first isFirst.isCut)
  have isPrefix : first <+: second :=
    List.prefix_of_prefix_length_le isFirst.isCut.prefix isSecond.isCut.prefix
      (Nat.le_of_eq sameLength)
  exact isPrefix.eq_of_length sameLength

/-! ## The search over literals -/

variable {depth newDepth : Nat}

theorem passes_quoted (quoted : Quoted inside) : Passes depth .inString inside depth .inString := by
  induction quoted with
  | nil => exact passes_nil depth .inString
  | plain noMark noBackslash _ inductionHypothesis =>
      exact (passes_inString noMark noBackslash).cons inductionHypothesis
  | @escape c _ _ inductionHypothesis => exact (passes_escape c).append inductionHypothesis

theorem passes_literal (quoted : Quoted inside) :
    Passes depth .outside ('"' :: (inside ++ ['"'])) depth .outside :=
  passes_openingMark.cons ((passes_quoted quoted).append passes_closingMark)

theorem IsEndless.tail (start : Text)
    (quoted : ∀ {inside}, Quoted inside → Quoted (start ++ inside))
    (endless : IsEndless (start ++ rest)) : IsEndless rest := by
  intro inside isQuoted isPrefix
  apply endless (start ++ inside) (quoted isQuoted)
  rw [List.append_assoc]
  exact (List.prefix_append_right_inj start).2 isPrefix

theorem upToClosing?_of_endless :
    ∀ text : Text, IsEndless text → upToClosing? depth .inString text = none
  | [], _ => rfl
  | c :: rest, endless => by
      by_cases isMark : c = '"'
      · subst isMark
        exact absurd endless (not_isEndless .nil rest)
      · by_cases isBackslash : c = '\\'
        · subst isBackslash
          cases rest with
          | nil => rfl
          | cons escaped others =>
              have left : IsEndless others := endless.tail ['\\', escaped] .escape
              exact (passes_escape escaped).notFound (upToClosing?_of_endless others left)
        · have left : IsEndless rest := endless.tail [c] (.plain isMark isBackslash)
          exact (passes_inString isMark isBackslash).notFound (upToClosing?_of_endless rest left)

/-! ## The search over tokens -/

/-- With `depth` braces open in front of them, some brace stays open behind each of the tokens. -/
def StaysOpen (depth : Nat) (tokens : List Token) : Prop :=
  ∀ taken, taken <+: tokens → taken.count .closingBrace < depth + taken.count .openingBrace

/-- Where a search ends: at the token that closes the last open brace, or nowhere. -/
inductive Ends (depth : Nat) (text : Text) (tokens : List Token) : Prop where
  | closed (taken left : List Token) (divided : tokens = taken ++ .closingBrace :: left)
      (staysOpen : StaysOpen depth taken)
      (lastOpen : depth + taken.count .openingBrace = taken.count .closingBrace + 1)
      (found : upToClosing? depth .outside text = some (taken.flatMap Token.text ++ ['\x7d']))
  | unclosed (staysOpen : StaysOpen depth tokens)
      (notFound : upToClosing? depth .outside text = none)

theorem staysOpen_nil (someOpen : 0 < depth) : StaysOpen depth [] := by
  intro taken isPrefix
  rw [List.prefix_nil.1 isPrefix]
  simpa using someOpen

theorem StaysOpen.cons (token : Token) (someOpen : 0 < depth)
    (balance : depth + [token].count .openingBrace = newDepth + [token].count .closingBrace)
    (staysOpen : StaysOpen newDepth tokens) : StaysOpen depth (token :: tokens) := by
  intro taken isPrefix
  cases taken with
  | nil => simpa using someOpen
  | cons first others =>
      obtain ⟨rfl, isRest⟩ := List.cons_prefix_cons.1 isPrefix
      have later := staysOpen others isRest
      rw [← List.singleton_append, List.count_append, List.count_append]
      omega

/-- A token takes the search on to the tokens behind it. -/
theorem Ends.cons (token : Token) (someOpen : 0 < depth)
    (balance : depth + [token].count .openingBrace = newDepth + [token].count .closingBrace)
    (passes : Passes depth .outside token.text newDepth .outside)
    (ends : Ends newDepth rest tokens) : Ends depth (token.text ++ rest) (token :: tokens) := by
  cases ends with
  | closed taken left divided staysOpen lastOpen found =>
      apply Ends.closed (token :: taken) left
      · rw [divided, List.cons_append]
      · exact staysOpen.cons token someOpen balance
      · rw [← List.singleton_append, List.count_append, List.count_append]
        omega
      · rw [List.flatMap_cons, List.append_assoc]
        exact passes.found found
  | unclosed staysOpen notFound =>
      exact .unclosed (staysOpen.cons token someOpen balance) (passes.notFound notFound)

theorem Ends.character {c : Char} (someOpen : 0 < depth) (noMark : c ≠ '"')
    (ends : ∀ {depth}, 0 < depth → Ends depth rest tokens) :
    Ends depth (c :: rest) (.character c :: tokens) := by
  by_cases opens : c = '\x7b'
  · subst opens
    exact (ends (Nat.succ_pos depth)).cons .openingBrace someOpen rfl passes_openingBrace
  · by_cases closes : c = '\x7d'
    · subst closes
      match depth, someOpen with
      | 1, single => exact .closed [] _ rfl (staysOpen_nil single) rfl rfl
      | more + 2, _ =>
          have behind := ends (Nat.succ_pos more)
          exact behind.cons .closingBrace (Nat.succ_pos _) rfl passes_closingBrace
    · have neutral : isNeutral c = true := by simp [isNeutral, noMark, opens, closes]
      apply (ends someOpen).cons (.character c) someOpen _ (passes_outside neutral)
      simp [opens, closes]

/-- From the division of a text it shows where the search ends. -/
theorem Divides.ends (divides : Divides text tokens) (someOpen : 0 < depth) :
    Ends depth text tokens := by
  induction divides generalizing depth with
  | nil => exact .unclosed (staysOpen_nil someOpen) rfl
  | character noMark _ inductionHypothesis =>
      exact .character someOpen noMark inductionHypothesis
  | @literal inside rest tokens quoted _ inductionHypothesis =>
      have ends := (inductionHypothesis someOpen).cons (.literal ('"' :: (inside ++ ['"'])))
        someOpen (by simp) (passes_literal quoted)
      simpa [Token.text] using ends
  | @endless rest endless =>
      apply Ends.unclosed ((staysOpen_nil someOpen).cons _ someOpen (by simp))
      exact passes_openingMark.notFound (upToClosing?_of_endless rest endless)

/-! ## The object -/

variable {object beginning : Text}

theorem IsCut.exists_behind (isCut : IsCut (.openingBrace :: tokens) beginning) :
    ∃ taken, taken <+: tokens ∧ 1 + taken.count .openingBrace = taken.count .closingBrace ∧
      beginning = '\x7b' :: taken.flatMap Token.text := by
  obtain ⟨taken, isPrefix, notEmpty, balanced, rfl⟩ := isCut
  cases taken with
  | nil => contradiction
  | cons first others =>
      obtain ⟨rfl, isRest⟩ := List.cons_prefix_cons.1 isPrefix
      refine ⟨others, isRest, ?_, rfl⟩
      simp at balanced
      omega

/-- A cut takes more tokens than some brace stays open behind. -/
theorem StaysOpen.length_lt {taken cut : List Token} (staysOpen : StaysOpen depth taken)
    (isPrefix : taken <+: tokens) (isCut : cut <+: tokens)
    (balanced : depth + cut.count .openingBrace = cut.count .closingBrace) :
    taken.length < cut.length := by
  apply Nat.lt_of_not_le
  intro fewer
  have isEarlier : cut <+: taken := List.prefix_of_prefix_length_le isCut isPrefix fewer
  have stillOpen := staysOpen cut isEarlier
  omega

/-- The token that closes the last open brace makes the first cut. -/
theorem StaysOpen.isShortestCut {taken left : List Token} (staysOpen : StaysOpen 1 taken)
    (lastOpen : 1 + taken.count .openingBrace = taken.count .closingBrace + 1) :
    IsShortestCut (.openingBrace :: (taken ++ .closingBrace :: left))
      ('\x7b' :: (taken.flatMap Token.text ++ ['\x7d'])) where
  isCut := by
    refine ⟨.openingBrace :: (taken ++ [.closingBrace]), ⟨left, by simp⟩, List.cons_ne_nil _ _,
      ?_, ?_⟩
    · simp
      omega
    · simp [Token.text]
  shortest := by
    intro other isOther
    obtain ⟨cut, isPrefix, balanced, rfl⟩ := isOther.exists_behind
    have longer : taken.length < cut.length := staysOpen.length_lt ⟨_, rfl⟩ isPrefix balanced
    have isBeginning : taken ++ [.closingBrace] <+: cut :=
      List.prefix_of_prefix_length_le ⟨left, by simp⟩ isPrefix
        (by simpa [Nat.succ_le_iff] using longer)
    simpa [Token.text] using (isBeginning.flatMap Token.text).length_le

/-- Behind an opening brace the search ends with the shortest cut, or there is no cut. -/
theorem Divides.cases_behind (divides : Divides rest tokens) :
    (∃ object, upToClosing? 0 .outside ('\x7b' :: rest) = some object ∧
      IsShortestCut (.openingBrace :: tokens) object) ∨
    (upToClosing? 0 .outside ('\x7b' :: rest) = none ∧
      ∀ beginning, ¬ IsCut (.openingBrace :: tokens) beginning) := by
  cases divides.ends Nat.one_pos with
  | closed taken left divided staysOpen lastOpen found =>
      subst divided
      exact Or.inl ⟨_, passes_openingBrace.found found, staysOpen.isShortestCut lastOpen⟩
  | unclosed staysOpen notFound =>
      refine Or.inr ⟨passes_openingBrace.notFound notFound, fun beginning isCut => ?_⟩
      obtain ⟨taken, isPrefix, balanced, -⟩ := isCut.exists_behind
      have longer := staysOpen.length_lt (List.prefix_refl tokens) isPrefix balanced
      exact absurd isPrefix.length_le (Nat.not_le_of_lt longer)

theorem fromBrace_cases (text : Text) :
    fromBrace text = [] ∨ ∃ rest, fromBrace text = '\x7b' :: rest := by
  cases outcome : fromBrace text with
  | nil => exact Or.inl rfl
  | cons c rest =>
      have isBrace := List.head?_dropWhile_not (fun c => decide (c ≠ '\x7b')) text
      rw [show text.dropWhile _ = _ from outcome] at isBrace
      exact Or.inr ⟨rest, by simpa using isBrace⟩

theorem fromBrace_append (isTail : fromBrace text = '\x7b' :: rest) (more : Text) :
    fromBrace (text ++ more) = '\x7b' :: rest ++ more := by
  unfold fromBrace at isTail ⊢
  rw [List.dropWhile_append, isTail]
  rfl

theorem Divides.cases_fromBrace (divides : Divides (fromBrace text) tokens) :
    (∃ object, embeddedObject? text = some object ∧ IsShortestCut tokens object) ∨
    (embeddedObject? text = none ∧ ∀ beginning, ¬ IsCut tokens beginning) := by
  rw [embeddedObject?_eq]
  rcases fromBrace_cases text with noTail | ⟨rest, isTail⟩
  · rw [noTail] at divides ⊢
    cases divides
    refine Or.inr ⟨rfl, fun beginning isCut => ?_⟩
    obtain ⟨taken, isPrefix, notEmpty, -⟩ := isCut
    exact notEmpty (List.prefix_nil.1 isPrefix)
  · rw [isTail] at divides ⊢
    cases divides with
    | character _ isRest => exact isRest.cases_behind

/-- The object in a text has its braces at both ends, and is the object of every text that goes on
behind it. -/
theorem embeddedObject?_local (isObject : embeddedObject? text = some object) :
    object.head? = some '\x7b' ∧ object.getLast? = some '\x7d' ∧
      embeddedObject? object = some object ∧
      ∀ more, embeddedObject? (text ++ more) = some object := by
  obtain ⟨⟨left, same⟩, isLast, found⟩ := upToClosing?_local isObject
  change fromBrace text = object ++ left at same
  rcases fromBrace_cases text with noTail | ⟨rest, isTail⟩
  · rw [embeddedObject?_eq, noTail] at isObject
    contradiction
  · rw [isTail] at same
    cases object with
    | nil => contradiction
    | cons first inner =>
        obtain ⟨rfl, -⟩ := List.cons.inj same
        refine ⟨rfl, isLast, ?_, fun more => ?_⟩
        · have itself := found []
          rwa [List.append_nil] at itself
        · rw [embeddedObject?_eq, fromBrace_append isTail, same, List.append_assoc]
          exact found (left ++ more)

theorem Divides.some_iff (divides : Divides (fromBrace text) tokens) :
    embeddedObject? text = some object ↔ IsShortestCut tokens object := by
  rcases divides.cases_fromBrace with ⟨found, isFound, isShortest⟩ | ⟨notFound, noCut⟩
  · rw [isFound, Option.some.injEq]
    constructor
    · rintro rfl
      exact isShortest
    · exact isShortest.unique
  · rw [notFound]
    constructor
    · intro isObject
      contradiction
    · intro isShortest
      exact absurd isShortest.isCut (noCut object)

theorem Divides.none_iff (divides : Divides (fromBrace text) tokens) :
    embeddedObject? text = none ↔ ∀ beginning, ¬ IsCut tokens beginning := by
  rcases divides.cases_fromBrace with ⟨found, isFound, isShortest⟩ | ⟨notFound, noCut⟩
  · rw [isFound]
    exact iff_of_false (Option.some_ne_none found) fun noCut => noCut found isShortest.isCut
  · exact iff_of_true notFound noCut

/-- Every text divides into tokens from its first opening brace on, in one way.  The object in it is
the shortest beginning among them with as many opening as closing braces outside literals, and
there is none if no beginning has.  It goes from brace to brace, is its own object, and stays the
same whatever stands behind it, and without opening braces in front of it. -/
theorem embeddedObject?_eq_shortestCut (text : Text) :
    ∃ tokens, Divides (fromBrace text) tokens ∧
      (∀ others, Divides (fromBrace text) others → others = tokens) ∧
      (∀ object, embeddedObject? text = some object ↔ IsShortestCut tokens object) ∧
      (embeddedObject? text = none ↔
        '\x7b' ∉ text ∨ ∀ beginning, ¬ IsCut tokens beginning) ∧
      ∀ object, embeddedObject? text = some object →
        (object.head? = some '\x7b' ∧ object.getLast? = some '\x7d' ∧ object <:+: text) ∧
        embeddedObject? object = some object ∧
        (∀ more, embeddedObject? (text ++ more) = some object) ∧
        ∀ before, '\x7b' ∉ before → embeddedObject? (before ++ text) = some object := by
  obtain ⟨tokens, divides⟩ := exists_divides (fromBrace text)
  have absent : '\x7b' ∉ text → embeddedObject? text = none := by
    intro noBrace
    rw [← List.append_nil text, embeddedObject?_behind noBrace []]
    rfl
  refine ⟨tokens, divides, fun others => divides.unique, fun object => divides.some_iff, ?_, ?_⟩
  · rw [divides.none_iff] at absent ⊢
    exact ⟨Or.inr, fun either => either.elim absent id⟩
  · intro object isObject
    obtain ⟨isHead, isLast, itself, longer⟩ := embeddedObject?_local isObject
    refine ⟨⟨isHead, isLast, infix_of_embeddedObject? isObject⟩, itself, longer, ?_⟩
    intro before noBrace
    rw [embeddedObject?_behind noBrace text, isObject]

/-- A mark in front of the first brace opens no literal, and one behind a backslash outside literals
does. -/
example :
    embeddedObject? "\"\x7b\\\"\\q\x7d\"\x7d\x7d".toList =
      some "\x7b\\\"\\q\x7d\"\x7d".toList := by
  decide

end Rendezvous.Reply
