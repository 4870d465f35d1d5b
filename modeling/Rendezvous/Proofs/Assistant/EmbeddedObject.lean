import Rendezvous.Assistant.Reply
import Rendezvous.Proofs.Json.Derivation

/-!
Contract: the object in a reply is found as a whole.

Owns:
- `Passes`, from where to where the search for the closing brace gets over a text, with its
  rules;
- `passes_derives`: what stands in an object leaves the count of open braces as it was, and ends
  outside strings;
- `exists_embeddedObject`, the object of a document that stands behind a text without braces;
- `embeddedObject?_of_derives`: every text that the grammar admits as an object is found.
-/

namespace Rendezvous.Reply

/-- Over a text the search gets from one count of open braces and one place to others. -/
def Passes (depth : Nat) (place : Place) (text : Text) (newDepth : Nat) (newPlace : Place) :
    Prop :=
  ∀ rest, upToClosing? depth place (text ++ rest) =
    (upToClosing? newDepth newPlace rest).map (text ++ ·)

variable {depth middleDepth newDepth : Nat} {place middlePlace newPlace : Place}
  {text first second : Text} {c : Char}

theorem passes_nil (depth : Nat) (place : Place) : Passes depth place [] depth place := by
  intro rest
  rw [List.nil_append]
  cases upToClosing? depth place rest <;> rfl

theorem Passes.append (passesFirst : Passes depth place first middleDepth middlePlace)
    (passesSecond : Passes middleDepth middlePlace second newDepth newPlace) :
    Passes depth place (first ++ second) newDepth newPlace := by
  intro rest
  rw [List.append_assoc, passesFirst, passesSecond, Option.map_map]
  congr 1
  funext left
  exact (List.append_assoc first second left).symm

theorem Passes.cons (passesHead : Passes depth place [c] middleDepth middlePlace)
    (passesRest : Passes middleDepth middlePlace text newDepth newPlace) :
    Passes depth place (c :: text) newDepth newPlace :=
  passesHead.append passesRest

theorem Passes.found {rest object : Text} (passes : Passes depth place text newDepth newPlace)
    (isObject : upToClosing? newDepth newPlace rest = some object) :
    upToClosing? depth place (text ++ rest) = some (text ++ object) := by
  rw [passes, isObject, Option.map_some]

theorem Passes.notFound {rest : Text} (passes : Passes depth place text newDepth newPlace)
    (noObject : upToClosing? newDepth newPlace rest = none) :
    upToClosing? depth place (text ++ rest) = none := by
  rw [passes, noObject, Option.map_none]

/-! ## Characters -/

/-- The characters that do not matter outside strings. -/
def isNeutral (c : Char) : Bool :=
  c != '"' && c != '\x7b' && c != '\x7d'

theorem passes_outside (neutral : isNeutral c = true) :
    Passes depth .outside [c] depth .outside := by
  simp only [isNeutral, Bool.and_eq_true, bne_iff_ne] at neutral
  intro rest
  rw [List.singleton_append, upToClosing?, if_neg neutral.1.1, if_neg neutral.1.2,
    if_neg neutral.2]
  rfl

theorem passes_plain (neutral : ∀ c ∈ text, isNeutral c = true) :
    Passes depth .outside text depth .outside := by
  induction text with
  | nil => exact passes_nil depth .outside
  | cons c text inductionHypothesis =>
      exact (passes_outside (neutral c List.mem_cons_self)).cons
        (inductionHypothesis fun other member => neutral other (List.mem_cons_of_mem _ member))

theorem passes_openingMark : Passes depth .outside ['"'] depth .inString :=
  fun _ => rfl

theorem passes_closingMark : Passes depth .inString ['"'] depth .outside :=
  fun _ => rfl

theorem passes_openingBrace : Passes depth .outside ['\x7b'] (depth + 1) .outside :=
  fun _ => rfl

theorem passes_closingBrace : Passes (depth + 2) .outside ['\x7d'] (depth + 1) .outside :=
  fun _ => rfl

theorem passes_inString (noMark : c ≠ '"') (noBackslash : c ≠ '\\') :
    Passes depth .inString [c] depth .inString := by
  intro rest
  rw [List.singleton_append, upToClosing?, if_neg noBackslash, if_neg noMark]
  rfl

theorem passes_escape (c : Char) : Passes depth .inString ['\\', c] depth .inString := by
  intro rest
  change ((upToClosing? depth .inString rest).map (c :: ·)).map ('\\' :: ·) = _
  rw [Option.map_map]
  rfl

/-- A character takes the search on, unless it closes the last open brace. -/
theorem step_cases (depth : Nat) (place : Place) (c : Char) :
    (depth = 1 ∧ place = .outside ∧ c = '\x7d') ∨
      ∃ newDepth newPlace, Passes depth place [c] newDepth newPlace := by
  by_cases closes : depth = 1 ∧ place = .outside ∧ c = '\x7d'
  · exact Or.inl closes
  · right
    cases place with
    | escaped => exact ⟨depth, .inString, fun _ => rfl⟩
    | inString =>
        by_cases isBackslash : c = '\\'
        · exact ⟨depth, .escaped, fun _ => by rw [isBackslash]; rfl⟩
        · by_cases isMark : c = '"'
          · exact ⟨depth, .outside, isMark ▸ passes_closingMark⟩
          · exact ⟨depth, .inString, passes_inString isMark isBackslash⟩
    | outside =>
        by_cases isMark : c = '"'
        · exact ⟨depth, .inString, isMark ▸ passes_openingMark⟩
        · by_cases opens : c = '\x7b'
          · exact ⟨depth + 1, .outside, opens ▸ passes_openingBrace⟩
          · by_cases isClosing : c = '\x7d'
            · have more : depth ≠ 1 := fun single => closes ⟨single, rfl, isClosing⟩
              refine ⟨depth - 1, .outside, fun rest => ?_⟩
              rw [List.singleton_append, upToClosing?, if_neg isMark, if_neg opens,
                if_pos isClosing, if_neg more]
              rfl
            · have neutral : isNeutral c = true := by simp [isNeutral, isMark, opens, isClosing]
              exact ⟨depth, .outside, passes_outside neutral⟩

/-- What is found is a beginning of the text that ends with a closing brace, and it is found
whatever stands behind it. -/
theorem upToClosing?_local {object : Text}
    (isObject : upToClosing? depth place text = some object) :
    (∃ left, text = object ++ left) ∧ object.getLast? = some '\x7d' ∧
      ∀ more, upToClosing? depth place (object ++ more) = some object := by
  induction text generalizing depth place object with
  | nil => contradiction
  | cons c rest inductionHypothesis =>
      rcases step_cases depth place c with ⟨rfl, rfl, rfl⟩ | ⟨newDepth, newPlace, passes⟩
      · obtain rfl : ['\x7d'] = object := Option.some.inj isObject
        exact ⟨⟨rest, rfl⟩, rfl, fun _ => rfl⟩
      · rw [← List.singleton_append, passes rest] at isObject
        obtain ⟨inner, isInner, rfl⟩ := Option.map_eq_some_iff.1 isObject
        obtain ⟨⟨left, same⟩, isLast, found⟩ := inductionHypothesis isInner
        refine ⟨⟨left, by simp [same]⟩, ?_, fun more => ?_⟩
        · simp [List.getLast?_cons, isLast]
        · exact passes.found (found more)

/-! ## Strings -/

theorem passes_unmarked (unmarked : ∀ c ∈ text, c ≠ '"' ∧ c ≠ '\\') :
    Passes depth .inString text depth .inString := by
  induction text with
  | nil => exact passes_nil depth .inString
  | cons c text inductionHypothesis =>
      obtain ⟨noMark, noBackslash⟩ := unmarked c List.mem_cons_self
      exact (passes_inString noMark noBackslash).cons
        (inductionHypothesis fun other member => unmarked other (List.mem_cons_of_mem _ member))

theorem ne_marks_of_isHexDigit (isHex : Json.isHexDigit c = true) : c ≠ '"' ∧ c ≠ '\\' := by
  constructor
  · rintro rfl
    exact absurd isHex (by decide)
  · rintro rfl
    exact absurd isHex (by decide)

theorem passes_content (isContent : Json.Content text) :
    Passes depth .inString text depth .inString := by
  induction isContent with
  | nil => exact passes_nil depth .inString
  | plain _ noMark noBackslash _ inductionHypothesis =>
      exact (passes_inString noMark noBackslash).cons inductionHypothesis
  | @short mark _ _ _ inductionHypothesis =>
      exact (passes_escape mark).append inductionHypothesis
  | @unit digits _ _ areHex _ inductionHypothesis =>
      have passesDigits : Passes depth .inString digits depth .inString :=
        passes_unmarked fun c member => ne_marks_of_isHexDigit (areHex c member)
      exact (passes_escape 'u').append (passesDigits.append inductionHypothesis)

/-- Braces in strings do not count. -/
theorem passes_string (isContent : Json.Content text) :
    Passes depth .outside ('"' :: (text ++ ['"'])) depth .outside :=
  passes_openingMark.cons ((passes_content isContent).append passes_closingMark)

/-! ## Values -/

theorem isNeutral_of_isFiller (filler : Json.isFiller c = true) : isNeutral c = true := by
  simp only [Json.isFiller, Bool.or_eq_true, beq_iff_eq] at filler
  rcases filler with ((rfl | rfl) | rfl) | rfl <;> decide

theorem passes_filling (fills : Json.IsFilling text) : Passes depth .outside text depth .outside :=
  passes_plain fun c member => isNeutral_of_isFiller (fills c member)

theorem isNeutral_of_isAsciiDigit (isDigit : Numeral.isAsciiDigit c = true) :
    isNeutral c = true := by
  have apart : ∀ other, Numeral.isAsciiDigit other = false → (c != other) = true :=
    fun other noDigit => bne_iff_ne.2 (Text.isAsciiDigit_ne isDigit noDigit)
  rw [isNeutral, apart '"' (by decide), apart '\x7b' (by decide), apart '\x7d' (by decide)]
  rfl

theorem passes_digits (areDigits : ∀ c ∈ text, Numeral.isAsciiDigit c = true) :
    Passes depth .outside text depth .outside :=
  passes_plain fun c member => isNeutral_of_isAsciiDigit (areDigits c member)

theorem passes_sign (sign : Json.PowerSign) : Passes depth .outside sign.text depth .outside := by
  cases sign with
  | absent => exact passes_nil depth .outside
  | plus => exact passes_outside (by decide)
  | minus => exact passes_outside (by decide)

theorem passes_power (power : Json.WrittenPower) :
    Passes depth .outside power.text depth .outside := by
  have neutral : isNeutral power.mark = true := by
    rcases power.isMark with mark | mark <;> rw [mark] <;> decide
  exact (passes_outside neutral).cons
    ((passes_sign power.sign).append (passes_digits power.areDigits))

theorem passes_number (number : Json.WrittenNumber) :
    Passes depth .outside number.text depth .outside := by
  have whole : Passes depth .outside number.whole depth .outside :=
    passes_digits fun c member => number.areDigits c (List.mem_append_left _ member)
  have behindDigits : Passes depth .outside number.behind depth .outside :=
    passes_digits fun c member => number.areDigits c (List.mem_append_right _ member)
  have behind : Passes depth .outside number.behindText depth .outside := by
    unfold Json.WrittenNumber.behindText
    split
    next => exact passes_nil depth .outside
    next => exact (passes_outside (by decide)).cons behindDigits
  have power : Passes depth .outside number.powerText depth .outside := by
    unfold Json.WrittenNumber.powerText
    cases number.power with
    | none => exact passes_nil depth .outside
    | some power => exact passes_power power
  have unsigned : Passes depth .outside number.unsignedText depth .outside :=
    whole.append (behind.append power)
  unfold Json.WrittenNumber.text
  split
  next => exact (passes_outside (by decide)).cons unsigned
  next => exact unsigned

theorem neutral_of_isConstant (isConstant : text ∈ ["true", "false", "null"].map String.toList) :
    ∀ c ∈ text, isNeutral c = true := by
  have all : ∀ word ∈ ["true", "false", "null"].map String.toList, word.all isNeutral = true := by
    decide
  exact List.all_eq_true.1 (all text isConstant)

theorem passes_braces (inside : Passes (depth + 2) .outside text (depth + 2) .outside) :
    Passes (depth + 1) .outside ('\x7b' :: (text ++ ['\x7d'])) (depth + 1) .outside :=
  passes_openingBrace.cons (inside.append passes_closingBrace)

theorem passes_brackets (inside : Passes depth .outside text depth .outside) :
    Passes depth .outside ('[' :: (text ++ [']'])) depth .outside :=
  (passes_outside (by decide)).cons (inside.append (passes_outside (by decide)))

/-- A text of the grammar leaves the search as it was. -/
theorem passes_derives {symbol : Json.Symbol} (derives : Json.Derives symbol text) :
    Passes (depth + 1) .outside text (depth + 1) .outside := by
  -- At least one brace is open all the way, so no closing brace inside ends the search.
  induction derives generalizing depth with
  | emptyObject filling => exact passes_braces (passes_filling filling)
  | object _ inductionHypothesis => exact passes_braces inductionHypothesis
  | emptyArray filling => exact passes_brackets (passes_filling filling)
  | array _ inductionHypothesis => exact passes_brackets inductionHypothesis
  | ofObject _ inductionHypothesis => exact inductionHypothesis
  | ofArray _ inductionHypothesis => exact inductionHypothesis
  | string isContent => exact passes_string isContent
  | number number => exact passes_number number
  | constant isConstant => exact passes_plain (neutral_of_isConstant isConstant)
  | element fillsBefore _ fillsAfter inductionHypothesis =>
      exact (passes_filling fillsBefore).append
        (inductionHypothesis.append (passes_filling fillsAfter))
  | lastElement _ inductionHypothesis => exact inductionHypothesis
  | furtherElement _ _ elementHypothesis othersHypothesis =>
      exact elementHypothesis.append ((passes_outside (by decide)).cons othersHypothesis)
  | member fillsBefore isContent fillsGap _ inductionHypothesis =>
      exact (passes_filling fillsBefore).append (passes_openingMark.cons
        ((passes_content isContent).append (passes_closingMark.cons
          ((passes_filling fillsGap).append
            ((passes_outside (by decide)).cons inductionHypothesis)))))
  | lastMember _ inductionHypothesis => exact inductionHypothesis
  | furtherMember _ _ memberHypothesis othersHypothesis =>
      exact memberHypothesis.append ((passes_outside (by decide)).cons othersHypothesis)

/-! ## Objects -/

/-- A text from its first opening brace on. -/
def fromBrace (text : Text) : Text :=
  text.dropWhile (· ≠ '\x7b')

theorem embeddedObject?_eq (text : Text) :
    embeddedObject? text = upToClosing? 0 .outside (fromBrace text) :=
  rfl

theorem fromBrace_behind {before : Text} (noBrace : '\x7b' ∉ before) (text : Text) :
    fromBrace (before ++ text) = fromBrace text := by
  apply List.dropWhile_append_of_pos
  intro c member
  exact decide_eq_true fun same => noBrace (same ▸ member)

/-- The object in a text is a piece of it. -/
theorem infix_of_embeddedObject? {object : Text} (isObject : embeddedObject? text = some object) :
    object <:+: text := by
  obtain ⟨⟨left, same⟩, -⟩ := upToClosing?_local isObject
  have beginning : object <+: fromBrace text := ⟨left, same.symm⟩
  exact beginning.isInfix.trans (List.dropWhile_suffix _).isInfix

theorem embeddedObject?_behind {before : Text} (noBrace : '\x7b' ∉ before) (text : Text) :
    embeddedObject? (before ++ text) = embeddedObject? text := by
  rw [embeddedObject?_eq, fromBrace_behind noBrace, ← embeddedObject?_eq]

/-- An object behind a text without braces is found, whatever stands behind it. -/
theorem embeddedObject?_of_passes {before inside : Text} (noBrace : '\x7b' ∉ before)
    (passes : Passes 1 .outside inside 1 .outside) (after : Text) :
    embeddedObject? (before ++ ('\x7b' :: (inside ++ '\x7d' :: after))) =
      some ('\x7b' :: (inside ++ ['\x7d'])) := by
  have closed : upToClosing? 1 .outside (inside ++ '\x7d' :: after) = some (inside ++ ['\x7d']) :=
    passes.found rfl
  rw [embeddedObject?_behind noBrace]
  exact passes_openingBrace.found closed

/-- Between its braces an object leaves the search as it was. -/
theorem exists_inside {object : Text} (isObject : Json.Derives .object object) :
    ∃ inside, object = '\x7b' :: (inside ++ ['\x7d']) ∧ Passes 1 .outside inside 1 .outside := by
  cases isObject with
  | @emptyObject inside filling => exact ⟨inside, rfl, passes_filling filling⟩
  | @object inside members => exact ⟨inside, rfl, passes_derives members⟩

/-- The object that a document is, found in a reply with the document. -/
theorem exists_embeddedObject {members : List (LooseText × Json)} {before document : Text}
    (noBrace : '\x7b' ∉ before) (writes : Json.WritesDocument (.object members) document)
    (after : Text) :
    ∃ object, embeddedObject? (before ++ (document ++ after)) = some object ∧
      Json.Writes (.value (.object members)) object := by
  cases writes with
  | @padded _ filling object trailing fillsBefore writesObject _ =>
      -- The blanks in front of the object count to what stands before it.
      have noBraceBefore : '\x7b' ∉ before ++ filling := by
        intro member
        rcases List.mem_append.1 member with inBefore | inFilling
        · exact noBrace inBefore
        · exact absurd (fillsBefore _ inFilling) (by decide)
      obtain ⟨inside, rfl, passes⟩ := exists_inside writesObject.derives_object
      refine ⟨_, ?_, writesObject⟩
      rw [← embeddedObject?_of_passes noBraceBefore passes (trailing ++ after)]
      simp only [List.append_assoc, List.cons_append, List.nil_append]

/-- An object in a text without opening braces in front of it is found as a whole, whatever the
grammar admits in it and whatever stands behind it. -/
theorem embeddedObject?_of_derives (before object after : Text) (noBrace : '\x7b' ∉ before)
    (isObject : Json.Derives .object object) :
    embeddedObject? (before ++ (object ++ after)) = some object := by
  obtain ⟨inside, rfl, passes⟩ := exists_inside isObject
  rw [← embeddedObject?_of_passes noBrace passes after]
  simp only [List.cons_append, List.append_assoc, List.nil_append]

/-- An object with half of a surrogate pair, with braces and marks in strings, and with blanks,
a number and an array inside. -/
def knottedObject : Text :=
  ("\x7b \"\\\"\x7d\" : [ -1.5E+3 ,\x7b\x7d], \"\\\\\":" ++ "\"\\ud800\x7d\x7d\\\\\"\n\x7d").toList

theorem derives_knottedObject : Json.Derives .object knottedObject := by
  have blank : Json.IsFilling [' '] := List.all_eq_true.1 (by decide)
  have number : Json.Derives .value "-1.5E+3".toList :=
    .number ⟨true, ['1'], ['5'],
      some ⟨'E', .plus, ['3'], by decide, by decide, List.all_eq_true.1 (by decide)⟩,
      by decide, by decide, List.all_eq_true.1 (by decide)⟩
  have array : Json.Derives .value "[ -1.5E+3 ,\x7b\x7d]".toList :=
    .ofArray (.array (.furtherElement (.element blank number blank)
      (.lastElement (.element Json.isFilling_nil (.ofObject (.emptyObject Json.isFilling_nil))
        Json.isFilling_nil))))
  have quotedBrace : Json.Content "\\\"\x7d".toList :=
    .short (by decide) (.plain (by decide) (by decide) (by decide) .nil)
  have backslash : Json.Content "\\\\".toList := .short (by decide) .nil
  have half : Json.Content "\\ud800\x7d\x7d\\\\".toList :=
    @Json.Content.unit "d800".toList _ (by decide) (List.all_eq_true.1 (by decide))
      (.plain (by decide) (by decide) (by decide)
        (.plain (by decide) (by decide) (by decide) backslash))
  have first : Json.Derives .member " \"\\\"\x7d\" : [ -1.5E+3 ,\x7b\x7d]".toList :=
    .member blank quotedBrace blank (.element blank array Json.isFilling_nil)
  have second : Json.Derives .member " \"\\\\\":\"\\ud800\x7d\x7d\\\\\"\n".toList :=
    .member blank backslash Json.isFilling_nil
      (.element Json.isFilling_nil (.string half) (List.all_eq_true.1 (by decide)))
  exact .object (.furtherMember first (.lastMember second))

theorem embeddedObject?_knottedObject :
    '\x7b' ∉ "He said \"\x7d".toList ∧ Json.Derives .object knottedObject ∧
    embeddedObject? ("He said \"\x7d".toList ++ (knottedObject ++ "\x7d \"\x7b".toList)) =
      some knottedObject :=
  ⟨by decide, derives_knottedObject,
    embeddedObject?_of_derives _ _ _ (by decide) derives_knottedObject⟩

end Rendezvous.Reply
