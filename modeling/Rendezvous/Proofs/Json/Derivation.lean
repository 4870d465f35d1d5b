import Rendezvous.Proofs.Json.Grammar

/-!
Contract: the grammar of documents, whatever their texts stand for.

Owns:
- `Content`, the texts between the marks of a string;
- `Derives`, the texts of each symbol of the grammar;
- `Writes.derives`: a text that writes something is a text of its symbol.

Of numbers only the digits count here, and an escape may name half of a surrogate pair, so there are
texts of values that write no value.
-/

namespace Rendezvous.Json

/-! ## Strings -/

/-- The characters that make a short escape. -/
def escapeMarks : List Char :=
  ['"', '\\', '/', 'b', 'f', 'n', 'r', 't']

def isHexDigit (c : Char) : Bool :=
  ('0' ≤ c && c ≤ '9') || ('a' ≤ c && c ≤ 'f') || ('A' ≤ c && c ≤ 'F')

/-- The texts between the marks of a string. -/
inductive Content : Text → Prop where
  | nil : Content []
  | plain {c : Char} {rest : Text} (printable : 0x20 ≤ c.toNat) (noMark : c ≠ '"')
      (noBackslash : c ≠ '\\') (others : Content rest) : Content (c :: rest)
  | short {mark : Char} {rest : Text} (isMark : mark ∈ escapeMarks) (others : Content rest) :
      Content ('\\' :: mark :: rest)
  | unit {digits rest : Text} (four : digits.length = 4) (areHex : ∀ c ∈ digits, isHexDigit c = true)
      (others : Content rest) : Content ('\\' :: 'u' :: (digits ++ rest))

theorem mem_escapeMarks {mark c : Char} (isShort : shortEscape? mark = some c) :
    mark ∈ escapeMarks := by
  unfold shortEscape? at isShort
  split at isShort
  case h_9 => contradiction
  all_goals decide

theorem isHexDigit_of_hexValue? {c : Char} {value : Nat} (isHex : hexValue? c = some value) :
    isHexDigit c = true := by
  simp only [isHexDigit, Bool.or_eq_true, Bool.and_eq_true, decide_eq_true_eq]
  unfold hexValue? at isHex
  split at isHex
  next decimal => exact Or.inl (Or.inl decimal)
  next =>
    split at isHex
    next small => exact Or.inl (Or.inr small)
    next =>
      split at isHex
      next capital => exact Or.inr capital
      next => contradiction

theorem WritesUnit.content {unit : Nat} {text rest : Text} (writes : WritesUnit unit text)
    (others : Content rest) : Content (text ++ rest) := by
  cases writes with
  | @escape first second third fourth unit isUnit =>
      simp only [unitValue?, Option.bind_eq_bind, Option.bind_eq_some_iff] at isUnit
      obtain ⟨_, isFirst, _, isSecond, _, isThird, _, isFourth, -⟩ := isUnit
      have areHex : ∀ c ∈ [first, second, third, fourth], isHexDigit c = true := by
        simp only [List.forall_mem_cons, List.not_mem_nil, false_implies, implies_true, and_true]
        exact ⟨isHexDigit_of_hexValue? isFirst, isHexDigit_of_hexValue? isSecond,
          isHexDigit_of_hexValue? isThird, isHexDigit_of_hexValue? isFourth⟩
      exact .unit rfl areHex others

theorem SpellsCharacter.content {c : Char} {text rest : Text} (spells : SpellsCharacter c text)
    (others : Content rest) : Content (text ++ rest) := by
  cases spells with
  | plain printable noMark noBackslash => exact .plain printable noMark noBackslash others
  | short isShort => exact .short (mem_escapeMarks isShort) others
  | unit isUnit => exact isUnit.content others
  | pair _ _ _ writesHigh writesLow =>
      rw [List.append_assoc]
      exact writesHigh.content (writesLow.content others)

theorem Spells.content {content text : Text} (spells : Spells content text) : Content text := by
  induction spells with
  | nil => exact .nil
  | cons spellsFirst _ inductionHypothesis => exact spellsFirst.content inductionHypothesis

/-! ## Values -/

/-- The symbols of the grammar; an element is a value with blanks around it. -/
inductive Symbol where
  | object
  | array
  | value
  | element
  | elements
  | member
  | members

/-- The texts of a symbol. -/
inductive Derives : Symbol → Text → Prop where
  | emptyObject {inside : Text} (filling : IsFilling inside) :
      Derives .object ('\x7b' :: (inside ++ ['\x7d']))
  | object {inside : Text} (members : Derives .members inside) :
      Derives .object ('\x7b' :: (inside ++ ['\x7d']))
  | emptyArray {inside : Text} (filling : IsFilling inside) :
      Derives .array ('[' :: (inside ++ [']']))
  | array {inside : Text} (elements : Derives .elements inside) :
      Derives .array ('[' :: (inside ++ [']']))
  | ofObject {text : Text} (object : Derives .object text) : Derives .value text
  | ofArray {text : Text} (array : Derives .array text) : Derives .value text
  | string {content : Text} (isContent : Content content) :
      Derives .value ('"' :: (content ++ ['"']))
  | number (number : WrittenNumber) : Derives .value number.text
  | constant {text : Text} (isConstant : text ∈ ["true", "false", "null"].map String.toList) :
      Derives .value text
  | element {before text after : Text} (fillsBefore : IsFilling before)
      (value : Derives .value text) (fillsAfter : IsFilling after) :
      Derives .element (before ++ (text ++ after))
  | lastElement {text : Text} (element : Derives .element text) : Derives .elements text
  | furtherElement {text rest : Text} (element : Derives .element text)
      (others : Derives .elements rest) : Derives .elements (text ++ ',' :: rest)
  | member {before name gap text : Text} (fillsBefore : IsFilling before)
      (isContent : Content name) (fillsGap : IsFilling gap) (element : Derives .element text) :
      Derives .member (before ++ '"' :: (name ++ '"' :: (gap ++ ':' :: text)))
  | lastMember {text : Text} (member : Derives .member text) : Derives .members text
  | furtherMember {text rest : Text} (member : Derives .member text)
      (others : Derives .members rest) : Derives .members (text ++ ',' :: rest)

/-- The symbol of a piece. -/
def Piece.symbol : Piece → Symbol
  | value _ => .value
  | padded _ => .element
  | items _ => .elements
  | member _ => .member
  | members _ => .members

theorem Writes.derives {piece : Piece} {text : Text} (writes : Writes piece text) :
    Derives piece.symbol text := by
  induction writes with
  | null => exact .constant (by decide)
  | bool value => cases value <;> exact .constant (by decide)
  | number number _ => exact .number number
  | string spells => exact .string spells.content
  | emptyArray filling => exact .ofArray (.emptyArray filling)
  | array _ inductionHypothesis => exact .ofArray (.array inductionHypothesis)
  | emptyObject filling => exact .ofObject (.emptyObject filling)
  | object _ inductionHypothesis => exact .ofObject (.object inductionHypothesis)
  | padded fillsBefore _ fillsAfter inductionHypothesis =>
      exact .element fillsBefore inductionHypothesis fillsAfter
  | lastItem _ inductionHypothesis => exact .lastElement inductionHypothesis
  | furtherItem _ _ itemHypothesis othersHypothesis =>
      exact .furtherElement itemHypothesis othersHypothesis
  | member fillsBefore spellsName fillsGap _ inductionHypothesis =>
      exact .member fillsBefore spellsName.content fillsGap inductionHypothesis
  | lastMember _ inductionHypothesis => exact .lastMember inductionHypothesis
  | furtherMember _ _ memberHypothesis othersHypothesis =>
      exact .furtherMember memberHypothesis othersHypothesis

/-- What writes an object is derived as one, not only as a value. -/
theorem Writes.derives_object {members : List (LooseText × Json)} {text : Text}
    (writes : Writes (.value (.object members)) text) : Derives .object text := by
  cases writes with
  | number number isValue =>
      unfold WrittenNumber.value at isValue
      split at isValue <;> contradiction
  | emptyObject filling => exact .emptyObject filling
  | object writesMembers => exact .object writesMembers.derives

end Rendezvous.Json
