import Rendezvous.Json.Read
import Rendezvous.Proofs.Text.Digits

/-!
Contract: the texts that write a document.

Owns:
- `Spells`, the ways to write a text between the marks of a string;
- `WrittenNumber`, a number as it is written, with its text and its value;
- `Writes`, which says of a value, and of items and members in a row, that a text writes it;
- `Fits`, the values within the limits of reading.

A value has many texts: blanks may stand around each part, each character of a string may be
escaped, and numbers may have a power.  Strings with half of a surrogate pair, and numbers
that are not finite, have no text here.

Does not own: that these texts are read back (`Proofs.Json.Reading`).
-/

namespace Rendezvous.Json

/-- A text of blanks between the parts of a document. -/
def IsFilling (text : Text) : Prop :=
  ∀ c ∈ text, isFiller c = true

/-! ## Strings -/

/-- A 16-bit unit, written as an escape with four hexadecimal digits. -/
inductive WritesUnit : Nat → Text → Prop where
  | escape {first second third fourth : Char} {unit : Nat}
      (isUnit : unitValue? first second third fourth = some unit) :
      WritesUnit unit ['\\', 'u', first, second, third, fourth]

/-- The ways to write a character in a string. -/
inductive SpellsCharacter : Char → Text → Prop where
  | plain {c : Char} (printable : 0x20 ≤ c.toNat) (noMark : c ≠ '"') (noBackslash : c ≠ '\\') :
      SpellsCharacter c [c]
  | short {c mark : Char} (isShort : shortEscape? mark = some c) :
      SpellsCharacter c ['\\', mark]
  | unit {c : Char} {text : Text} (isUnit : WritesUnit c.toNat text) : SpellsCharacter c text
  | pair {c : Char} {high low : Nat} {first second : Text}
      (isHigh : CodePoint.isHighHalf high = true) (isLow : CodePoint.isLowHalf low = true)
      (together : c.toNat = 0x10000 + (high - 0xD800) * 0x400 + (low - 0xDC00))
      (writesHigh : WritesUnit high first) (writesLow : WritesUnit low second) :
      SpellsCharacter c (first ++ second)

/-- The ways to write a text in a string, character by character. -/
inductive Spells : Text → Text → Prop where
  | nil : Spells [] []
  | cons {c : Char} {content first rest : Text} (spellsFirst : SpellsCharacter c first)
      (spellsRest : Spells content rest) : Spells (c :: content) (first ++ rest)

/-- The characters that can stand for themselves in a string. -/
def isPlain (c : Char) : Bool :=
  0x20 ≤ c.toNat && c != '"' && c != '\\'

/-- A text of such characters can be written as it is. -/
theorem spells_plain (text : Text) (plain : text.all isPlain = true) : Spells text text := by
  induction text with
  | nil => exact .nil
  | cons c rest inductionHypothesis =>
      rw [List.all_cons, Bool.and_eq_true] at plain
      have isPlain := plain.1
      simp only [Json.isPlain, Bool.and_eq_true, decide_eq_true_eq, bne_iff_ne] at isPlain
      exact .cons (.plain isPlain.1.1 isPlain.1.2 isPlain.2) (inductionHypothesis plain.2)

theorem Spells.append {first second firstText secondText : Text}
    (spellsFirst : Spells first firstText) (spellsSecond : Spells second secondText) :
    Spells (first ++ second) (firstText ++ secondText) := by
  induction spellsFirst with
  | nil => exact spellsSecond
  | cons spellsHead _ inductionHypothesis =>
      rw [List.cons_append, List.append_assoc]
      exact .cons spellsHead inductionHypothesis

/-! ## Numbers -/

/-- The sign of a power. -/
inductive PowerSign where
  | absent
  | plus
  | minus

namespace PowerSign

def text : PowerSign → Text
  | absent => []
  | plus => ['+']
  | minus => ['-']

def isMinus : PowerSign → Bool
  | minus => true
  | _ => false

end PowerSign

/-- A power of ten as it is written. -/
structure WrittenPower where
  mark : Char
  sign : PowerSign
  digits : Text
  isMark : mark = 'e' ∨ mark = 'E'
  someDigit : digits ≠ []
  areDigits : ∀ c ∈ digits, Numeral.isAsciiDigit c = true

namespace WrittenPower

def text (power : WrittenPower) : Text :=
  power.mark :: (power.sign.text ++ power.digits)

def value (power : WrittenPower) : Int :=
  let magnitude : Int := Text.digitsValue power.digits
  if power.sign.isMinus then -magnitude else magnitude

end WrittenPower

/-- A number as it is written: digits without a leading zero, then digits behind a point if
there are any, then a power if there is one. -/
structure WrittenNumber where
  negative : Bool
  whole : Text
  behind : Text
  power : Option WrittenPower
  someDigit : whole ≠ []
  noLeadingZero : whole.head? = some '0' → whole = ['0']
  areDigits : ∀ c ∈ whole ++ behind, Numeral.isAsciiDigit c = true

namespace WrittenNumber

def behindText (number : WrittenNumber) : Text :=
  if number.behind.isEmpty then [] else '.' :: number.behind

def powerText (number : WrittenNumber) : Text :=
  (number.power.map WrittenPower.text).getD []

def unsignedText (number : WrittenNumber) : Text :=
  number.whole ++ (number.behindText ++ number.powerText)

def text (number : WrittenNumber) : Text :=
  if number.negative then '-' :: number.unsignedText else number.unsignedText

/-- A number without a point and without a power is whole. -/
def value (number : WrittenNumber) : Json :=
  if number.behind.isEmpty ∧ number.power.isNone then
    let magnitude : Int := Text.digitsValue number.whole
    .integer (if number.negative then -magnitude else magnitude)
  else
    .real (Binary64.ofDecimal number.negative (Text.digitsValue (number.whole ++ number.behind))
      ((number.power.map WrittenPower.value).getD 0 - number.behind.length))

end WrittenNumber

/-! ## Values -/

/-- What a text can write: a value, alone or with blanks around it, and what stands inside
one. -/
inductive Piece where
  | value (value : Json)
  | padded (value : Json)
  | items (items : List Json)
  | member (member : LooseText × Json)
  | members (members : List (LooseText × Json))

/-- The texts that write a piece. -/
inductive Writes : Piece → Text → Prop where
  | null : Writes (.value .null) "null".toList
  | bool (value : Bool) :
      Writes (.value (.bool value)) (if value then "true".toList else "false".toList)
  | number (number : WrittenNumber) {value : Json} (isValue : number.value = value) :
      Writes (.value value) number.text
  | string {content text : Text} (spells : Spells content text) :
      Writes (.value (.string content.loose)) ('"' :: (text ++ ['"']))
  | emptyArray {inside : Text} (filling : IsFilling inside) :
      Writes (.value (.array [])) ('[' :: (inside ++ [']']))
  | array {items : List Json} {inside : Text} (writesItems : Writes (.items items) inside) :
      Writes (.value (.array items)) ('[' :: (inside ++ [']']))
  | emptyObject {inside : Text} (filling : IsFilling inside) :
      Writes (.value (.object [])) ('\x7b' :: (inside ++ ['\x7d']))
  | object {members : List (LooseText × Json)} {inside : Text}
      (writesMembers : Writes (.members members) inside) :
      Writes (.value (.object members)) ('\x7b' :: (inside ++ ['\x7d']))
  | padded {value : Json} {before text after : Text} (fillsBefore : IsFilling before)
      (writesValue : Writes (.value value) text) (fillsAfter : IsFilling after) :
      Writes (.padded value) (before ++ (text ++ after))
  | lastItem {item : Json} {text : Text} (writesItem : Writes (.padded item) text) :
      Writes (.items [item]) text
  | furtherItem {item : Json} {others : List Json} {text rest : Text}
      (writesItem : Writes (.padded item) text) (writesOthers : Writes (.items others) rest) :
      Writes (.items (item :: others)) (text ++ ',' :: rest)
  | member {name : Text} {value : Json} {before nameText gap text : Text}
      (fillsBefore : IsFilling before) (spellsName : Spells name nameText)
      (fillsGap : IsFilling gap) (writesValue : Writes (.padded value) text) :
      Writes (.member (name.loose, value))
        (before ++ '"' :: (nameText ++ '"' :: (gap ++ ':' :: text)))
  | lastMember {member : LooseText × Json} {text : Text}
      (writesMember : Writes (.member member) text) : Writes (.members [member]) text
  | furtherMember {member : LooseText × Json} {others : List (LooseText × Json)}
      {text rest : Text} (writesMember : Writes (.member member) text)
      (writesOthers : Writes (.members others) rest) :
      Writes (.members (member :: others)) (text ++ ',' :: rest)

/-- A text that writes a document: a value with blanks around it. -/
abbrev WritesDocument (value : Json) (text : Text) : Prop :=
  Writes (.padded value) text

theorem isFilling_nil : IsFilling [] :=
  fun _ member => absurd member List.not_mem_nil

/-- A value is a document without blanks around it. -/
theorem Writes.document {value : Json} {text : Text} (writes : Writes (.value value) text) :
    WritesDocument value text := by
  have around := Writes.padded isFilling_nil writes isFilling_nil
  rwa [List.append_nil] at around

/-- A member without blanks. -/
theorem Writes.compactMember {name nameText text : Text} {value : Json}
    (spells : Spells name nameText) (writes : Writes (.value value) text) :
    Writes (.member (name.loose, value)) ('"' :: (nameText ++ '"' :: ':' :: text)) :=
  .member isFilling_nil spells isFilling_nil writes.document

/-- Each depth has the levels of what is exchanged, and perhaps more. -/
theorem Depth.exists_levels (depth : Depth) : ∃ further, depth.levels = further + 4 := by
  have ample := depth.ample
  exact ⟨depth.levels - 4, by omega⟩

/-- The values that can be read with `depth` composite values inside one another. -/
inductive Fits : Nat → Json → Prop where
  | null {depth : Nat} : Fits depth .null
  | bool {depth : Nat} {value : Bool} : Fits depth (.bool value)
  | integer {depth : Nat} {value : Int} (short : value.natAbs < powerOfTen Fault.digitLimit) :
      Fits depth (.integer value)
  | real {depth : Nat} {value : Binary64} : Fits depth (.real value)
  | string {depth : Nat} {content : LooseText} : Fits depth (.string content)
  | array {depth : Nat} {items : List Json} (fit : ∀ item ∈ items, Fits depth item) :
      Fits (depth + 1) (.array items)
  | object {depth : Nat} {members : List (LooseText × Json)}
      (fit : ∀ member ∈ members, Fits depth member.2) : Fits (depth + 1) (.object members)

theorem fits_of_lt_ten {depth : Nat} {value : Int} (small : value.natAbs < 10) :
    Fits depth (.integer value) := by
  have ten : powerOfTen 1 ≤ powerOfTen Fault.digitLimit := Text.powerOfTen_mono (by decide)
  exact .integer (Nat.lt_of_lt_of_le small ten)

/-- The pieces within the limits of reading. -/
def Piece.Fits (depth : Nat) : Piece → Prop
  | .value content | .padded content => Json.Fits depth content
  | .items contents => ∀ content ∈ contents, Json.Fits depth content
  | .member named => Json.Fits depth named.2
  | .members contents => ∀ named ∈ contents, Json.Fits depth named.2

/-! ## How a value begins -/

/-- The characters with which a value can begin. -/
def beginsValue (c : Char) : Bool :=
  Numeral.isAsciiDigit c || ['"', '[', '\x7b', '-', 'n', 't', 'f'].contains c

theorem beginsValue_ne {c other : Char} (begins : beginsValue c = true)
    (apart : beginsValue other = false) : c ≠ other := by
  rintro rfl
  rw [begins] at apart
  contradiction

theorem isFiller_of_beginsValue {c : Char} (begins : beginsValue c = true) :
    isFiller c = false := by
  have apart : ∀ other, beginsValue other = false → (c == other) = false :=
    fun other stops => beq_eq_false_iff_ne.2 (beginsValue_ne begins stops)
  rw [isFiller, apart ' ' (by decide), apart '\t' (by decide), apart '\n' (by decide),
    apart '\r' (by decide)]
  rfl

theorem WrittenNumber.exists_digit (number : WrittenNumber) :
    ∃ c others, number.unsignedText = c :: others ∧ Numeral.isAsciiDigit c = true := by
  obtain ⟨c, others, whole⟩ := List.exists_cons_of_ne_nil number.someDigit
  have inWhole : c ∈ number.whole ++ number.behind := by
    rw [whole]
    exact List.mem_cons_self
  refine ⟨c, others ++ (number.behindText ++ number.powerText), ?_, number.areDigits c inWhole⟩
  rw [unsignedText, whole, List.cons_append]

theorem WrittenNumber.exists_head (number : WrittenNumber) :
    ∃ c others, number.text = c :: others ∧ (Numeral.isAsciiDigit c = true ∨ c = '-') := by
  obtain ⟨c, others, unsigned, isDigit⟩ := number.exists_digit
  rw [text]
  split
  next => exact ⟨'-', number.unsignedText, rfl, Or.inr rfl⟩
  next => exact ⟨c, others, unsigned, Or.inl isDigit⟩

theorem Writes.exists_head {value : Json} {text : Text} (writes : Writes (.value value) text) :
    ∃ c others, text = c :: others ∧ beginsValue c = true := by
  cases writes with
  | number number _ =>
      obtain ⟨c, others, isText, isDigit | rfl⟩ := number.exists_head
      · exact ⟨c, others, isText, by rw [beginsValue, isDigit, Bool.true_or]⟩
      · exact ⟨'-', others, isText, rfl⟩
  | bool value => cases value <;> exact ⟨_, _, rfl, rfl⟩
  | _ => exact ⟨_, _, rfl, rfl⟩

end Rendezvous.Json
