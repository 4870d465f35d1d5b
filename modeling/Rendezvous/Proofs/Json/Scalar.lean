import Rendezvous.Proofs.Json.Grammar
import Rendezvous.Proofs.Text.Loose

/-!
Contract: strings and numbers are read to their ends, however they are written.

Owns:
- `scanString_spells`, a string up to its closing mark;
- `Follows`, what can stand behind a value, so that no number goes on there;
- `scanNumber_text` and `scanScalar_number`, a number in front of such a text.
-/

namespace Rendezvous.Json

/-! ## Strings -/

theorem scanParts_unit {unit : Nat} {text : Text} (isUnit : WritesUnit unit text) (opening : Nat)
    {rest : Text} (closes : rest ≠ []) :
    scanParts opening (text ++ rest) =
      (scanParts opening rest).map fun (parts, left) => (.unit unit :: parts, left) := by
  obtain ⟨isUnit⟩ := isUnit
  have notEmpty : ¬ rest.isEmpty = true := by simpa using closes
  change scanParts opening ('\\' :: 'u' :: _ :: _ :: _ :: _ :: rest) = _
  rw [scanParts, isUnit]
  exact if_neg notEmpty

theorem scanParts_short {c mark : Char} (isShort : shortEscape? mark = some c) (opening : Nat)
    (rest : Text) :
    scanParts opening ('\\' :: mark :: rest) =
      (scanParts opening rest).map fun (parts, left) => (.character c :: parts, left) := by
  unfold shortEscape? at isShort
  split at isShort
  all_goals first | (obtain rfl := Option.some.inj isShort; rfl) | contradiction

theorem scanParts_plain {c : Char} (printable : 0x20 ≤ c.toNat) (noMark : c ≠ '"')
    (noBackslash : c ≠ '\\') (opening : Nat) (rest : Text) :
    scanParts opening (c :: rest) =
      (scanParts opening rest).map fun (parts, left) => (.character c :: parts, left) := by
  rw [scanParts]
  · exact if_neg (Nat.not_lt.2 printable)
  · exact noMark
  · exact fun same _ => noBackslash same
  · exact fun _ _ _ _ _ same _ => noBackslash same
  · exact fun _ same _ => noBackslash same
  · exact fun _ _ same _ => noBackslash same

/-- No character is half of a surrogate pair. -/
theorem isHalf_toNat (c : Char) :
    CodePoint.isHighHalf c.toNat = false ∧ CodePoint.isLowHalf c.toNat = false := by
  have valid : c.toNat < 0xD800 ∨ 0xDFFF < c.toNat ∧ c.toNat < 0x110000 := c.valid
  simp only [CodePoint.isHighHalf, CodePoint.isLowHalf, Bool.and_eq_false_iff,
    decide_eq_false_iff_not]
  omega

theorem ofNumber_toNat (c : Char) : CodePoint.ofNumber c.toNat = .char c := by
  obtain ⟨noHigh, noLow⟩ := isHalf_toNat c
  have noHalf : ¬ (CodePoint.isHighHalf c.toNat || CodePoint.isLowHalf c.toNat) = true := by
    rw [noHigh, noLow]
    decide
  rw [CodePoint.ofNumber, if_neg noHalf, Char.ofNat_toNat]

theorem assemble_unit (c : Char) (others : List StringPart) :
    assemble (.unit c.toNat :: others) = .char c :: assemble others := by
  cases others with
  | nil => exact congrArg (· :: _) (ofNumber_toNat c)
  | cons part others =>
      cases part with
      | character other => exact congrArg (· :: _) (ofNumber_toNat c)
      | unit second =>
          have noPair : ¬ (CodePoint.isHighHalf c.toNat && CodePoint.isLowHalf second) = true := by
            rw [(isHalf_toNat c).1, Bool.false_and]
            exact Bool.false_ne_true
          rw [assemble, if_neg noPair, ofNumber_toNat]

theorem assemble_pair {c : Char} {high low : Nat} (isHigh : CodePoint.isHighHalf high = true)
    (isLow : CodePoint.isLowHalf low = true)
    (together : c.toNat = 0x10000 + (high - 0xD800) * 0x400 + (low - 0xDC00))
    (others : List StringPart) :
    assemble (.unit high :: .unit low :: others) = .char c :: assemble others := by
  have isPair : (CodePoint.isHighHalf high && CodePoint.isLowHalf low) = true := by
    rw [isHigh, isLow]
    rfl
  rw [assemble, if_pos isPair, CodePoint.ofPair, ← together, Char.ofNat_toNat]

/-- However a character is written, it is read as parts that stand for it. -/
theorem SpellsCharacter.exists_parts {c : Char} {text : Text} (spells : SpellsCharacter c text) :
    ∃ parts, (∀ opening rest, rest ≠ [] → scanParts opening (text ++ rest) =
        (scanParts opening rest).map fun (others, left) => (parts ++ others, left)) ∧
      ∀ others, assemble (parts ++ others) = .char c :: assemble others := by
  cases spells with
  | plain printable noMark noBackslash =>
      exact ⟨[.character c],
        fun opening rest _ => scanParts_plain printable noMark noBackslash opening rest,
        fun others => rfl⟩
  | short isShort =>
      exact ⟨[.character c], fun opening rest _ => scanParts_short isShort opening rest,
        fun others => rfl⟩
  | unit isUnit =>
      exact ⟨[.unit c.toNat], fun opening rest closes => scanParts_unit isUnit opening closes,
        assemble_unit c⟩
  | @pair high low first second isHigh isLow together writesHigh writesLow =>
      -- Each half is a part by itself; only both in a row stand for the character.
      refine ⟨[.unit high, .unit low], fun opening rest closes => ?_,
        assemble_pair isHigh isLow together⟩
      have further : second ++ rest ≠ [] := by simp [closes]
      rw [List.append_assoc, scanParts_unit writesHigh opening further,
        scanParts_unit writesLow opening closes]
      cases scanParts opening rest <;> rfl

/-- A string is read up to its closing mark. -/
theorem scanString_spells {content text : Text} (spells : Spells content text) (rest : Text) :
    scanString (text ++ '"' :: rest) = .ok (content.loose, rest) := by
  have exists_parts : ∀ opening, ∃ parts, scanParts opening (text ++ '"' :: rest) =
      .ok (parts, rest) ∧ assemble parts = content.loose := by
    intro opening
    induction spells with
    | nil => exact ⟨[], rfl, rfl⟩
    | @cons c content first others spellsFirst _ inductionHypothesis =>
        obtain ⟨parts, scanned, assembled⟩ := inductionHypothesis
        obtain ⟨firstParts, scannedFirst, assembledFirst⟩ := spellsFirst.exists_parts
        refine ⟨firstParts ++ parts, ?_, ?_⟩
        · rw [List.append_assoc, scannedFirst opening _ (by simp), scanned]
          rfl
        · rw [assembledFirst, assembled]
          rfl
  obtain ⟨parts, scanned, assembled⟩ := exists_parts ((text ++ '"' :: rest).length + 1)
  rw [scanString, scanned, ← assembled]
  rfl

/-! ## Numbers -/

/-- The characters that can stand behind a value. -/
def valueEnds : List Char :=
  [' ', '\t', '\n', '\r', ',', ']', '\x7d']

/-- A text that can stand behind a value. -/
def Follows (rest : Text) : Prop :=
  ∀ c ∈ rest.head?, c ∈ valueEnds

theorem follows_cons {c : Char} (ends : c ∈ valueEnds) (rest : Text) : Follows (c :: rest) := by
  intro head isHead
  obtain rfl := Option.some.inj isHead
  exact ends

theorem mem_valueEnds_of_isFiller {c : Char} (filler : isFiller c = true) : c ∈ valueEnds := by
  simp only [isFiller, Bool.or_eq_true, beq_iff_eq] at filler
  rcases filler with ((rfl | rfl) | rfl) | rfl <;> decide

theorem Follows.filling {filling rest : Text} (fills : IsFilling filling) (follows : Follows rest) :
    Follows (filling ++ rest) := by
  cases filling with
  | nil => exact follows
  | cons c others => exact follows_cons (mem_valueEnds_of_isFiller (fills c List.mem_cons_self)) _

/-- The characters at which the digits of a number end. -/
def digitsEnds : List Char :=
  '.' :: 'e' :: 'E' :: valueEnds

theorem isAsciiDigit_of_mem_digitsEnds {c : Char} (ends : c ∈ digitsEnds) :
    Numeral.isAsciiDigit c = false := by
  have none : digitsEnds.all (fun other => !Numeral.isAsciiDigit other) = true := by decide
  simpa using List.all_eq_true.1 none c ends

theorem head_powerText (number : WrittenNumber) {rest : Text} (follows : Follows rest) :
    ∀ c ∈ (number.powerText ++ rest).head?, c ∈ 'e' :: 'E' :: valueEnds := by
  intro c isHead
  unfold WrittenNumber.powerText at isHead
  cases found : number.power with
  | none =>
      rw [found] at isHead
      exact List.mem_cons_of_mem _ (List.mem_cons_of_mem _ (follows c isHead))
  | some power =>
      rw [found] at isHead
      obtain rfl : power.mark = c := Option.some.inj isHead
      rcases power.isMark with mark | mark
      · exact mark ▸ List.mem_cons_self
      · exact mark ▸ List.mem_cons_of_mem _ List.mem_cons_self

theorem head_behindText (number : WrittenNumber) {rest : Text} (follows : Follows rest) :
    ∀ c ∈ (number.behindText ++ (number.powerText ++ rest)).head?, c ∈ digitsEnds := by
  intro c isHead
  unfold WrittenNumber.behindText at isHead
  split at isHead
  next => exact List.mem_cons_of_mem _ (head_powerText number follows c isHead)
  next =>
    obtain rfl := Option.some.inj isHead
    exact List.mem_cons_self

theorem scanDigits_behindText {digits rest : Text}
    (areDigits : ∀ c ∈ digits, Numeral.isAsciiDigit c = true)
    (ends : ∀ c ∈ rest.head?, c ∈ digitsEnds) :
    Numeral.scanDigits (digits ++ rest) = (digits, rest) := by
  apply Text.scanDigits_append areDigits
  cases rest with
  | nil => rfl
  | cons c rest => exact isAsciiDigit_of_mem_digitsEnds (ends c rfl)

theorem scanSign_digits {digits rest : Text} (someDigit : digits ≠ [])
    (areDigits : ∀ c ∈ digits, Numeral.isAsciiDigit c = true) :
    Numeral.scanSign (digits ++ rest) = (false, digits ++ rest) := by
  obtain ⟨c, others, rfl⟩ := List.exists_cons_of_ne_nil someDigit
  have isDigit := areDigits c List.mem_cons_self
  rw [List.cons_append]
  unfold Numeral.scanSign
  split
  next same => exact absurd (List.cons.inj same).1 (Text.isAsciiDigit_ne isDigit (by decide))
  next same => exact absurd (List.cons.inj same).1 (Text.isAsciiDigit_ne isDigit (by decide))
  next => rfl

theorem scanSign_signed (power : WrittenPower) (rest : Text) :
    Numeral.scanSign (power.sign.text ++ (power.digits ++ rest)) =
      (power.sign.isMinus, power.digits ++ rest) := by
  cases power.sign with
  | absent =>
      rw [PowerSign.text, List.nil_append]
      exact scanSign_digits power.someDigit power.areDigits
  | plus => rfl
  | minus => rfl

theorem scanPower_text (power : WrittenPower) {rest : Text} (follows : Follows rest) :
    scanPower (power.text ++ rest) = (some power.value, rest) := by
  have scanned := scanDigits_behindText power.areDigits fun c isHead =>
    List.mem_append_right ['.', 'e', 'E'] (follows c isHead)
  have someDigit : ¬ power.digits.isEmpty = true := by simpa using power.someDigit
  rw [WrittenPower.text, List.cons_append, List.append_assoc]
  dsimp only [scanPower]
  rw [if_pos power.isMark, scanSign_signed, scanned]
  exact if_neg someDigit

theorem scanPower_powerText (number : WrittenNumber) {rest : Text} (follows : Follows rest) :
    scanPower (number.powerText ++ rest) = (number.power.map WrittenPower.value, rest) := by
  unfold WrittenNumber.powerText
  cases number.power with
  | some power => exact scanPower_text power follows
  | none =>
      cases rest with
      | nil => rfl
      | cons c rest =>
          have noMark : ¬ (c = 'e' ∨ c = 'E') := by
            have ends : c ∈ valueEnds := follows c rfl
            rintro (rfl | rfl)
            · exact absurd ends (by decide)
            · exact absurd ends (by decide)
          exact if_neg noMark

theorem scanBehind_behindText (number : WrittenNumber) {rest : Text} (follows : Follows rest) :
    scanBehind (number.behindText ++ (number.powerText ++ rest)) =
      (number.behind, number.powerText ++ rest) := by
  have ends := head_powerText number follows
  unfold WrittenNumber.behindText
  split
  next noDigit =>
    rw [List.isEmpty_iff.1 noDigit, List.nil_append]
    unfold scanBehind
    split
    next left same =>
      rw [same] at ends
      exact absurd (ends '.' rfl) (by decide)
    next => rfl
  next someDigit =>
    have areDigits : ∀ c ∈ number.behind, Numeral.isAsciiDigit c = true := fun c member =>
      number.areDigits c (List.mem_append_right _ member)
    have scanned := scanDigits_behindText areDigits fun c isHead =>
      List.mem_cons_of_mem _ (ends c isHead)
    rw [List.cons_append, scanBehind, scanned]
    exact if_neg someDigit

theorem scanWhole?_whole (number : WrittenNumber) {rest : Text}
    (ends : ∀ c ∈ rest.head?, c ∈ digitsEnds) :
    scanWhole? (number.whole ++ rest) = some (number.whole, rest) := by
  have areDigits : ∀ c ∈ number.whole, Numeral.isAsciiDigit c = true := fun c member =>
    number.areDigits c (List.mem_append_left _ member)
  obtain ⟨c, others, whole⟩ := List.exists_cons_of_ne_nil number.someDigit
  -- Behind a leading zero no digit is read, but then the zero is all there is.
  by_cases isZero : c = '0'
  · have alone : number.whole = ['0'] := number.noLeadingZero (by rw [whole, isZero]; rfl)
    rw [alone]
    rfl
  · have scanned := scanDigits_behindText areDigits ends
    unfold scanWhole?
    split
    next left same =>
      rw [whole] at same
      exact absurd (List.cons.inj same).1 isZero
    next =>
      rw [scanned]
      exact if_neg (by simpa using number.someDigit)

theorem length_whole_le (number : WrittenNumber)
    (small : Text.digitsValue number.whole < powerOfTen Fault.digitLimit) :
    number.whole.length ≤ Fault.digitLimit := by
  by_cases isZero : number.whole.head? = some '0'
  · rw [number.noLeadingZero isZero]
    decide
  · exact Text.length_le_of_digitsValue_lt
      (fun c member => number.areDigits c (List.mem_append_left _ member)) isZero small

/-- What stands behind the sign of a number. -/
theorem sign_of_text (number : WrittenNumber) {rest unsigned : Text} {negative : Bool}
    (signed : (match number.text ++ rest with
      | '-' :: left => (true, left)
      | _ => (false, number.text ++ rest)) = (negative, unsigned)) :
    negative = number.negative ∧ unsigned = number.unsignedText ++ rest := by
  obtain ⟨c, others, unsignedHead, isDigit⟩ := number.exists_digit
  unfold WrittenNumber.text at signed
  cases sign : number.negative with
  | true =>
      rw [sign] at signed
      obtain ⟨rfl, rfl⟩ := Prod.mk.inj signed
      exact ⟨rfl, rfl⟩
  | false =>
      rw [sign, if_neg Bool.false_ne_true] at signed
      split at signed
      next left same =>
        rw [unsignedHead] at same
        exact absurd (List.cons.inj same).1 (Text.isAsciiDigit_ne isDigit (by decide))
      next =>
        obtain ⟨rfl, rfl⟩ := Prod.mk.inj signed
        exact ⟨rfl, rfl⟩

theorem Fits.small {depth : Nat} {value : Int} (fits : Fits depth (.integer value)) :
    value.natAbs < powerOfTen Fault.digitLimit := by
  cases fits with
  | integer short => exact short

/-- A number is read to its end. -/
theorem scanNumber_text (number : WrittenNumber) {rest : Text} (follows : Follows rest)
    {depth : Nat} (fits : Fits depth number.value) :
    scanNumber (number.text ++ rest) = .ok (number.value, rest) := by
  have whole : scanWhole? (number.unsignedText ++ rest) =
      some (number.whole, number.behindText ++ (number.powerText ++ rest)) := by
    rw [WrittenNumber.unsignedText, List.append_assoc, List.append_assoc]
    exact scanWhole?_whole number (head_behindText number follows)
  unfold scanNumber
  split
  next negative unsigned signed =>
    obtain ⟨rfl, rfl⟩ := sign_of_text number signed
    rw [whole]
    dsimp only
    rw [scanBehind_behindText number follows, scanPower_powerText number follows]
    dsimp only
    rw [Option.isNone_map]
    unfold WrittenNumber.value at fits ⊢
    split
    next plain =>
      rw [if_pos plain] at fits
      have short : Text.digitsValue number.whole < powerOfTen Fault.digitLimit := by
        have small := fits.small
        cases sign : number.negative <;> simpa [sign] using small
      exact if_neg (Nat.not_lt.2 (length_whole_le number short))
    next => rfl

/-- No name of a value begins with a digit. -/
theorem namedValues_head : ∀ named ∈ namedValues,
    named.1.head?.any (fun first => !Numeral.isAsciiDigit first) = true := by
  decide

theorem find?_namedValues {c : Char} (isDigit : Numeral.isAsciiDigit c = true) (rest : Text) :
    (namedValues.find? fun named => Text.beginsWith (c :: rest) named.1) = none := by
  rw [List.find?_eq_none]
  intro named member begins
  have head := namedValues_head named member
  cases name : named.1 with
  | nil =>
      rw [name] at head
      contradiction
  | cons first others =>
      rw [name, Text.beginsWith, List.isPrefixOf_iff_prefix, List.cons_prefix_cons] at begins
      rw [name, begins.1] at head
      simp [isDigit] at head

/-- No name of a value is a minus sign in front of a digit. -/
theorem namedValues_minus : ∀ named ∈ namedValues, named.1.head? = some '-' →
    named.1.tail.head?.any (fun second => !Numeral.isAsciiDigit second) = true := by
  decide

theorem find?_namedValues_minus {c : Char} (isDigit : Numeral.isAsciiDigit c = true)
    (rest : Text) :
    (namedValues.find? fun named => Text.beginsWith ('-' :: c :: rest) named.1) = none := by
  rw [List.find?_eq_none]
  intro named member begins
  have head := namedValues_head named member
  have second := namedValues_minus named member
  rw [Text.beginsWith, List.isPrefixOf_iff_prefix] at begins
  match name : named.1 with
  | [] =>
      rw [name] at head
      contradiction
  | [first] =>
      rw [name, List.cons_prefix_cons] at begins
      rw [name, begins.1] at second
      exact absurd (second rfl) (by decide)
  | first :: next :: others =>
      rw [name, List.cons_prefix_cons, List.cons_prefix_cons] at begins
      rw [name, begins.1, begins.2.1] at second
      have noDigit := second rfl
      simp [isDigit] at noDigit

theorem scanScalar_number (number : WrittenNumber) {rest : Text} (follows : Follows rest)
    {depth : Nat} (fits : Fits depth number.value) :
    scanScalar (number.text ++ rest) = .ok (number.value, rest) := by
  have noName : (namedValues.find? fun named => Text.beginsWith (number.text ++ rest) named.1) =
      none := by
    obtain ⟨c, others, unsigned, isDigit⟩ := number.exists_digit
    rw [WrittenNumber.text, unsigned]
    split
    next => exact find?_namedValues_minus isDigit (others ++ rest)
    next => exact find?_namedValues isDigit (others ++ rest)
  rw [scanScalar, noName]
  exact scanNumber_text number follows fits

end Rendezvous.Json
