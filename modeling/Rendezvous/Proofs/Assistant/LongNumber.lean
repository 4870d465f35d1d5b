import Rendezvous.Proofs.Assistant.EmbeddedObject
import Rendezvous.Proofs.Json.Reading
import Rendezvous.Proofs.Json.Refusal

/-!
Contract: replies with a whole number that is too long to be read.

Owns:
- `Reply.ofDigits`, a reply whose title is such a number;
- `Reply.embeddedObject?_ofDigits` and `Json.read_ofDigits`: the reply is its own object,
  and the object cannot be read.
-/

namespace Rendezvous

/-- A reply whose title is a number. -/
def Reply.ofDigits (digits : Text) : Text :=
  "\x7b\"title\": ".toList ++ (digits ++ "\x7d".toList)

variable {digits rest : Text}

namespace Reply

theorem embeddedObject?_ofDigits (areDigits : ∀ c ∈ digits, Numeral.isAsciiDigit c = true) :
    embeddedObject? (ofDigits digits) = some (ofDigits digits) := by
  have name : Passes 1 .outside "\"title\"".toList 1 .outside :=
    passes_string (Json.spells_plain "title".toList (by decide)).content
  have colon : Passes 1 .outside ": ".toList 1 .outside :=
    passes_plain (List.all_eq_true.1 (by decide))
  have inside := name.append (colon.append (passes_digits areDigits))
  exact embeddedObject?_of_passes List.not_mem_nil inside []

end Reply

namespace Json

/-- A whole number behind which its object ends. -/
structure IsLong (digits : Text) : Prop where
  areDigits : ∀ c ∈ digits, Numeral.isAsciiDigit c = true
  noZero : digits.head? ≠ some '0'
  long : 4300 < digits.length

theorem IsLong.exists_head (isLong : IsLong digits) :
    ∃ c others, digits = c :: others ∧ Numeral.isAsciiDigit c = true ∧ c ≠ '0' := by
  cases digits with
  | nil => exact absurd isLong.long (by decide)
  | cons c others =>
      exact ⟨c, others, rfl, isLong.areDigits c List.mem_cons_self,
        fun isZero => isLong.noZero (congrArg some isZero)⟩

/-- A whole number that is too long is refused where its object ends. -/
theorem scanScalar_long (isLong : IsLong digits) :
    scanScalar (digits ++ "\x7d".toList) = .error (.numeralTooLong digits.length) := by
  obtain ⟨c, others, rfl, isDigit, notZero⟩ := isLong.exists_head
  have notMinus : c ≠ '-' := Text.isAsciiDigit_ne isDigit (by decide)
  have whole : scanWhole? (c :: others ++ "\x7d".toList) =
      some (c :: others, "\x7d".toList) := by
    unfold scanWhole?
    split
    next rest stands => exact absurd (List.cons.inj stands).1 notZero
    next => rw [Text.scanDigits_append isLong.areDigits rfl]; rfl
  unfold scanScalar
  rw [List.cons_append, find?_namedValues isDigit]
  change scanNumber (c :: others ++ "\x7d".toList) = _
  unfold scanNumber
  split
  next negative unsigned signed =>
    have plain : unsigned = c :: others ++ "\x7d".toList := by
      split at signed
      next rest stands => exact absurd (List.cons.inj stands).1 notMinus
      next => exact (Prod.mk.inj signed).2.symm
    subst plain
    rw [whole]
    exact if_pos isLong.long

theorem scanValue_long (depth fuel : Nat) (isLong : IsLong digits) :
    scanValue depth (fuel + 1) (digits ++ "\x7d".toList) =
      .error (.numeralTooLong digits.length) := by
  obtain ⟨c, others, rfl, isDigit, -⟩ := isLong.exists_head
  have notMark : c ≠ '"' ∧ c ≠ '\x7b' ∧ c ≠ '[' :=
    ⟨Text.isAsciiDigit_ne isDigit (by decide), Text.isAsciiDigit_ne isDigit (by decide),
      Text.isAsciiDigit_ne isDigit (by decide)⟩
  unfold scanValue
  split
  next rest stands => exact absurd (List.cons.inj stands).1 notMark.1
  next rest stands => exact absurd (List.cons.inj stands).1 notMark.2.1
  next rest stands => exact absurd (List.cons.inj stands).1 notMark.2.2
  next => exact scanScalar_long isLong

theorem skipFiller_of_isLong (isLong : IsLong digits) (rest : Text) :
    skipFiller (digits ++ rest) = digits ++ rest := by
  obtain ⟨c, others, rfl, isDigit, -⟩ := isLong.exists_head
  have begins : beginsValue c = true := by rw [beginsValue, isDigit, Bool.true_or]
  exact skipFiller_cons (isFiller_of_beginsValue begins) _

/-- The members of the object, behind its opening mark. -/
theorem scanMembers_ofDigits (depth fuel : Nat) (isLong : IsLong digits) :
    scanMembers depth (fuel + 2) ("\"title\": ".toList ++ (digits ++ "\x7d".toList)) =
      .error (.numeralTooLong digits.length) := by
  have behindName : scanString ("title\": ".toList ++ (digits ++ "\x7d".toList)) =
      .ok (Text.loose "title".toList, ": ".toList ++ (digits ++ "\x7d".toList)) := rfl
  have value : scanValue depth (fuel + 1) (skipFiller (" ".toList ++ (digits ++ "\x7d".toList))) =
      .error (.numeralTooLong digits.length) := by
    have skipped : skipFiller (" ".toList ++ (digits ++ "\x7d".toList)) =
        skipFiller (digits ++ "\x7d".toList) := rfl
    rw [skipped, skipFiller_of_isLong isLong, scanValue_long depth fuel isLong]
  change scanMembers depth (fuel + 1 + 1)
    ('"' :: ("title\": ".toList ++ (digits ++ "\x7d".toList))) = _
  rw [scanMembers, behindName]
  change Except.bind (scanValue depth (fuel + 1)
    (skipFiller (" ".toList ++ (digits ++ "\x7d".toList)))) _ = _
  rw [value]
  rfl

/-- The object whose title is such a number. -/
theorem scanValue_ofDigits (depth fuel : Nat) (isLong : IsLong digits) :
    scanValue (depth + 1) (fuel + 3) (Reply.ofDigits digits) =
      .error (.numeralTooLong digits.length) := by
  change scanValue (depth + 1) (fuel + 2 + 1)
    ('\x7b' :: ("\"title\": ".toList ++ (digits ++ "\x7d".toList))) = _
  rw [scanValue, if_neg (Nat.succ_ne_zero depth)]
  change (scanMembers depth (fuel + 2)
    ("\"title\": ".toList ++ (digits ++ "\x7d".toList))).map _ = _
  rw [scanMembers_ofDigits depth fuel isLong]
  rfl

theorem length_ofDigits (digits : Text) :
    (Reply.ofDigits digits).length = 10 + (digits.length + 1) := by
  have opening : "\x7b\"title\": ".toList.length = 10 := by decide
  have closing : "\x7d".toList.length = 1 := by decide
  unfold Reply.ofDigits
  rw [List.length_append, List.length_append, opening, closing]

theorem scanDocument_ofDigits (depth : Depth) (isLong : IsLong digits) :
    scanDocument depth (Reply.ofDigits digits) = .error (.numeralTooLong digits.length) := by
  have size : (Reply.ofDigits digits).length + 1 = (digits.length + 9) + 3 := by
    have := length_ofDigits digits
    omega
  have noFiller : skipFiller (Reply.ofDigits digits) = Reply.ofDigits digits := rfl
  obtain ⟨further, levels⟩ := depth.exists_levels
  rw [scanDocument, size, noFiller, levels, scanValue_ofDigits (further + 3) _ isLong]
  rfl

theorem read_ofDigits (depth : Depth) (isLong : IsLong digits) :
    read (Reply.ofDigits digits) depth = .error (.numeralTooLong digits.length) := by
  unfold read
  split
  next stands => exact absurd (List.cons.inj stands).1 (by decide)
  next => rw [scanDocument_ofDigits depth isLong]

end Json

end Rendezvous
