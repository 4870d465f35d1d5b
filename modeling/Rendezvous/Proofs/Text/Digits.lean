import Rendezvous.Fault
import Rendezvous.Number.Numeral
import Rendezvous.Number.Power
import Rendezvous.Proofs.Text.Occurrence

/-!
Contract: digits, and how large a number that is written in digits can be.

Owns:
- ASCII digits, which are digits and no blanks, and `scanDigits_append`, a run of them;
- `digitsValue_lt`, the bound by the number of digits, and `length_le_of_digitsValue_lt`, the
  converse without leading zeros;
- `digitsValue_ofNatPadded`, the number that the digits of a number denote, and
  `readDigits_cases`, the number that is read off a run of digits.
-/

namespace Rendezvous.Text

theorem isAsciiDigit_iff (c : Char) :
    Numeral.isAsciiDigit c = true ↔ 48 ≤ c.toNat ∧ c.toNat ≤ 57 := by
  rw [Numeral.isAsciiDigit, Bool.and_eq_true, decide_eq_true_eq, decide_eq_true_eq]
  rfl

theorem digitValue?_of_isAsciiDigit {c : Char} (ascii : Numeral.isAsciiDigit c = true) :
    digitValue? c = some (c.toNat - 48) := by
  rw [isAsciiDigit_iff] at ascii
  have inAscii : c.toNat < 128 := by omega
  simp only [digitValue?, inAscii, ascii, and_self, ↓reduceIte]

theorem isDigit_of_isAsciiDigit {c : Char} (ascii : Numeral.isAsciiDigit c = true) :
    isDigit c = true := by
  rw [isDigit, digitValue?_of_isAsciiDigit ascii, Option.isSome_some]

theorem isBlank_of_isAsciiDigit {c : Char} (ascii : Numeral.isAsciiDigit c = true) :
    isBlank c = false := by
  rw [isAsciiDigit_iff] at ascii
  rw [← Bool.not_eq_true]
  intro blank
  have bounds := isBlank_bounds blank
  omega

theorem isAsciiDigit_ne {c other : Char} (digit : Numeral.isAsciiDigit c = true)
    (apart : Numeral.isAsciiDigit other = false) : c ≠ other := by
  rintro rfl
  rw [digit] at apart
  contradiction

theorem scanDigits_append {digits rest : Text}
    (areDigits : ∀ c ∈ digits, Numeral.isAsciiDigit c = true)
    (stops : rest.head?.any Numeral.isAsciiDigit = false) :
    Numeral.scanDigits (digits ++ rest) = (digits, rest) := by
  have none : rest.takeWhile Numeral.isAsciiDigit = [] ∧
      rest.dropWhile Numeral.isAsciiDigit = rest := by
    cases rest with
    | nil => exact ⟨rfl, rfl⟩
    | cons c rest =>
        have notDigit : ¬ Numeral.isAsciiDigit c = true := Bool.eq_false_iff.1 stops
        exact ⟨List.takeWhile_cons_of_neg notDigit, List.dropWhile_cons_of_neg notDigit⟩
  rw [Numeral.scanDigits, List.takeWhile_append_of_pos areDigits,
    List.dropWhile_append_of_pos areDigits, none.1, none.2, List.append_nil]

theorem isDigit_ofNat_blankCodes : ∀ code ∈ blankCodes, isDigit (Char.ofNat code) = false := by
  decide +kernel

theorem isDigit_of_isBlank {c : Char} (blank : isBlank c = true) : isDigit c = false := by
  have noDigit := isDigit_ofNat_blankCodes c.toNat (toNat_mem_blankCodes blank)
  rwa [Char.ofNat_toNat] at noDigit

theorem digitValue?_lt {c : Char} {value : Nat} (isDigit : digitValue? c = some value) :
    value < 10 := by
  simp only [digitValue?] at isDigit
  split at isDigit
  next =>
    split at isDigit
    next bounds =>
      have := Option.some.inj isDigit
      omega
    next => contradiction
  next =>
    obtain ⟨first, isFirst, same⟩ := Option.map_eq_some_iff.1 isDigit
    have found := List.find?_some isFirst
    have bounds : first ≤ c.toNat ∧ c.toNat < first + 10 := of_decide_eq_true found
    omega

theorem digitValue_le (c : Char) : (digitValue? c).getD 0 ≤ 9 := by
  cases value : digitValue? c with
  | none => exact Nat.zero_le 9
  | some digit => exact Nat.le_of_lt_succ (digitValue?_lt value)

theorem powerOfTen_succ (exponent : Nat) : powerOfTen (exponent + 1) = 10 * powerOfTen exponent :=
  Nat.mul_comm (powerOfTen exponent) 10

theorem powerOfTen_mono {low high : Nat} (ordered : low ≤ high) :
    powerOfTen low ≤ powerOfTen high :=
  Nat.pow_le_pow_right (by decide) ordered

/-- Digits behind a number write a number below the next power of ten. -/
theorem foldl_digits_lt (digits : Text) (start : Nat) :
    digits.foldl (fun value c => value * 10 + (digitValue? c).getD 0) start <
      (start + 1) * powerOfTen digits.length := by
  induction digits generalizing start with
  | nil => exact Nat.lt_of_lt_of_eq (Nat.lt_succ_self start) (Nat.mul_one _).symm
  | cons c rest inductionHypothesis =>
      have further := inductionHypothesis (start * 10 + (digitValue? c).getD 0)
      have digit := digitValue_le c
      have grows : (start * 10 + (digitValue? c).getD 0 + 1) * powerOfTen rest.length ≤
          (start * 10 + 10) * powerOfTen rest.length := Nat.mul_le_mul_right _ (by omega)
      have same : (start * 10 + 10) * powerOfTen rest.length =
          (start + 1) * powerOfTen (c :: rest).length := by
        have tens : start * 10 + 10 = (start + 1) * 10 := (Nat.succ_mul start 10).symm
        rw [List.length_cons, powerOfTen_succ, ← Nat.mul_assoc, tens]
      rw [List.foldl_cons]
      omega

theorem digitsValue_lt (digits : Text) : digitsValue digits < powerOfTen digits.length := by
  have bound := foldl_digits_lt digits 0
  rw [Nat.zero_add, Nat.one_mul] at bound
  exact bound

theorem le_foldl_digits (digits : Text) (start : Nat) :
    start * powerOfTen digits.length ≤
      digits.foldl (fun value c => value * 10 + (digitValue? c).getD 0) start := by
  induction digits generalizing start with
  | nil => exact Nat.le_of_eq (Nat.mul_one start)
  | cons c rest inductionHypothesis =>
      have further := inductionHypothesis (start * 10 + (digitValue? c).getD 0)
      have grows : start * 10 * powerOfTen rest.length ≤
          (start * 10 + (digitValue? c).getD 0) * powerOfTen rest.length :=
        Nat.mul_le_mul_right _ (Nat.le_add_right _ _)
      rw [List.foldl_cons, List.length_cons, powerOfTen_succ, ← Nat.mul_assoc]
      exact Nat.le_trans grows further

theorem powerOfTen_le_digitsValue {c : Char} (ascii : Numeral.isAsciiDigit c = true)
    (notZero : c ≠ '0') (rest : Text) : powerOfTen rest.length ≤ digitsValue (c :: rest) := by
  have positive : 1 ≤ 0 * 10 + (digitValue? c).getD 0 := by
    have value := digitValue?_of_isAsciiDigit ascii
    have bounds := (isAsciiDigit_iff c).1 ascii
    have notCode : c.toNat ≠ 48 := fun code => notZero (by rw [← Char.ofNat_toNat c, code])
    rw [value, Option.getD_some]
    omega
  have lower := le_foldl_digits rest (0 * 10 + (digitValue? c).getD 0)
  exact Nat.le_trans (Nat.le_mul_of_pos_left _ positive) lower

/-- A number without a leading zero has no more digits than its size tells. -/
theorem length_le_of_digitsValue_lt {digits : Text} {limit : Nat}
    (areDigits : ∀ c ∈ digits, Numeral.isAsciiDigit c = true) (noZero : digits.head? ≠ some '0')
    (small : digitsValue digits < powerOfTen limit) : digits.length ≤ limit := by
  cases digits with
  | nil => exact Nat.zero_le limit
  | cons c rest =>
      have notZero : c ≠ '0' := fun isZero => noZero (congrArg some isZero)
      have lower := powerOfTen_le_digitsValue (areDigits c List.mem_cons_self) notZero rest
      exact (Nat.pow_lt_pow_iff_right (by decide : 1 < 10)).1 (Nat.lt_of_le_of_lt lower small)

/-! ## Numbers in digits -/

theorem isAsciiDigit_of_mem_ofNat {value : Nat} {c : Char} (member : c ∈ ofNat value) :
    Numeral.isAsciiDigit c = true := by
  have isDigit : c.isDigit = true := Nat.isDigit_of_mem_toDigits (by decide) (by decide) member
  exact isDigit

/-- ASCII digits denote what they denote in the standard library. -/
theorem foldl_digits_eq {digits : Text}
    (areDigits : ∀ c ∈ digits, Numeral.isAsciiDigit c = true) (start : Nat) :
    digits.foldl (fun value c => value * 10 + (digitValue? c).getD 0) start =
      Nat.ofDigitChars 10 digits start := by
  induction digits generalizing start with
  | nil => rfl
  | cons c rest inductionHypothesis =>
      have isDigit := digitValue?_of_isAsciiDigit (areDigits c List.mem_cons_self)
      have further := inductionHypothesis fun other member =>
        areDigits other (List.mem_cons_of_mem _ member)
      rw [List.foldl_cons, Nat.ofDigitChars_cons, further, isDigit, Option.getD_some, Nat.mul_comm]
      rfl

variable {width value : Nat}

theorem isAsciiDigit_of_mem_ofNatPadded {c : Char} (member : c ∈ ofNatPadded width value) :
    Numeral.isAsciiDigit c = true := by
  rcases List.mem_append.1 member with inPadding | inDigits
  · rw [List.eq_of_mem_replicate inPadding]
    rfl
  · exact isAsciiDigit_of_mem_ofNat inDigits

/-- Digits with leading zeros denote the number that they write. -/
theorem digitsValue_ofNatPadded (width value : Nat) :
    digitsValue (ofNatPadded width value) = value := by
  rw [digitsValue, foldl_digits_eq fun c member => isAsciiDigit_of_mem_ofNatPadded member,
    ofNatPadded, Nat.ofDigitChars_append, Nat.ofDigitChars_replicate_zero, Nat.mul_zero]
  exact Nat.ofDigitChars_ten_toDigits

theorem length_ofNatPadded (positive : 0 < width) (small : value < powerOfTen width) :
    (ofNatPadded width value).length = width := by
  have short : (ofNat value).length ≤ width :=
    (Nat.length_toDigits_le_iff (by decide) positive).2 small
  rw [ofNatPadded, List.length_append, List.length_replicate]
  omega

/-- Digits are read unless there are too many of them. -/
theorem readDigits_cases (digits : Text) :
    (digits.length ≤ 4300 ∧ readDigits digits = .ok (digitsValue digits)) ∨
    (4300 < digits.length ∧
      readDigits digits = .error (.numeralTooLong digits.length)) := by
  unfold readDigits
  split
  next short => exact Or.inl ⟨short, rfl⟩
  next long => exact Or.inr ⟨Nat.lt_of_not_le long, rfl⟩

end Rendezvous.Text
