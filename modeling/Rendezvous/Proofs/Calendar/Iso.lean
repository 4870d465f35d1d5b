import Mathlib.Data.List.Lex
import Rendezvous.Calendar.Iso
import Rendezvous.Proofs.Calendar.Period
import Rendezvous.Proofs.Calendar.Written

/-!
Contract: the standard texts of days are in the order of the days, and are read as these days.

Owns:
- `Text.ofNatPadded_lt`: numbers written with as many digits are in the order of their texts;
- `Day.lt_cases`, the order of days by year, month and day of the month;
- `Day.iso_lt_iso` and `Day.isos_pairwise`;
- `Day.takeWritten?_iso` and `Day.ofIso_iso`: no text of a day is taken for that of a week.

Texts are compared character by character.
-/

namespace Rendezvous

namespace Text

/-- Texts of one length are compared before anything that stands behind them. -/
theorem append_lt_append {left right : Text} (sameLength : left.length = right.length)
    (before : left < right) (leftRest rightRest : Text) :
    left ++ leftRest < right ++ rightRest := by
  induction before with
  | nil => contradiction
  | rel smaller => exact List.Lex.rel smaller
  | cons _ inductionHypothesis =>
      exact List.Lex.cons (inductionHypothesis (Nat.succ.inj sameLength))

/-- The first digit in which two numbers of one length differ decides on their order. -/
theorem lt_of_foldl_digits_lt {left right : Text} (sameLength : left.length = right.length)
    (leftDigits : ∀ c ∈ left, Numeral.isAsciiDigit c = true)
    (rightDigits : ∀ c ∈ right, Numeral.isAsciiDigit c = true) (start : Nat)
    (before : left.foldl (fun value c => value * 10 + (digitValue? c).getD 0) start <
      right.foldl (fun value c => value * 10 + (digitValue? c).getD 0) start) :
    left < right := by
  induction left generalizing right start with
  | nil =>
      rw [List.eq_nil_of_length_eq_zero sameLength.symm] at before
      exact absurd before (Nat.lt_irrefl _)
  | cons c leftRest inductionHypothesis =>
      obtain ⟨d, rightRest, rfl⟩ := List.exists_cons_of_length_eq_add_one sameLength.symm
      have restLength : leftRest.length = rightRest.length := Nat.succ.inj sameLength
      rw [List.foldl_cons, List.foldl_cons] at before
      rcases Nat.lt_trichotomy c.toNat d.toNat with smaller | same | greater
      · exact List.Lex.rel smaller
      · obtain rfl := Char.toNat_inj.1 same
        exact List.Lex.cons (inductionHypothesis restLength
          (fun other member => leftDigits other (List.mem_cons_of_mem _ member))
          (fun other member => rightDigits other (List.mem_cons_of_mem _ member)) _ before)
      · have isDigit := leftDigits c List.mem_cons_self
        have isOtherDigit := rightDigits d List.mem_cons_self
        have atLeast := le_foldl_digits leftRest (start * 10 + (digitValue? c).getD 0)
        have below := foldl_digits_lt rightRest (start * 10 + (digitValue? d).getD 0)
        have ordered : (start * 10 + (digitValue? d).getD 0 + 1) * powerOfTen rightRest.length ≤
            (start * 10 + (digitValue? c).getD 0) * powerOfTen rightRest.length := by
          apply Nat.mul_le_mul_right
          rw [digitValue?_of_isAsciiDigit isDigit, digitValue?_of_isAsciiDigit isOtherDigit,
            Option.getD_some, Option.getD_some]
          rw [isAsciiDigit_iff] at isOtherDigit
          omega
        rw [restLength] at atLeast
        omega

/-- Where each character takes one byte, a text has as many bytes as characters. -/
theorem byteSize_of_single {text : Text} (single : ∀ c ∈ text, c.utf8Size = 1) :
    text.byteSize = text.length := by
  have counted (start : Nat) :
      text.foldl (fun size c => size + c.utf8Size) start = start + text.length := by
    induction text generalizing start with
    | nil => rfl
    | cons c rest inductionHypothesis =>
        have others := inductionHypothesis fun other member =>
          single other (List.mem_cons_of_mem _ member)
        rw [List.foldl_cons, others, single c List.mem_cons_self, List.length_cons]
        omega
  rw [byteSize, counted, Nat.zero_add]

theorem ofNatPadded_lt {width left right : Nat} (positive : 0 < width)
    (small : right < powerOfTen width) (before : left < right) :
    ofNatPadded width left < ofNatPadded width right := by
  apply lt_of_foldl_digits_lt _ (fun c member => isAsciiDigit_of_mem_ofNatPadded member)
    (fun c member => isAsciiDigit_of_mem_ofNatPadded member) 0
  · have leftValue := digitsValue_ofNatPadded width left
    have rightValue := digitsValue_ofNatPadded width right
    rw [digitsValue] at leftValue rightValue
    rwa [leftValue, rightValue]
  · rw [length_ofNatPadded positive small,
      length_ofNatPadded positive (Nat.lt_trans before small)]

end Text

namespace Day

variable {left right : Day}

/-- Of two days the earlier one has the earlier year, month or day of the month, in this order. -/
theorem lt_cases (before : left < right) :
    left.year < right.year ∨ left.year = right.year ∧
      (left.month < right.month ∨
        left.month = right.month ∧ left.dayOfMonth < right.dayOfMonth) := by
  have months := monthIndex_mono (Nat.le_of_lt before)
  have leftMonth := left.month_bounds
  have rightMonth := right.month_bounds
  rw [Int.le_iff_lt_or_eq] at months
  rcases months with earlierMonth | sameMonth
  · simp only [monthIndex] at earlierMonth
    omega
  · have leftOrdinal := ordinal_eq left
    have rightOrdinal := ordinal_eq right
    have sameNumber : left.civil.monthNumber = right.civil.monthNumber := by
      rwa [monthIndex_eq, monthIndex_eq, Int.natCast_inj] at sameMonth
    rw [sameNumber] at leftOrdinal
    rw [lt_iff] at before
    simp only [monthIndex] at sameMonth
    omega

/-- The parts of the standard text of a day, from the back. -/
theorem iso_eq (day : Day) :
    day.iso = Text.ofNatPadded 4 day.year ++ '-' :: (Text.ofNatPadded 2 day.month ++
      '-' :: Text.ofNatPadded 2 day.dayOfMonth) := by
  show Text.ofNatPadded 4 day.year ++ '-' :: Text.ofNatPadded 2 day.month
    ++ '-' :: Text.ofNatPadded 2 day.dayOfMonth = _
  rw [List.append_assoc, List.cons_append]

theorem iso_lt_iso (before : left < right) : left.iso < right.iso := by
  obtain ⟨leftYear, leftMonth, -⟩ := left.parts_small
  obtain ⟨rightYear, rightMonth, rightDay⟩ := right.parts_small
  rw [iso_eq, iso_eq]
  rcases lt_cases before with year | ⟨sameYear, month | ⟨sameMonth, day⟩⟩
  · apply Text.append_lt_append
    · rw [Text.length_ofNatPadded (by decide) leftYear,
        Text.length_ofNatPadded (by decide) rightYear]
    · exact Text.ofNatPadded_lt (by decide) rightYear year
  · rw [sameYear]
    apply List.append_left_lt
    apply List.Lex.cons
    apply Text.append_lt_append
    · rw [Text.length_ofNatPadded (by decide) leftMonth,
        Text.length_ofNatPadded (by decide) rightMonth]
    · exact Text.ofNatPadded_lt (by decide) rightMonth month
  · rw [sameYear, sameMonth]
    apply List.append_left_lt
    apply List.Lex.cons
    apply List.append_left_lt
    apply List.Lex.cons
    exact Text.ofNatPadded_lt (by decide) rightDay day

/-- The standard texts of ascending days ascend. -/
theorem isos_pairwise {days : List Day} (ascends : days.Pairwise (· < ·)) :
    (days.map iso).Pairwise (· < ·) :=
  List.pairwise_map.2 (ascends.imp iso_lt_iso)

/-! ## Reading -/

theorem takeDigits?_ofNatPadded {width value : Nat} (positive : 0 < width)
    (small : value < powerOfTen width) (rest : Text) :
    takeDigits? width (Text.ofNatPadded width value ++ rest) = some (value, rest) := by
  have size := Text.length_ofNatPadded positive small
  have allDigits : (Text.ofNatPadded width value).all Numeral.isAsciiDigit = true :=
    List.all_eq_true.2 fun c member => Text.isAsciiDigit_of_mem_ofNatPadded member
  rw [takeDigits?, List.take_left' size, List.drop_left' size, if_pos ⟨size, allDigits⟩,
    Text.digitsValue_ofNatPadded]

/-- A month begins with a digit, which tells its text from that of a week. -/
theorem takeWritten?_iso (day : Day) :
    takeWritten? day.iso = some (.civil day.year day.month day.dayOfMonth, []) := by
  obtain ⟨year, month, dayOfMonth⟩ := day.parts_small
  obtain ⟨tens, ones, isMonth⟩ :=
    exists_two (Text.length_ofNatPadded (by decide : 0 < 2) month)
  have tensDigit : Numeral.isAsciiDigit tens = true :=
    Text.isAsciiDigit_of_mem_ofNatPadded (isMonth ▸ List.mem_cons_self)
  have notWeek : tens ≠ 'W' := Text.isAsciiDigit_ne tensDigit (by decide)
  have monthTaken (rest : Text) : takeDigits? 2 (tens :: ones :: rest) = some (day.month, rest) := by
    have taken := takeDigits?_ofNatPadded (by decide) month rest
    rwa [isMonth] at taken
  have dayTaken := takeDigits?_ofNatPadded (by decide) dayOfMonth []
  rw [List.append_nil] at dayTaken
  rw [iso_eq, takeWritten?, takeDigits?_ofNatPadded (by decide) year, isMonth]
  simp [takeHyphen?, notWeek, monthTaken, dayTaken]

theorem length_iso (day : Day) : day.iso.length = 10 := by
  obtain ⟨year, month, dayOfMonth⟩ := day.parts_small
  rw [iso_eq, List.length_append, List.length_cons, List.length_append, List.length_cons,
    Text.length_ofNatPadded (by decide) year, Text.length_ofNatPadded (by decide) month,
    Text.length_ofNatPadded (by decide) dayOfMonth]

theorem utf8Size_of_mem_iso {day : Day} {c : Char} (member : c ∈ day.iso) : c.utf8Size = 1 := by
  have ofDigit (digit : Numeral.isAsciiDigit c = true) : c.utf8Size = 1 := by
    rw [Text.isAsciiDigit_iff] at digit
    rw [Char.utf8Size_eq_one_iff]
    exact UInt32.le_iff_toNat_le.2 (digit.2.trans (by decide))
  rw [iso_eq] at member
  rcases List.mem_append.1 member with inYear | behindYear
  · exact ofDigit (Text.isAsciiDigit_of_mem_ofNatPadded inYear)
  rcases List.mem_cons.1 behindYear with rfl | behindHyphen
  · rfl
  rcases List.mem_append.1 behindHyphen with inMonth | behindMonth
  · exact ofDigit (Text.isAsciiDigit_of_mem_ofNatPadded inMonth)
  rcases List.mem_cons.1 behindMonth with rfl | inDay
  · rfl
  · exact ofDigit (Text.isAsciiDigit_of_mem_ofNatPadded inDay)

theorem hasWrittenSize_iso (day : Day) : hasWrittenSize day.iso = true := by
  have bytes : day.iso.byteSize = 10 := by
    rw [Text.byteSize_of_single fun c => utf8Size_of_mem_iso, length_iso]
  rw [hasWrittenSize, bytes]
  rfl

/-- The standard text of a day is read as that day. -/
theorem ofIso_iso (day : Day) : ofIso day.iso = .ok day := by
  rw [ofIso, readWritten?, if_pos (hasWrittenSize_iso day), takeWritten?_iso]
  exact ofCivil_civil day

end Day

end Rendezvous
