import Rendezvous.Text.Lowercase

/-!
Contract: ASCII letters in either case, and how they differ from blanks.

Owns:
- `sameLetter_iff_toLower`: a small ASCII letter stands for the letters that it is the small
  form of, and for nothing else among letters;
- `eq_of_sameLetter_sign`: a sign stands for itself only;
- `lower_eq_map_toLower`: ASCII letters become small letter by letter;
- the blanks, which are no letters and are their own small form.
-/

namespace Rendezvous.Text

theorem toNat_toLower (c : Char) :
    c.toLower.toNat = if 65 ≤ c.toNat ∧ c.toNat ≤ 90 then c.toNat + 32 else c.toNat := by
  unfold Char.toLower
  simp only [Char.toNat, UInt32.le_iff_toNat_le, ge_iff_le]
  split
  next capital =>
    have bounds : 65 ≤ c.val.toNat ∧ c.val.toNat ≤ 90 := capital
    rw [if_pos bounds, UInt32.toNat_add]
    have shift : ('a'.val - 'A'.val).toNat = 32 := by decide
    rw [shift]
    omega
  next other =>
    have bounds : ¬ (65 ≤ c.val.toNat ∧ c.val.toNat ≤ 90) := other
    rw [if_neg bounds]

theorem isLower_iff (c : Char) : c.isLower = true ↔ 97 ≤ c.toNat ∧ c.toNat ≤ 122 := by
  change (decide (c.val ≥ 'a'.val) && decide (c.val ≤ 'z'.val)) = true ↔ _
  simp only [ge_iff_le, UInt32.le_iff_toNat_le, Bool.and_eq_true, decide_eq_true_eq]
  rfl

theorem isUpper_iff (c : Char) : c.isUpper = true ↔ 65 ≤ c.toNat ∧ c.toNat ≤ 90 := by
  change decide (c.val ≥ 'A'.val ∧ c.val ≤ 'Z'.val) = true ↔ _
  simp only [ge_iff_le, UInt32.le_iff_toNat_le, decide_eq_true_eq]
  rfl

theorem eq_of_toNat_eq {left right : Char} (same : left.toNat = right.toNat) : left = right :=
  Char.ext (UInt32.toNat_inj.1 same)

theorem toLower_of_isLower {c : Char} (small : c.isLower = true) : c.toLower = c := by
  rw [isLower_iff] at small
  apply eq_of_toNat_eq
  rw [toNat_toLower, if_neg (by omega)]

/-- Among letters, a small letter stands for itself and its capital only. -/
theorem sameLetter_iff_toLower {letter c : Char} (smallLetter : letter.isLower = true)
    (isLetter : c.toLower.isLower = true) : sameLetter letter c = true ↔ c.toLower = letter := by
  have ascii : c.toNat < 128 := by
    rw [isLower_iff, toNat_toLower] at isLetter
    split at isLetter <;> omega
  have plain : ∀ other : Char, 128 ≤ other.toNat → (c == other) = false := by
    rintro other far
    rw [beq_eq_false_iff_ne]
    rintro rfl
    omega
  rw [sameLetter, plain '\u017f' (by decide), plain '\u212a' (by decide),
    plain '\u0130' (by decide), plain '\u0131' (by decide)]
  simp only [Bool.and_false, Bool.or_false, Bool.or_eq_true, beq_iff_eq]
  constructor
  · rintro (rfl | same)
    · exact toLower_of_isLower smallLetter
    · exact same
  · exact Or.inr

theorem sameLetter_toLower (c : Char) : sameLetter c.toLower c = true := by
  simp [sameLetter]

/-- Nothing but itself stands for a sign. -/
theorem eq_of_sameLetter_sign {sign c : Char} (notSmall : sign.isLower = false)
    (same : sameLetter sign c = true) : c = sign := by
  simp only [sameLetter, Bool.or_eq_true, Bool.and_eq_true, beq_iff_eq] at same
  rcases same with (((itself | isSmall) | ⟨rfl, -⟩) | ⟨rfl, -⟩) | ⟨rfl, -⟩
  · exact itself
  · have number := toNat_toLower c
    rw [isSmall] at number
    by_cases capital : 65 ≤ c.toNat ∧ c.toNat ≤ 90
    · rw [if_pos capital] at number
      have small := (isLower_iff sign).2 (by omega)
      rw [notSmall] at small
      contradiction
    · rw [if_neg capital] at number
      exact (eq_of_toNat_eq number).symm
  · contradiction
  · contradiction
  · contradiction

/-! ## Blanks -/

theorem isBlank_bounds {c : Char} (blank : isBlank c = true) :
    c.toNat ≤ 32 ∨ c.toNat = 0x85 ∨ c.toNat = 0xA0 ∨ c.toNat = 0x1680 ∨ 0x2000 ≤ c.toNat := by
  simp only [isBlank, CodeRange.anyHolds, blankRanges, CodeRange.holds, List.any_cons,
    List.any_nil, Bool.or_eq_true, Bool.and_eq_true, decide_eq_true_eq, Bool.or_false] at blank
  omega

theorem isBlank_of_isLower {c : Char} (isLetter : c.toLower.isLower = true) :
    isBlank c = false := by
  rw [← Bool.not_eq_true]
  intro blank
  have bounds := isBlank_bounds blank
  rw [isLower_iff, toNat_toLower] at isLetter
  split at isLetter <;> omega

theorem isBlank_of_isLetterLike {c : Char} (letter : isLetterLike c = true) :
    isBlank c = false := by
  change ((c.isUpper || c.isLower) || _ || _ || _ || _) = true at letter
  simp only [Bool.or_eq_true, beq_iff_eq] at letter
  rcases letter with ((((capital | small) | rfl) | rfl) | rfl) | rfl
  · rw [isUpper_iff] at capital
    rw [← Bool.not_eq_true]
    intro blank
    have bounds := isBlank_bounds blank
    omega
  · exact isBlank_of_isLower ((toLower_of_isLower small).symm ▸ small)
  · decide
  · decide
  · decide
  · decide

/-- No letter stands for a blank. -/
theorem sameLetter_of_isBlank {letter c : Char} (smallLetter : letter.isLower = true)
    (blank : isBlank c = true) : sameLetter letter c = false := by
  have bounds := isBlank_bounds blank
  rw [isLower_iff] at smallLetter
  have apart : ∀ other : Char, isBlank other = false → (c == other) = false := by
    intro other notBlank
    rw [beq_eq_false_iff_ne]
    rintro rfl
    rw [blank] at notBlank
    contradiction
  have itself : (c == letter) = false := by
    rw [beq_eq_false_iff_ne]
    rintro rfl
    omega
  have small : (c.toLower == letter) = false := by
    rw [beq_eq_false_iff_ne]
    rintro rfl
    rw [toNat_toLower] at smallLetter
    split at smallLetter <;> omega
  simp only [sameLetter, itself, small, apart '\u017f' (by decide), apart '\u212a' (by decide),
    apart '\u0130' (by decide), apart '\u0131' (by decide), Bool.and_false, Bool.or_false]

/-! ## Lower case -/

theorem lowerCharacter_of_isLower {c : Char} (isLetter : c.toLower.isLower = true) :
    lowerCharacter c = [c.toLower] := by
  have ascii : c.toNat < 128 := by
    rw [isLower_iff, toNat_toLower] at isLetter
    split at isLetter <;> omega
  have plain : c ≠ '\u0130' := by
    rintro rfl
    contradiction
  rw [lowerCharacter, if_neg plain, lowerLetter]
  simp only [ascii, ↓reduceIte]

/-- ASCII letters become small letter by letter. -/
theorem lower_eq_map_toLower {text : Text} (letters : ∀ c ∈ text, c.toLower.isLower = true) :
    lower text = text.map Char.toLower := by
  induction text with
  | nil => rfl
  | cons c rest inductionHypothesis =>
      rw [lower, List.flatMap_cons, lowerCharacter_of_isLower (letters c List.mem_cons_self)]
      exact congrArg _ (inductionHypothesis fun other member =>
        letters other (List.mem_cons_of_mem _ member))

theorem lower_append (front back : Text) : lower (front ++ back) = lower front ++ lower back :=
  List.flatMap_append

end Rendezvous.Text
