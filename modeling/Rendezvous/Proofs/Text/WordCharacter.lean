import Rendezvous.Proofs.Text.Letter
import Rendezvous.Text.WordCharacter

/-!
Contract: where a word begins or ends in a text.

Owns:
- `Text.endsWordAt` and `Text.beginsWordAt`, whether a word character stands on one side of a
  position;
- `Text.isWordCharacter_of_isBlank` and `Text.isWordCharacter_of_sameLetter`: blanks are no word
  characters, and whatever stands for a letter is one.
-/

namespace Rendezvous.Text

variable {c : Char}

/-- Whether a word character stands directly before a position. -/
def endsWordAt (text : Text) (position : Nat) : Bool :=
  (text.take position).getLast?.any isWordCharacter

/-- Whether a word character stands directly behind a position. -/
def beginsWordAt (text : Text) (position : Nat) : Bool :=
  (text.drop position).head?.any isWordCharacter

theorem isWordCharacter_of_isBlank (blank : isBlank c = true) : isWordCharacter c = false := by
  have disjoint : ∀ blanks ∈ blankRanges, ∀ words ∈ wordRanges,
      blanks.last < words.first ∨ words.last < blanks.first := by
    decide +kernel
  have bounds := isBlank_bounds blank
  rw [isWordCharacter]
  split
  next ascii =>
    have small : c.isLower = false := by
      rw [Bool.eq_false_iff, ne_eq, isLower_iff]
      omega
    have capital : c.isUpper = false := by
      rw [Bool.eq_false_iff, ne_eq, isUpper_iff]
      omega
    have digit : c.isDigit = false := by
      rw [Bool.eq_false_iff]
      intro isDigit
      simp only [Char.isDigit, UInt32.le_iff_toNat_le, Bool.and_eq_true, decide_eq_true_eq,
        ge_iff_le] at isDigit
      change 48 ≤ c.toNat ∧ c.toNat ≤ 57 at isDigit
      omega
    have lowLine : (c == '_') = false := by
      rw [beq_eq_false_iff_ne]
      rintro rfl
      exact absurd blank (by decide)
    change ((c.isUpper || c.isLower) || c.isDigit || c == '_') = false
    rw [small, capital, digit, lowLine]
    rfl
  next =>
    rw [← Bool.not_eq_true]
    intro inWords
    obtain ⟨blanks, areBlanks, inBlanks⟩ := List.any_eq_true.1 blank
    obtain ⟨words, areWords, inRange⟩ := List.any_eq_true.1 inWords
    simp only [CodeRange.holds, Bool.and_eq_true, decide_eq_true_eq] at inBlanks inRange
    have apart := disjoint blanks areBlanks words areWords
    omega

theorem isWordCharacter_of_isLower (isLetter : c.toLower.isLower = true) :
    isWordCharacter c = true := by
  have bounds : (65 ≤ c.toNat ∧ c.toNat ≤ 90) ∨ (97 ≤ c.toNat ∧ c.toNat ≤ 122) := by
    rw [isLower_iff, toNat_toLower] at isLetter
    split at isLetter <;> omega
  rw [isWordCharacter, if_pos (by omega)]
  change ((c.isUpper || c.isLower) || c.isDigit || c == '_') = true
  rcases bounds with capital | small
  · rw [(isUpper_iff c).2 capital]
    rfl
  · rw [(isLower_iff c).2 small, Bool.or_true]
    rfl

/-- Whatever stands for a letter is part of a word. -/
theorem isWordCharacter_of_sameLetter {letter : Char} (small : letter.isLower = true)
    (same : sameLetter letter c = true) : isWordCharacter c = true := by
  simp only [sameLetter, Bool.or_eq_true, Bool.and_eq_true, beq_iff_eq] at same
  rcases same with (((rfl | isLetter) | ⟨-, rfl⟩) | ⟨-, rfl⟩) | ⟨-, rfl | rfl⟩
  · exact isWordCharacter_of_isLower ((toLower_of_isLower small).symm ▸ small)
  · exact isWordCharacter_of_isLower (isLetter.symm ▸ small)
  · decide +kernel
  · decide +kernel
  · decide +kernel
  · decide +kernel

end Rendezvous.Text
