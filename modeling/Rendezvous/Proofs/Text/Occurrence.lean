import Rendezvous.Proofs.Text.Letter

/-!
Contract: where a word can occur in words with blanks between them.

Owns:
- `occursIn_iff`, occurrence as a contiguous piece;
- `occursIn_append_blanks`: a word that occurs in two texts with blanks between them occurs
  in one of the two;
- `lower_of_isBlank`, blanks in lower case.
-/

namespace Rendezvous.Text

variable {part front back gap : Text}

theorem occursIn_iff (part text : Text) : part.occursIn text = true ↔ part <:+: text := by
  induction text with
  | nil => rw [occursIn, List.isEmpty_iff, List.infix_nil]
  | cons c rest inductionHypothesis =>
      rw [occursIn, Bool.or_eq_true, List.isPrefixOf_iff_prefix, inductionHypothesis,
        List.infix_cons_iff]

/-- A piece without a given character lies before or behind it. -/
theorem infix_append_cons_iff {c : Char} (apart : c ∉ part) (proper : part ≠ []) :
    part <:+: front ++ c :: back ↔ part <:+: front ∨ part <:+: back := by
  have notHere : ∀ text : Text, part <+: text ++ c :: back → part <+: text := by
    intro text begins
    rcases List.prefix_or_prefix_of_prefix begins (List.prefix_append text (c :: back)) with
      inside | ⟨surplus, split⟩
    · exact inside
    · cases surplus with
      | nil => exact (List.append_nil text ▸ split) ▸ List.prefix_refl _
      | cons d surplus =>
          rw [← split, List.prefix_append_right_inj, List.cons_prefix_cons] at begins
          exact absurd (split ▸ List.mem_append_right text (begins.1 ▸ List.mem_cons_self)) apart
  induction front with
  | nil =>
      rw [List.nil_append, List.infix_cons_iff]
      constructor
      · rintro (begins | later)
        · exact Or.inl (notHere [] begins).isInfix
        · exact Or.inr later
      · rintro (inNothing | later)
        · exact absurd (List.infix_nil.1 inNothing) proper
        · exact Or.inr later
  | cons d front inductionHypothesis =>
      have further : part <:+: front ++ c :: back ↔ part <:+: front ∨ part <:+: back :=
        inductionHypothesis
      rw [List.cons_append, List.infix_cons_iff, List.infix_cons_iff, further,
        ← List.cons_append]
      constructor
      · rintro (begins | before | behind)
        · exact Or.inl (Or.inl (notHere (d :: front) begins))
        · exact Or.inl (Or.inr before)
        · exact Or.inr behind
      · rintro ((begins | before) | behind)
        · exact Or.inl (begins.trans (List.prefix_append _ _))
        · exact Or.inr (Or.inl before)
        · exact Or.inr (Or.inr behind)

theorem infix_append_gap_iff (apart : ∀ c ∈ gap, c ∉ part) (proper : part ≠ [])
    (between : gap ≠ []) :
    part <:+: front ++ (gap ++ back) ↔ part <:+: front ∨ part <:+: back := by
  induction gap generalizing front with
  | nil => contradiction
  | cons c gap inductionHypothesis =>
      rw [List.cons_append, infix_append_cons_iff (apart c List.mem_cons_self) proper]
      cases gap with
      | nil => rw [List.nil_append]
      | cons d gap =>
          have rest : part <:+: [] ++ (d :: gap ++ back) ↔ part <:+: [] ∨ part <:+: back :=
            inductionHypothesis
              (fun other member => apart other (List.mem_cons_of_mem _ member))
              (List.cons_ne_nil d gap)
          rw [List.nil_append, List.infix_nil] at rest
          rw [rest, or_iff_right proper]

/-- A word does not reach over blanks. -/
theorem occursIn_append_blanks (letters : ∀ c ∈ part, isBlank c = false) (proper : part ≠ [])
    (between : gap ≠ []) (blank : ∀ c ∈ gap, isBlank c = true) :
    part.occursIn (front ++ (gap ++ back)) = (part.occursIn front || part.occursIn back) := by
  have apart : ∀ c ∈ gap, c ∉ part := by
    intro c inGap inPart
    have := letters c inPart
    rw [blank c inGap] at this
    contradiction
  rw [Bool.eq_iff_iff, Bool.or_eq_true, occursIn_iff, occursIn_iff, occursIn_iff]
  exact infix_append_gap_iff apart proper between

/-! ## Blanks in lower case -/

/-- The numbers of the blanks. -/
def blankCodes : List Nat :=
  blankRanges.flatMap fun range => List.range' range.first (range.last + 1 - range.first)

theorem toNat_mem_blankCodes {c : Char} (blank : isBlank c = true) : c.toNat ∈ blankCodes := by
  obtain ⟨range, member, holds⟩ := List.any_eq_true.1 blank
  simp only [CodeRange.holds, Bool.and_eq_true, decide_eq_true_eq] at holds
  refine List.mem_flatMap.2 ⟨range, member, ?_⟩
  rw [List.mem_range'_1]
  omega

theorem lowerLetter_ofNat_blankCodes :
    ∀ code ∈ blankCodes, lowerCharacter (Char.ofNat code) = [Char.ofNat code] := by
  decide +kernel

theorem lower_of_isBlank (blank : ∀ c ∈ gap, isBlank c = true) : lower gap = gap := by
  induction gap with
  | nil => rfl
  | cons c rest inductionHypothesis =>
      have itself := lowerLetter_ofNat_blankCodes c.toNat
        (toNat_mem_blankCodes (blank c List.mem_cons_self))
      rw [Char.ofNat_toNat] at itself
      rw [lower, List.flatMap_cons, itself]
      exact congrArg _ (inductionHypothesis fun other member =>
        blank other (List.mem_cons_of_mem _ member))

end Rendezvous.Text
