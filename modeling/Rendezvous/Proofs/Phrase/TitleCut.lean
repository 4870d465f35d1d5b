import Rendezvous.Proofs.Phrase.Title

/-!
Contract: the title before a position is cut out of the description in a normal form.

Owns:
- `Text.isUpTo_iff`: the text before a position that may count from the end;
- `Title.IsCutAt`, what is cut out before a position, and `Title.isCutAt_iff`: it is unique;
- `Title.before?_isNormalCut`: there is a title unless what is cut out is empty or long, and a title
  is cut out of itself.
-/

namespace Rendezvous

/-! ## Positions -/

/-- Whether a text stands before a position of another one.  A negative position counts from the
end, and a position beyond an end stands for that end. -/
structure Text.IsUpTo (front text : Text) (index : Int) : Prop where
  begins : front <+: text
  length_eq : (front.length : Int) =
    if index < 0 then max 0 (text.length + index) else min index text.length

theorem Text.isUpTo_iff {front text : Text} {index : Int} :
    front.IsUpTo text index ↔ front = text.upTo index := by
  have clamped : (clampIndex text.length index : Int) =
      if index < 0 then max 0 (text.length + index) else min index text.length := by
    rw [clampIndex]
    split <;> omega
  have inText : clampIndex text.length index ≤ text.length := by
    rw [clampIndex]
    split <;> omega
  constructor
  · rintro ⟨begins, length⟩
    have sameLength : front.length = clampIndex text.length index := by
      rw [← clamped] at length
      exact Int.ofNat_inj.1 length
    rw [upTo, ← sameLength]
    exact List.prefix_iff_eq_take.1 begins
  · rintro rfl
    refine ⟨List.take_prefix _ text, ?_⟩
    rw [upTo, List.length_take, Nat.min_eq_left inText, clamped]

namespace Title

variable {text title cut : Text} {index : Int}

/-! ## Cuts -/

/-- What is cut out of a text before a position: the text up to there, less the blanks around it
and then the separators at its end. -/
def IsCutAt (cut text : Text) (index : Int) : Prop :=
  ∃ front trimmed : Text, front.IsUpTo text index ∧ trimmed.IsTrimOf front ∧
    cut.IsStemOf isSeparator trimmed

theorem isCutAt_iff : IsCutAt cut text index ↔ cut = dropSeparators (text.upTo index).trim := by
  simp only [IsCutAt, Text.isUpTo_iff, Text.isTrimOf_iff, Text.isStemOf_iff, dropSeparators_eq]
  constructor
  · rintro ⟨_, _, rfl, rfl, isCut⟩
    exact isCut
  · intro isCut
    exact ⟨_, _, rfl, rfl, isCut⟩

/-- A title is cut out of itself, since there is nothing around it to remove. -/
theorem isCutAt_of_isTitleOf (isTitle : title.IsTitleOf text) :
    IsCutAt title title title.length := by
  have upToEnd : title.IsUpTo title title.length := by
    refine ⟨List.prefix_refl title, ?_⟩
    rw [if_neg (by omega), min_self]
  refine ⟨title, title, upToEnd, ⟨isTitle.isTrimmed, [], [], ?_, ?_⟩, ⟨[], ?_, ?_⟩,
    isTitle.last_not_separator⟩
  · simp
  · simp
  · simp
  · simp

theorem ofSized?_eq_none_iff : ofSized? cut = none ↔ cut = [] ∨ sizeBound ≤ cut.length := by
  rw [ofSized?, ← List.length_eq_zero_iff]
  split
  · simp only [reduceCtorEq, false_iff]
    omega
  · simp only [true_iff]
    omega

/-! ## Titles -/

theorem before?_before? (isTitle : before? text index = some title) :
    before? title title.length = some title := by
  have isTitleOf := before?_isTitleOf isTitle
  rw [before?, ← isCutAt_iff.1 (isCutAt_of_isTitleOf isTitleOf), ofSized?_eq_some_iff]
  exact ⟨rfl, isTitleOf.notEmpty, isTitleOf.short⟩

/-- One text is cut out before each position.  It is the title there, unless it is empty or has a
hundred characters or more.  Each title is a piece of the text in normal form: it has no blank in
front, no separator at its end and is the title before its own end. -/
theorem before?_isNormalCut (text : Text) (index : Int) :
    ∃ cut, (∀ other, IsCutAt other text index ↔ other = cut) ∧
      (before? text index = none ↔ cut = [] ∨ 100 ≤ cut.length) ∧
      ∀ title, before? text index = some title →
        title = cut ∧ title.IsTitleOf text ∧ before? title title.length = some title := by
  refine ⟨dropSeparators (text.upTo index).trim, fun other => isCutAt_iff, ofSized?_eq_none_iff, ?_⟩
  intro title isTitle
  refine ⟨?_, before?_isTitleOf isTitle, before?_before? isTitle⟩
  exact (ofSized?_eq_some_iff.1 isTitle).1.symm

/-- The blanks around a dash at the end of a line go with it, also where the position is counted
from the end. -/
theorem before?_brunch :
    before? "Brunch \u2014\n every friday".toList (-12) = some "Brunch".toList ∧
      IsCutAt "Brunch".toList "Brunch \u2014\n every friday".toList (-12) ∧
      before? "Brunch".toList 6 = some "Brunch".toList := by
  have isTitle : before? "Brunch \u2014\n every friday".toList (-12) = some "Brunch".toList := by
    decide
  obtain ⟨cut, isCut, -, ofTitle⟩ := before?_isNormalCut "Brunch \u2014\n every friday".toList (-12)
  obtain ⟨same, -, again⟩ := ofTitle "Brunch".toList isTitle
  exact ⟨isTitle, (isCut _).2 same, again⟩

end Title

end Rendezvous
