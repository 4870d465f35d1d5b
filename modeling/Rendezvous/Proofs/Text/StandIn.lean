import Mathlib.Data.List.Forall2
import Rendezvous.Proofs.Text.Letter

/-!
Contract: the characters that stand for a small letter, and what becomes of them in lower case.

Owns:
- `exists_of_forall₂`, for lists that are related member by member;
- `Text.Stands`, texts in which a character stands for each of some letters;
- `Text.isStray` and `Text.isDotted`, the characters that stand for a letter and are not that
  letter in lower case;
- `Text.Stands.exists_model`: in lower case such a text is one of a few.

Small and capital letters alone would make one text of them.  A long s and a dotless i are small
letters themselves, and a dotted capital I leaves its dot behind.
-/

namespace Rendezvous

/-- In lists that are related member by member, a member on the right has one on the left. -/
theorem exists_of_forall₂ {α β : Type} {related : α → β → Prop} {left : List α} {right : List β}
    (each : List.Forall₂ related left right) {member : β} (isMember : member ∈ right) :
    ∃ partner ∈ left, related partner member := by
  induction each with
  | nil => contradiction
  | @cons first _ left _ isRelated _ inductionHypothesis =>
      rcases List.mem_cons.1 isMember with rfl | later
      · exact ⟨first, List.mem_cons_self, isRelated⟩
      · obtain ⟨partner, isPartner, isRelatedLater⟩ := inductionHypothesis later
        exact ⟨partner, List.mem_cons_of_mem first isPartner, isRelatedLater⟩

namespace Text

variable {letter c d : Char} {letters text : Text}

/-- A character stands for each letter. -/
def Stands (letters text : Text) : Prop :=
  List.Forall₂ (fun letter c => sameLetter letter c = true) letters text

instance (letters text : Text) : Decidable (Stands letters text) :=
  inferInstanceAs (Decidable (List.Forall₂ _ letters text))

/-- The long s and the dotless i, which have no other lower case. -/
def isStray (c : Char) : Bool :=
  c == '\u017f' || c == '\u0131'

/-- The capital I with a dot, whose lower case has the dot behind the letter. -/
def isDotted (c : Char) : Bool :=
  c == '\u0130'

/-- Small and capital letters stand for the small ones. -/
theorem stands_of_map_toLower (spells : text.map Char.toLower = letters) :
    Stands letters text := by
  subst spells
  induction text with
  | nil => exact .nil
  | cons c _ inductionHypothesis => exact .cons (sameLetter_toLower c) inductionHypothesis

theorem Stands.exists_letter (stands : Stands letters text) (member : c ∈ text) :
    ∃ letter ∈ letters, sameLetter letter c = true :=
  exists_of_forall₂ stands member

/-! ## One letter -/

/-- Of the characters that stand for a letter, those that differ in lower case. -/
def standIns (letter : Char) : List Char :=
  if letter = 's' then ['s', '\u017f']
  else if letter = 'i' then ['i', '\u0131', '\u0130']
  else [letter]

/-- Two characters that are alike in lower case, and of the same sort. -/
structure Alike (c d : Char) : Prop where
  lower : lowerCharacter c = lowerCharacter d
  stray : isStray c = isStray d
  dotted : isDotted c = isDotted d

theorem mem_standIns (letter : Char) : letter ∈ standIns letter := by
  unfold standIns
  split
  next isS => simp [isS]
  next =>
    split
    next isI => simp [isI]
    next => exact List.mem_singleton_self letter

/-- A letter in small or capital form is of neither sort. -/
theorem not_stray_or_dotted (isLetter : c.toLower.isLower = true) :
    isStray c = false ∧ isDotted c = false := by
  have far : ∀ other : Char, other.toLower.isLower = false → (c == other) = false := by
    intro other notSmall
    rw [beq_eq_false_iff_ne]
    rintro rfl
    rw [isLetter] at notSmall
    contradiction
  rw [isStray, isDotted, far '\u017f' (by decide), far '\u0131' (by decide),
    far '\u0130' (by decide)]
  exact ⟨rfl, rfl⟩

theorem alike_of_toLower (small : letter.isLower = true) (isLetter : c.toLower = letter) :
    Alike letter c := by
  have smallC : c.toLower.isLower = true := isLetter ▸ small
  have itself := toLower_of_isLower small
  obtain ⟨strayLetter, dottedLetter⟩ := not_stray_or_dotted (itself.symm ▸ small)
  obtain ⟨strayC, dottedC⟩ := not_stray_or_dotted smallC
  refine ⟨?_, strayLetter.trans strayC.symm, dottedLetter.trans dottedC.symm⟩
  rw [lowerCharacter_of_isLower smallC, lowerCharacter_of_isLower (itself.symm ▸ small), itself,
    isLetter]

/-- Whatever stands for a letter is like one of a few characters. -/
theorem exists_standIn (small : letter.isLower = true) (same : sameLetter letter c = true) :
    ∃ d ∈ standIns letter, Alike d c := by
  simp only [sameLetter, Bool.or_eq_true, Bool.and_eq_true, beq_iff_eq] at same
  rcases same with (((rfl | isLetter) | ⟨rfl, rfl⟩) | ⟨rfl, rfl⟩) | ⟨rfl, rfl | rfl⟩
  · exact ⟨c, mem_standIns c, ⟨rfl, rfl, rfl⟩⟩
  · exact ⟨letter, mem_standIns letter, alike_of_toLower small isLetter⟩
  · exact ⟨'\u017f', by decide, ⟨rfl, rfl, rfl⟩⟩
  · exact ⟨'k', by decide, ⟨by decide +kernel, by decide, by decide⟩⟩
  · exact ⟨'\u0130', by decide, ⟨rfl, rfl, rfl⟩⟩
  · exact ⟨'\u0131', by decide, ⟨rfl, rfl, rfl⟩⟩

/-! ## Words -/

/-- The texts of stand-ins for the letters of a word. -/
def models : Text → List Text
  | [] => [[]]
  | letter :: letters => (standIns letter).flatMap fun c => (models letters).map (c :: ·)

theorem Stands.exists_model (stands : Stands letters text)
    (small : ∀ letter ∈ letters, letter.isLower = true) :
    ∃ model ∈ models letters, List.Forall₂ Alike model text := by
  induction stands with
  | nil => exact ⟨[], List.mem_singleton_self _, .nil⟩
  | @cons letter c letters text same _ inductionHypothesis =>
      obtain ⟨isSmall, areSmall⟩ := List.forall_mem_cons.1 small
      obtain ⟨d, isStandIn, alike⟩ := exists_standIn isSmall same
      obtain ⟨model, isModel, others⟩ := inductionHypothesis areSmall
      refine ⟨d :: model, ?_, .cons alike others⟩
      exact List.mem_flatMap.2 ⟨d, isStandIn, List.mem_map_of_mem isModel⟩

variable {left right : Text}

theorem lower_eq_of_alike (alike : List.Forall₂ Alike left right) : left.lower = right.lower := by
  induction alike with
  | nil => rfl
  | cons same _ inductionHypothesis =>
      rw [lower, lower, List.flatMap_cons, List.flatMap_cons, same.lower]
      exact congrArg _ inductionHypothesis

theorem any_of_alike {sort : Char → Bool} (alike : List.Forall₂ Alike left right)
    (sameSort : ∀ {c d}, Alike c d → sort c = sort d) : left.any sort = right.any sort := by
  induction alike with
  | nil => rfl
  | cons same _ inductionHypothesis =>
      rw [List.any_cons, List.any_cons, sameSort same, inductionHypothesis]

end Text

end Rendezvous
