import Rendezvous.Proofs.Text.Occurrence
import Rendezvous.Text.FinalSigma

/-!
Contract: how far the shape of a sigma reaches.

Owns:
- `lowerInContext_append_barrier`: a character that ends words keeps the lower case of what stands
  before it apart from that of what stands behind it, and blanks are such characters;
- `map_oneShape_lowerInContext`: but for the two shapes of the small sigma the lower case is that of
  each character on its own, so with `occursIn_lowerInContext` a word without sigmas occurs in both
  or in neither.
-/

namespace Rendezvous.Text

variable {before far front behind back part text : Text} {c : Char}

/-! ## Characters that end words -/

/-- A character over which no word lies: it counts and has no letter case. -/
structure IsBarrier (c : Char) : Prop where
  counts : isPassedOver c = false
  caseless : isCased c = false

theorem isBarrier_blankCodes : ∀ code ∈ blankCodes,
    isPassedOver (Char.ofNat code) = false ∧ isCased (Char.ofNat code) = false := by
  decide +kernel

theorem isBarrier_of_isBlank (blank : isBlank c = true) : IsBarrier c := by
  have barrier := isBarrier_blankCodes c.toNat (toNat_mem_blankCodes blank)
  rw [Char.ofNat_toNat] at barrier
  exact ⟨barrier.1, barrier.2⟩

theorem IsBarrier.ne_sigma (barrier : IsBarrier c) : c ≠ '\u03a3' := by
  rintro rfl
  have cased : isCased '\u03a3' = true := by decide +kernel
  rw [barrier.caseless] at cased
  contradiction

/-- What stands behind a barrier does not matter in front of it. -/
theorem leadsCased_append (barrier : IsBarrier c) (front back : Text) :
    leadsCased (front ++ c :: back) = leadsCased front := by
  have stops : (c :: back).find? (fun d => !isPassedOver d) = some c :=
    List.find?_cons_of_pos (by simp [barrier.counts])
  rw [leadsCased, leadsCased, List.find?_append, stops]
  cases front.find? fun d => !isPassedOver d with
  | none => exact barrier.caseless
  | some first => rfl

theorem endsWord_before (barrier : IsBarrier c) :
    endsWord (before ++ c :: far) behind = endsWord before behind := by
  rw [endsWord, endsWord, leadsCased_append barrier]

theorem endsWord_behind (barrier : IsBarrier c) :
    endsWord before (front ++ c :: back) = endsWord before front := by
  rw [endsWord, endsWord, leadsCased_append barrier]

/-! ## Texts apart -/

theorem lowerBehind_far (barrier : IsBarrier c) (before far text : Text) :
    lowerBehind (before ++ c :: far) text = lowerBehind before text := by
  induction text generalizing before with
  | nil => rfl
  | cons d rest inductionHypothesis =>
      rw [lowerBehind, lowerBehind, lowerBetween, endsWord_before barrier, ← lowerBetween,
        ← List.cons_append, inductionHypothesis]

theorem lowerBehind_append (barrier : IsBarrier c) (before front back : Text) :
    lowerBehind before (front ++ c :: back) =
      lowerBehind before front ++ (lowerCharacter c ++ lowerInContext back) := by
  induction front generalizing before with
  | nil =>
      have itself : lowerBetween before c back = lowerCharacter c := if_neg barrier.ne_sigma
      show lowerBetween before c back ++ lowerBehind ([] ++ c :: before) back = _
      rw [itself, lowerBehind_far barrier]
      rfl
  | cons d front inductionHypothesis =>
      rw [List.cons_append, lowerBehind, lowerBehind, lowerBetween, endsWord_behind barrier,
        ← lowerBetween, inductionHypothesis, List.append_assoc]

/-- A barrier keeps the lower case of both sides apart. -/
theorem lowerInContext_append_barrier (barrier : IsBarrier c) (front back : Text) :
    lowerInContext (front ++ c :: back) =
      lowerInContext front ++ (lowerCharacter c ++ lowerInContext back) :=
  lowerBehind_append barrier [] front back

example : lowerInContext "\u0391\u03a3 \u03a3".toList = "\u03b1\u03c2 \u03c3".toList := by
  decide +kernel

/-! ## Shapes of the sigma -/

/-- A character, but the sigma at the end of a word in the shape of the others. -/
def oneShape (c : Char) : Char :=
  if c = '\u03c2' then '\u03c3' else c

theorem map_oneShape_lowerBehind (before text : Text) :
    (lowerBehind before text).map oneShape = text.lower.map oneShape := by
  induction text generalizing before with
  | nil => rfl
  | cons c rest inductionHypothesis =>
      have first : (lowerBetween before c rest).map oneShape =
          (lowerCharacter c).map oneShape := by
        by_cases sigma : c = '\u03a3'
        · subst sigma
          have small : lowerCharacter '\u03a3' = ['\u03c3'] := by decide +kernel
          rw [small, lowerBetween, if_pos rfl]
          cases endsWord before rest <;> decide
        · rw [lowerBetween, if_neg sigma]
      rw [lowerBehind, List.map_append, first, inductionHypothesis, ← List.map_append]
      rfl

theorem map_oneShape_lowerInContext (text : Text) :
    text.lowerInContext.map oneShape = text.lower.map oneShape :=
  map_oneShape_lowerBehind [] text

theorem map_oneShape_eq_self (noFinalSigma : '\u03c2' ∉ text) : text.map oneShape = text := by
  have unchanged : ∀ c ∈ text, oneShape c = id c := by
    intro c member
    apply if_neg
    rintro rfl
    exact noFinalSigma member
  rw [List.map_congr_left unchanged, List.map_id]

theorem map_oneShape_eq_iff (noSigma : '\u03c3' ∉ part) (noFinalSigma : '\u03c2' ∉ part) :
    text.map oneShape = part ↔ text = part := by
  constructor
  · intro same
    have unmoved : '\u03c2' ∉ text := fun member =>
      noSigma (same ▸ List.mem_map_of_mem (f := oneShape) member)
    rw [← same, map_oneShape_eq_self unmoved]
  · rintro rfl
    exact map_oneShape_eq_self noFinalSigma

theorem infix_map_oneShape_iff (noSigma : '\u03c3' ∉ part) (noFinalSigma : '\u03c2' ∉ part) :
    part <:+: text.map oneShape ↔ part <:+: text := by
  constructor
  · rintro ⟨front, back, split⟩
    obtain ⟨upTo, behind, rfl, split, -⟩ := List.map_eq_append_iff.1 split.symm
    obtain ⟨before, piece, rfl, -, isPart⟩ := List.map_eq_append_iff.1 split
    rw [map_oneShape_eq_iff noSigma noFinalSigma] at isPart
    exact ⟨before, behind, by rw [isPart]⟩
  · rintro ⟨front, back, rfl⟩
    refine ⟨front.map oneShape, back.map oneShape, ?_⟩
    rw [List.map_append, List.map_append, map_oneShape_eq_self noFinalSigma]

/-- A word without sigmas does not see their shape. -/
theorem occursIn_lowerInContext (noSigma : '\u03c3' ∉ part) (noFinalSigma : '\u03c2' ∉ part)
    (text : Text) : part.occursIn text.lowerInContext = part.occursIn text.lower := by
  rw [Bool.eq_iff_iff, occursIn_iff, occursIn_iff,
    ← infix_map_oneShape_iff noSigma noFinalSigma, map_oneShape_lowerInContext,
    infix_map_oneShape_iff noSigma noFinalSigma]

end Rendezvous.Text
