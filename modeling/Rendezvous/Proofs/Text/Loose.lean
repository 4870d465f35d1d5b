import Rendezvous.Text.Loose

/-!
Contract: loose texts without halves are texts.

Owns: the ways back from `Text.loose`, and `LooseText.isText_iff`, which says when there is one.
-/

namespace Rendezvous

theorem Text.withoutHalves_loose (text : Text) : text.loose.withoutHalves = text := by
  induction text with
  | nil => rfl
  | cons c rest inductionHypothesis => exact congrArg (c :: ·) inductionHypothesis

theorem Text.loose_injective {left right : Text} (same : left.loose = right.loose) :
    left = right := by
  rw [← withoutHalves_loose left, same, withoutHalves_loose]

@[simp]
theorem Text.text?_loose (text : Text) : text.loose.text? = some text := by
  induction text with
  | nil => rfl
  | cons c rest inductionHypothesis =>
      change (LooseText.text? (Text.loose rest)).map (c :: ·) = some (c :: rest)
      rw [inductionHypothesis, Option.map_some]

namespace LooseText

theorem text?_eq_some_iff (content : LooseText) (text : Text) :
    content.text? = some text ↔ content = text.loose := by
  constructor
  · intro isText
    induction content generalizing text with
    | nil =>
        obtain rfl := Option.some.inj isText
        rfl
    | cons point rest inductionHypothesis =>
        cases point with
        | half index => exact absurd isText (by simp [text?])
        | char c =>
            obtain ⟨others, areOthers, rfl⟩ := Option.map_eq_some_iff.1 isText
            exact congrArg (CodePoint.char c :: ·) (inductionHypothesis others areOthers)
  · intro same
    rw [same, Text.text?_loose]

theorem isText_iff (content : LooseText) :
    content.isText = true ↔ ∃ text : Text, content = text.loose := by
  rw [isText, Option.isSome_iff_exists]
  exact exists_congr (text?_eq_some_iff content)

end LooseText

end Rendezvous
