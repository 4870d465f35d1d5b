import Rendezvous.Phrase.Draft
import Rendezvous.Proofs.Recognizer.Total

/-!
Contract: the draft of a description with a phrase has the days of that phrase.

Owns:
- `Phrase.first?_weekendsNext`: weekends of the next weeks or months count before any other form,
  and `Phrase.find?_of_first?`;
- `Phrase.eq_of_ofText`, what a draft says of the phrase, `Phrase.ofText_of_days`, the draft of known
  days, and `Phrase.exists_ofText`: with a recognizer that always answers there is one.
-/

namespace Rendezvous.Phrase

open Pattern

variable {recognizer : Recognizer} {text : Text} {now : Moment} {phrase : Phrase}
  {found : Match Part}

theorem first?_weekendsNext (isFound : weekendsNext.find? text = some found) :
    first? text = some (.weekendsNext, found) := by
  rw [first?, all, List.findSome?_cons, isFound, Option.map_some]

theorem find?_of_first? (isFirst : first? text = some (phrase, found)) :
    phrase.find? text = some found := by
  obtain ⟨tried, -, isTried⟩ := List.exists_of_findSome?_eq_some isFirst
  obtain ⟨same, isFound, pair⟩ := Option.map_eq_some_iff.1 isTried
  obtain ⟨rfl, rfl⟩ := Prod.mk.inj pair
  exact isFound

theorem ofText_of_first? (isFirst : first? text = some (phrase, found)) :
    Draft.ofText recognizer text now = phrase.draft recognizer text found now := by
  rw [Draft.ofText, isFirst]

theorem eq_of_ofText {draft : Draft} (isFirst : first? text = some (phrase, found))
    (isDraft : Draft.ofText recognizer text now = .ok draft) :
    draft.phrase = some phrase ∧ phrase.days recognizer found now = .ok draft.days := by
  rw [ofText_of_first? isFirst] at isDraft
  obtain ⟨days, areDays, rest⟩ := (Result.bind_eq_ok_iff _ _ _).1 isDraft
  obtain ⟨times, -, same⟩ := (Result.bind_eq_ok_iff _ _ _).1 rest
  obtain rfl := Except.ok.inj same
  exact ⟨rfl, areDays⟩

/-- Where the days are known, the draft waits for nothing but the mentions behind the phrase. -/
theorem ofText_of_days {days : List Day} (isFirst : first? text = some (phrase, found))
    (areDays : phrase.days recognizer found now = .ok days) :
    Draft.ofText recognizer text now =
      (recognizer.extract (text.drop found.stop) now).map fun mentions =>
        ⟨some phrase, days, Mention.times mentions, Title.before? text found.start⟩ := by
  rw [ofText_of_first? isFirst, draft, areDays, Result.ok_bind, draftOf, timesAfter]
  cases recognizer.extract (text.drop found.stop) now <;> rfl

theorem exists_ofText {days : List Day} (total : recognizer.IsTotal)
    (isFirst : first? text = some (phrase, found))
    (areDays : phrase.days recognizer found now = .ok days) :
    ∃ draft, Draft.ofText recognizer text now = .ok draft ∧ draft.phrase = some phrase ∧
      draft.days = days := by
  obtain ⟨mentions, areMentions⟩ := total.exists_extract (text.drop found.stop) now
  refine ⟨⟨some phrase, days, Mention.times mentions, Title.before? text found.start⟩, ?_, rfl, rfl⟩
  rw [ofText_of_days isFirst areDays, areMentions, Result.ok_map]

end Rendezvous.Phrase
