import Rendezvous.Recognizer.English.Finding

/-!
Contract: the recognizer of dates and times in English prose.

Owns: `Recognizer.english`, which answers both questions of a recognizer with the
grammar and the dictionaries of `Rendezvous.Recognizer.English`.

A moment is reckoned from the second in which it lies.
-/

namespace Rendezvous

namespace English

/-- The moment that a phrase names; nothing if it names neither a day nor a time. -/
def reading? (phrase : Text) (now : Moment) : Result (Option Reading) := do
  let reckoning ← reckon phrase (.ofMoment now)
  if reckoning.evidence.any then
    return some ⟨← reckoning.stamp.toMoment, reckoning.evidence.date, reckoning.evidence.time⟩
  else return none

end English

/-- The recognizer of dates and times in English prose. -/
def Recognizer.english : Recognizer where
  mentions := English.mentions
  reading? := English.reading?

end Rendezvous
