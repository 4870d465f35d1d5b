import Rendezvous.Recognizer.English.Clock
import Rendezvous.Recognizer.English.Modifier
import Rendezvous.Recognizer.English.Prepared

/-!
Contract: the moment that an English phrase means, reckoned from a given moment.

Owns: `reckon`, which takes steps until none applies.  In every round the first form that
occurs in the text is taken, in the order in which the forms are listed.

Every step leaves a shorter text, and the text that a modifier hands on has one
modifier less, so a count in proportion to the length of the text bounds the depth.
-/

namespace Rendezvous.English

/-- The first of several steps that applies. -/
def firstStep (text : Text) (reckoning : Reckoning) :
    List (Text → Reckoning → Step) → Step
  | [] => .ok none
  | step :: others => do
      match ← step text reckoning with
      | some reached => return some reached
      | none => firstStep text reckoning others

/-- The steps in the order in which they are tried. -/
def steps (nested : Nested) : List (Text → Reckoning → Step) := [
  stepModifier nested, stepQuantity quantityForm, stepQuantity shortQuantityForm,
  stepWordyDate, stepNumericDate, stepDayWord, stepWeekday, stepHourWord, stepHalfDay,
  stepClock]

/-- Take steps until none applies; `fuel` bounds their depth. -/
def advance : Nat → Text → Reckoning → Result Reckoning
  | 0, _, reckoning => .ok reckoning
  | fuel + 1, text, reckoning =>
      if text.isEmpty then .ok reckoning
      else do
        let nested : Nested := fun inner stamp => advance fuel (prepare inner) ⟨stamp, .none⟩
        match ← firstStep text reckoning (steps nested) with
        | some (left, reached) => advance fuel left.trim reached
        | none => return reckoning

/-- A bound on the depth of the steps that a text leads to. -/
def depthBound (text : Text) : Nat :=
  4 * text.length + 64

/-- The moment that a phrase means, reckoned from a stamp. -/
def reckon (text : Text) (stamp : Stamp) : Result Reckoning :=
  advance (depthBound text) (prepare text) ⟨stamp, .none⟩

end Rendezvous.English
