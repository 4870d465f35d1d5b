import Rendezvous.Recognizer.English.Grammar
import Rendezvous.Recognizer.English.Stamp

/-!
Contract: how far an English phrase has been reckoned.

Owns:
- `Evidence`, whether a day and a time of day have been found;
- `Reckoning`, the stamp reached so far with the evidence;
- `Step`, what comes of looking for one form of phrase in a text: the text without
  the piece that was found, and the reckoning behind it.
-/

namespace Rendezvous.English

open Pattern

/-- What has been found in a phrase: a day, a time of day. -/
structure Evidence where
  date : Bool
  time : Bool
deriving DecidableEq, Repr

namespace Evidence

/-- Nothing has been found. -/
def none : Evidence := ⟨false, false⟩

/-- Whether anything has been found. -/
def any (evidence : Evidence) : Bool :=
  evidence.date || evidence.time

/-- What has been found in either of two phrases. -/
def join (left right : Evidence) : Evidence :=
  ⟨left.date || right.date, left.time || right.time⟩

end Evidence

/-- How far a phrase has been reckoned. -/
structure Reckoning where
  stamp : Stamp
  evidence : Evidence
deriving DecidableEq, Repr

namespace Reckoning

/-- Move to a stamp. -/
def moveTo (reckoning : Reckoning) (stamp : Stamp) : Reckoning :=
  { reckoning with stamp := stamp }

/-- A day has been found. -/
def withDate (reckoning : Reckoning) : Reckoning :=
  { reckoning with evidence := { reckoning.evidence with date := true } }

/-- A time of day has been found. -/
def withTime (reckoning : Reckoning) : Reckoning :=
  { reckoning with evidence := { reckoning.evidence with time := true } }

/-- A unit has been found: days and longer units tell a day, shorter ones a time. -/
def withUnit (reckoning : Reckoning) : TimeUnit → Reckoning
  | .second | .minute | .hour => reckoning.withTime
  | .day | .week | .month | .year => reckoning.withDate

/-- What a part of the phrase has shown counts for the whole. -/
def noting (reckoning : Reckoning) (part : Reckoning) : Reckoning :=
  { reckoning with evidence := reckoning.evidence.join part.evidence }

end Reckoning

/-- The text that a step leaves and the reckoning it reaches; nothing if the step does
not apply. -/
abbrev Step := Result (Option (Text × Reckoning))

/-- Two texts with a blank between them. -/
def besides (before behind : Text) : Text :=
  before ++ ' ' :: behind

/-- A text without the piece from `start` to before `stop`. -/
def without (text : Text) (start stop : Nat) : Text :=
  besides (text.take start) (text.drop stop)

/-- The text a match leaves when it is taken out. -/
def leave (text : Text) (found : Match Piece) : Text :=
  if text.take found.stop = text ∧ found.start = 0 then []
  else without text found.start found.stop

/-- The text of a match. -/
def matched (text : Text) (found : Match Piece) : Text :=
  (text.take found.stop).drop found.start

end Rendezvous.English
