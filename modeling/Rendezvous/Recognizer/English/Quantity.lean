import Rendezvous.Number.Numeral
import Rendezvous.Recognizer.English.Reckoning

/-!
Contract: quantities, a number and a unit.

Owns: `stepQuantity`, which moves the stamp by a quantity.  The number of a day with
its suffix ("2nd") has the shape of a quantity but is none.
-/

namespace Rendezvous.English

open Pattern

/-- A text with its decimal digits in ASCII. -/
def asciiDigits (text : Text) : Text :=
  text.map fun c =>
    match Text.digitValue? c with
    | some value => Text.digitOf value
    | none => c

/-- The number that a quantity writes: one if it is empty, zero if it is no number. -/
def quantityOf (text : Text) : Binary64 :=
  if text.isEmpty then .ofInt 1
  else
    match Binary64.ofNumeral? (asciiDigits text) with
    | some number => number
    | none => .ofInt ((numberWords.find? text).getD 0)

/-- Move by a quantity of a unit; where that leaves the calendar, nothing moves and
nothing has been found. -/
def moveBy (reckoning : Reckoning) (quantity unit : Text) : Result Reckoning := do
  let start ← reckoning.stamp.toMoment
  let length ← units.get unit
  match addQuantity start (quantityOf quantity.trim) length with
  | .ok target => return (reckoning.moveTo (.ofMoment target)).withUnit length
  | .error .outOfCalendar => return reckoning.moveTo (.ofMoment start)
  | .error fault => .error fault

/-- Whether a quantity is the number of a day with its suffix. -/
def isOrdinal (text : Text) (found : Match Piece) : Bool :=
  match ordinalForm.search text, found.capture? .quantity, found.capture? .unit with
  | some ordinal, some quantity, some unit =>
      match ordinal.capture? .day, ordinal.capture? .suffix with
      | some day, some suffix =>
          unit.start == suffix.start && quantity.start == day.start
            && quantity.text == day.text ++ unit.text
      | _, _ => false
  | _, _, _ => false

/-- Move by the quantity that a piece of text writes in a form. -/
def evaluateQuantity (form : Form) (piece : Text) (reckoning : Reckoning) :
    Result Reckoning :=
  let trimmed := piece.trim
  match (form.search trimmed).bind fun found => found.capture? .unit with
  | some unit => moveBy reckoning (trimmed.take unit.start) unit.text
  | none => .error .unlistedWord

/-- The step of a quantity in a form; a hyphen before it is a minus sign. -/
def stepQuantity (form : Form) (text : Text) (reckoning : Reckoning) : Step :=
  match form.search text with
  | none => .ok none
  | some found =>
      match found.capture? .quantity with
      | none => .ok none
      | some quantity =>
          if isOrdinal text found then .ok none
          else if quantity.text = text then do
            return some ([], ← evaluateQuantity form text reckoning)
          else
            let before := Text.trim (text.take quantity.start)
            let behind := Text.trim (text.drop quantity.stop)
            if before.getLast? = some '-' then do
              return some (besides before.dropLast behind,
                ← evaluateQuantity form ('-' :: quantity.text) reckoning)
            else do
              return some (besides before behind,
                ← evaluateQuantity form quantity.text reckoning)

end Rendezvous.English
