import Rendezvous.Ascending
import Rendezvous.Calendar.Week
import Rendezvous.Number.Numeral
import Rendezvous.Text.FinalSigma

/-!
Contract: which weekdays a recurring event falls on.

Owns:
- `Selector`, a list of weekday numbers in which order and repetitions do not
  matter and numbers that are no weekday select nothing;
- the usual selectors;
- the weekdays that a text mentions;
- selectors from loosely written entries.
-/

namespace Rendezvous

/-- A list of weekday numbers, Sunday being 0. -/
abbrev Selector := List Int

namespace Selector

/-- Whether a selector has the weekday of a day. -/
def selects (selector : Selector) (day : Day) : Bool :=
  selector.contains (day.weekday.val : Int)

/-- The numbers of a selector in ascending order, each once. -/
def normalize (selector : Selector) : Selector :=
  ascending (fun left right => decide (left ≤ right)) selector

/-- Saturday and Sunday. -/
def weekend : Selector := [6, 0]

/-- Friday, Saturday and Sunday. -/
def longWeekend : Selector := [5, 6, 0]

/-- Monday to Friday. -/
def workdays : Selector := [1, 2, 3, 4, 5]

/-- All weekdays. -/
def everyDay : Selector := [0, 1, 2, 3, 4, 5, 6]

/-! ## Weekdays mentioned in a text -/

/-- The names under which weekdays are mentioned, the full one and the short one of each. -/
def mentions : List (Text × Int) := [
  ("sunday".toList, 0), ("sun".toList, 0),
  ("monday".toList, 1), ("mon".toList, 1),
  ("tuesday".toList, 2), ("tue".toList, 2),
  ("wednesday".toList, 3), ("wed".toList, 3),
  ("thursday".toList, 4), ("thu".toList, 4),
  ("friday".toList, 5), ("fri".toList, 5),
  ("saturday".toList, 6), ("sat".toList, 6)]

/-- The weekdays of which a name out of a table occurs in a text in any letter case, also inside
words. -/
def namedBy (names : List (Text × Int)) (text : Text) : Selector :=
  let lowered := text.lowerInContext
  normalize ((names.filter fun name => name.1.occursIn lowered).map (·.2))

/-- The weekdays that a text mentions. -/
def ofText (text : Text) : Selector :=
  namedBy mentions text

/-! ## Loosely written entries -/

/-- An entry that may stand for a whole number. -/
inductive Entry where
  | whole (value : Int)
  | number (value : Binary64)
  | flag (value : Bool)
  | text (value : Text)
  | other
deriving DecidableEq, Repr

/-- The digits and low lines at the beginning of a text, and the rest. -/
def scanDigits (text : Text) : Text × Text :=
  (text.takeWhile fun c => Text.isDigit c || c == '_',
    text.dropWhile fun c => Text.isDigit c || c == '_')

/-- The whole number that a text writes: digits of any script, between which low lines
may stand alone, with an optional sign and blanks around it.  Too many digits are noticed
whatever stands behind them. -/
def integerOf (text : Text) : Result Int :=
  let (negative, unsigned) := Numeral.scanSign (text.dropWhile Numeral.isSurrounding)
  let (written, tail) := scanDigits unsigned
  match Numeral.withoutLowLines? written with
  | none | some [] => .error (.malformedInteger text)
  | some digits => do
      let magnitude ← digits.readDigits
      if tail.all Numeral.isSurrounding then
        return if negative then -(magnitude : Int) else magnitude
      else .error (.malformedInteger text)

/-- The whole number for which a number stands; its fraction is dropped. -/
def truncate (value : Binary64) : Result Int :=
  match value with
  | .nan => .error .notANumber
  | _ =>
      match value.whole? with
      | some integer => .ok integer
      | none => .error .outOfCalendar

/-- The whole number for which an entry stands. -/
def Entry.toInt : Entry → Result Int
  | whole value => .ok value
  | number value => truncate value
  | flag value => .ok (if value then 1 else 0)
  | text value => integerOf value
  | other => .error .notNumeric

/-- The normal form of the selector that a list of entries writes. -/
def ofEntries (entries : List Entry) : Result Selector := do
  return normalize (← entries.mapM Entry.toInt)

end Selector

end Rendezvous
