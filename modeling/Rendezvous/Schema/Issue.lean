import Rendezvous.Json.Value

/-!
Contract: what a document can have wrong, and where.

Owns:
- `Flaw`, one constructor for each way in which a value misses what is asked of it;
- the code under which a flaw is reported, several flaws sharing one, and the wording
  of the flaws that only rules about events know;
- `Issue`, a flaw at a place, and `Checked`, a value or all issues that stand against it.

Does not own: which value has to be what (`Schema.Reader` and the readers of
proposals, events and requests).
-/

namespace Rendezvous.Schema

/-- What a value misses. -/
inductive Flaw where
  /-- A member that is required is absent. -/
  | missing
  /-- The value is no object. -/
  | notObject
  /-- The body of a request is no object. -/
  | notBody
  /-- The value is no list. -/
  | notList
  /-- A list has no items. -/
  | emptyList
  /-- The value is no text. -/
  | notText
  /-- A text has no characters. -/
  | emptyText
  /-- A string with half of a surrogate pair denotes no text. -/
  | halfSurrogate
  /-- The value is no whole number, nor anything that stands for one. -/
  | notInteger
  /-- A text writes no whole number. -/
  | malformedInteger
  /-- A whole number has too many digits. -/
  | longInteger
  /-- A number has a fraction. -/
  | fractionalInteger
  /-- A number is not finite. -/
  | notFinite
  /-- The value is no number, nor anything that stands for one. -/
  | notNumber
  /-- A text writes no number. -/
  | malformedNumber
  /-- The value is nothing that stands for a day. -/
  | notDay
  /-- A text or number stands for no day. -/
  | malformedDay
  /-- A weekday outside 0 to 6. -/
  | weekdayOutOfRange
  /-- The last day of a span comes before the first. -/
  | endBeforeStart
  /-- A title with blanks only. -/
  | blankTitle
deriving DecidableEq, Repr

namespace Flaw

/-- The code under which a flaw is reported. -/
def code : Flaw → Text
  | missing => "missing".toList
  | notObject => "model_type".toList
  | notBody => "model_attributes_type".toList
  | notList => "list_type".toList
  | emptyList => "too_short".toList
  | notText => "string_type".toList
  | emptyText => "string_too_short".toList
  | halfSurrogate => "string_unicode".toList
  | notInteger => "int_type".toList
  | malformedInteger => "int_parsing".toList
  | longInteger => "int_parsing_size".toList
  | fractionalInteger => "int_from_float".toList
  | notFinite => "finite_number".toList
  | notNumber => "float_type".toList
  | malformedNumber => "float_parsing".toList
  | notDay => "date_type".toList
  | malformedDay => "date_invalid".toList
  | weekdayOutOfRange | endBeforeStart | blankTitle => "value_error".toList

/-- The wording of the rules about events. -/
def message? : Flaw → Option Text
  | weekdayOutOfRange => some "Value error, daysOfWeek entries must be between 0 and 6".toList
  | endBeforeStart => some "Value error, end must be >= start".toList
  | blankTitle => some "Value error, title must not be blank".toList
  | _ => none

end Flaw

/-- A step from a value to one inside it. -/
inductive Step where
  | member (name : Text)
  | item (index : Nat)
deriving DecidableEq, Repr

/-- A flaw at the end of a way into a document. -/
structure Issue where
  flaw : Flaw
  path : List Step
deriving DecidableEq, Repr

/-- A value, or all issues that stand against it. -/
abbrev Checked (α : Type) := Except (List Issue) α

namespace Checked

variable {α β γ : Type}

/-- The refusal of a value for one flaw. -/
def refuse (flaw : Flaw) : Checked α :=
  .error [⟨flaw, []⟩]

/-- The issues that stand against a value. -/
def issues : Checked α → List Issue
  | .ok _ => []
  | .error issues => issues

/-- The issues as they are seen from the value around. -/
def within (step : Step) (checked : Checked α) : Checked α :=
  checked.mapError fun issues => issues.map fun issue =>
    { issue with path := step :: issue.path }

/-- Both values together, or the issues of both in order. -/
def both (first : Checked α) (second : Checked β) (combine : α → β → γ) : Checked γ :=
  match first, second with
  | .ok left, .ok right => .ok (combine left right)
  | first, second => .error (first.issues ++ second.issues)

/-- All values of a list, or the issues of all in order. -/
def all : List (Checked α) → Checked (List α)
  | [] => .ok []
  | checked :: others => both checked (all others) (· :: ·)

/-- Refuse a value that breaks a rule. -/
def obeying (checked : Checked α) (broken? : α → Option Flaw) : Checked α :=
  match checked with
  | .ok value =>
      match broken? value with
      | some flaw => refuse flaw
      | none => .ok value
  | .error issues => .error issues

end Checked

end Rendezvous.Schema
