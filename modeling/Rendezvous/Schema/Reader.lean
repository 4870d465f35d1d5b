import Rendezvous.Calendar.Written
import Rendezvous.Number.WholeNumeral
import Rendezvous.Schema.Issue

/-!
Contract: reading values of a document as what they stand for.

Owns:
- the readers of texts, whole numbers, numbers, days, lists and optional values;
- the look-up of the members of an object, by any of several names.

A reader takes every value that unmistakably stands for what is asked: truth values
and texts stand for numbers, numbers and texts for days.
-/

namespace Rendezvous.Schema

/-- A way to read a value of a document. -/
abbrev Reader (α : Type) := Json → Checked α

namespace Reader

/-- The text of a string. -/
def textOf (content : LooseText) : Checked Text :=
  match content.text? with
  | some text => .ok text
  | none => .refuse .halfSurrogate

/-- A text. -/
def text : Reader Text
  | .string content => textOf content
  | _ => .refuse .notText

/-- A string, whether or not it is a text. -/
def looseText : Reader LooseText
  | .string content => .ok content
  | _ => .refuse .notText

/-- The whole number that a text stands for. -/
def integerOfText (content : Text) : Checked Int :=
  match WholeNumeral.read content with
  | .ok value => .ok value
  | .error .malformed => .refuse .malformedInteger
  | .error .tooLong => .refuse .longInteger

/-- The number that a text stands for. -/
def realOfText (content : Text) : Checked Binary64 :=
  match Binary64.ofNumeral? content with
  | some value => .ok value
  | none => .refuse .malformedNumber

/-- Numbers that stand for whole numbers are below this bound in size. -/
def integerBound : Nat := powerOfTwo 63

/-- The whole number that a number stands for. -/
def integerOfReal (value : Binary64) : Checked Int :=
  match value.whole? with
  | none => .refuse .notFinite
  | some whole =>
      if !value.isWhole then .refuse .fractionalInteger
      else if integerBound ≤ whole.natAbs then .refuse .longInteger
      else .ok whole

/-- A whole number. -/
def integer : Reader Int
  | .integer value => .ok value
  | .bool value => .ok (if value then 1 else 0)
  | .real value => integerOfReal value
  | .string content => (textOf content).bind integerOfText
  | _ => .refuse .notInteger

/-- A number. -/
def real : Reader Binary64
  | .real value => .ok value
  | .integer value =>
      if (Binary64.ofInt value).isFinite then .ok (.ofInt value) else .refuse .notNumber
  | .bool value => .ok (.ofInt (if value then 1 else 0))
  | .string content => (textOf content).bind realOfText
  | _ => .refuse .notNumber

/-- A day, or a flaw if there is none. -/
def dayOr (flaw : Flaw) : Option Day → Checked Day
  | some day => .ok day
  | none => .refuse flaw

/-- A day. -/
def day : Reader Day
  | .string content =>
      (textOf content).bind fun text => dayOr .malformedDay (Day.ofWritten? text)
  | .real value => dayOr .malformedDay (Day.ofRealCount? value)
  | .integer value =>
      if Day.fitsWord value then dayOr .malformedDay (Day.ofCount? value)
      else if (Binary64.ofInt value).isFinite then .refuse .malformedDay
      else .refuse .notDay
  | _ => .refuse .notDay

/-- The checked items of a list, each with its place. -/
def itemsFrom {α : Type} (reader : Reader α) : Nat → List Json → List (Checked α)
  | _, [] => []
  | index, item :: others =>
      (reader item).within (.item index) :: itemsFrom reader (index + 1) others

/-- A list. -/
def list {α : Type} (reader : Reader α) : Reader (List α)
  | .array items => Checked.all (itemsFrom reader 0 items)
  | _ => .refuse .notList

/-- A value that may be null. -/
def optional {α : Type} (reader : Reader α) : Reader (Option α)
  | .null => .ok none
  | value => (reader value).map some

end Reader

/-- The members of an object. -/
abbrev Members := List (LooseText × Json)

namespace Members

/-- The first of several names under which an object has a member, with the member. -/
def named? (members : Members) : List Text → Option (Text × Json)
  | [] => none
  | name :: others =>
      match Json.lastMember? name members with
      | some value => some (name, value)
      | none => named? members others

/-- A member that has to be there, under the first of several names that occurs. -/
def required {α : Type} (members : Members) (name : Text) (otherNames : List Text)
    (reader : Reader α) : Checked α :=
  match members.named? (name :: otherNames) with
  | some (found, value) => (reader value).within (.member found)
  | none => Checked.within (.member name) (.refuse .missing)

/-- A member with a value for the case that it is absent. -/
def withDefault {α : Type} (members : Members) (names : List Text) (missing : α)
    (reader : Reader α) : Checked α :=
  match members.named? names with
  | some (found, value) => (reader value).within (.member found)
  | none => .ok missing

end Members

/-- An object whose members are read together. -/
def object {α : Type} (read : Members → Checked α) : Reader α
  | .object members => read members
  | _ => .refuse .notObject

end Rendezvous.Schema
