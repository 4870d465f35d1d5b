import Rendezvous.Number.Binary64
import Rendezvous.Text.Loose

/-!
Contract: values of the document format that carries replies and requests.

Owns:
- `Json`, with whole numbers kept apart from other numbers and objects kept as
  they are written, repeated names included;
- the look-up of a member, in which the last of several equal names counts.

Strings are loose texts, because documents can name halves of surrogate pairs.
-/

namespace Rendezvous

/-- A document. -/
inductive Json where
  | null
  | bool (value : Bool)
  | integer (value : Int)
  | real (value : Binary64)
  | string (content : LooseText)
  | array (items : List Json)
  | object (members : List (LooseText × Json))
deriving Repr, Inhabited

namespace Json

/-- A string that holds a text. -/
def ofText (text : Text) : Json :=
  .string text.loose

/-- The last member with a name. -/
def lastMember? (name : Text) : List (LooseText × Json) → Option Json
  | [] => none
  | (key, value) :: rest =>
      match lastMember? name rest with
      | some later => some later
      | none => if key = name.loose then some value else none

/-- The member of an object with a name; nothing for any other value. -/
def member? (name : Text) : Json → Option Json
  | object members => lastMember? name members
  | _ => none

end Json

end Rendezvous
