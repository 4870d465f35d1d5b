import Rendezvous.Json.Value
import Rendezvous.Number.Shortest
import Rendezvous.Text.Quoted

/-!
Contract: values of a document as they are shown in notices.

Owns:
- `Json.shown`: names of absence and of truth in full, strings between quotation marks,
  items and members separated by a comma and a blank, each name at its first place with
  the value it has at its last;
- `Json.saysNothing`, which holds for values that are shown as unknown.
-/

namespace Rendezvous.Json

/-- Texts with a comma and a blank between them. -/
def listed : List Text → Text
  | [] => []
  | [only] => only
  | first :: others => first ++ ',' :: ' ' :: listed others

/-- Put the value of a name in the place of an earlier one, or at the end. -/
def putMember (members : List (Text × Text)) (name value : Text) : List (Text × Text) :=
  if members.any fun member => member.1 == name then
    members.map fun member => if member.1 == name then (name, value) else member
  else members ++ [(name, value)]

mutual

/-- A value as it is shown. -/
def shown : Json → Text
  | .null => "None".toList
  | .bool value => if value then "True".toList else "False".toList
  | .integer value => Text.ofInt value
  | .real value => value.render
  | .string content => content.withoutHalves.quoted
  | .array items => '[' :: listed (shownItems items) ++ [']']
  | .object members =>
      '\x7b' :: listed ((shownMembers [] members).map fun (name, value) =>
        name ++ ':' :: ' ' :: value) ++ ['\x7d']

/-- Items as they are shown. -/
def shownItems : List Json → List Text
  | [] => []
  | item :: others => shown item :: shownItems others

/-- Members as they are shown, behind those that came before. -/
def shownMembers (before : List (Text × Text)) :
    List (LooseText × Json) → List (Text × Text)
  | [] => before
  | (name, value) :: others =>
      shownMembers (putMember before name.withoutHalves.quoted (shown value)) others

end

/-- Whether a value is nothing, zero, false or empty. -/
def saysNothing : Json → Bool
  | .null => true
  | .bool value => !value
  | .integer value => value == 0
  | .real value => value.isZero
  | .string content => content.isEmpty
  | .array items => items.isEmpty
  | .object members => members.isEmpty

end Rendezvous.Json
