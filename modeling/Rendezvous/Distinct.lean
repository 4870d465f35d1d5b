/-!
Contract: lists without repetitions, in order of first appearance.

Owns: `addNew` and `distinct`.
-/

namespace Rendezvous

/-- Add a member at the end of a list unless it is there already. -/
def addNew {α : Type} [DecidableEq α] (seen : List α) (member : α) : List α :=
  if seen.contains member then seen else seen ++ [member]

/-- The members of a list, each kept at its first place only. -/
def distinct {α : Type} [DecidableEq α] (members : List α) : List α :=
  members.foldl addNew []

end Rendezvous
