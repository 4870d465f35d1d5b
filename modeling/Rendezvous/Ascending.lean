/-!
Contract: finite sets as strictly ascending lists.

Owns: `ascending`, which sorts a list and keeps one of several equal members.  The
result depends only on which members the list has.
-/

namespace Rendezvous

/-- Drop each member of a list that equals the next one. -/
def dropRepeated {α : Type} [DecidableEq α] : List α → List α
  | [] => []
  | member :: rest =>
      if rest.head? = some member then dropRepeated rest else member :: dropRepeated rest

/-- The members of a list in ascending order, each once. -/
def ascending {α : Type} [DecidableEq α] (le : α → α → Bool) (members : List α) : List α :=
  dropRepeated (members.mergeSort le)

end Rendezvous
