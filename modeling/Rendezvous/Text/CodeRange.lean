/-!
Contract: runs of code points, the form in which character properties are tabled.

Owns: membership of a character in one run and in a list of runs.
-/

namespace Rendezvous

/-- The code points from `first` to `last`, both included. -/
structure CodeRange where
  first : Nat
  last : Nat
deriving DecidableEq, Repr

namespace CodeRange

/-- Whether a character lies in the run. -/
def holds (range : CodeRange) (c : Char) : Bool :=
  range.first ≤ c.toNat && c.toNat ≤ range.last

/-- Whether a character lies in one of the runs. -/
def anyHolds (ranges : List CodeRange) (c : Char) : Bool :=
  ranges.any (·.holds c)

end CodeRange

end Rendezvous
