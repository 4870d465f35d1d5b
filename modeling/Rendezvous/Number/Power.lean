/-!
Contract: powers of two and of ten.

Owns: `powerOfTwo` and `powerOfTen`, the units of binary and of decimal notation.
-/

namespace Rendezvous

/-- Two to the power of a number. -/
def powerOfTwo (exponent : Nat) : Nat :=
  Nat.pow 2 exponent

/-- Ten to the power of a number. -/
def powerOfTen (exponent : Nat) : Nat :=
  Nat.pow 10 exponent

end Rendezvous
