import Rendezvous.Number.Binary64

/-!
Contract: the order of numbers is total but for `nan`.

Owns: `order?_eq_none_iff` and `atLeast_iff`, which turns `atLeast` into `less`, and that
rounding never comes to `nan`.
-/

namespace Rendezvous.Binary64

theorem order?_eq_none_iff (left right : Binary64) :
    left.order? right = none ↔ left = nan ∨ right = nan := by
  cases left with
  | nan => simp [order?]
  | infinite negative =>
      cases right with
      | nan => simp [order?]
      | infinite other => cases negative <;> cases other <;> simp [order?]
      | finite => cases negative <;> simp [order?]
  | finite =>
      cases right with
      | nan => simp [order?]
      | infinite negative => cases negative <;> simp [order?]
      | finite => simp [order?]

theorem atLeast_iff (left right : Binary64) :
    left.atLeast right = true ↔ (left ≠ nan ∧ right ≠ nan) ∧ left.less right = false := by
  rw [← not_or, ← order?_eq_none_iff]
  unfold atLeast less
  cases left.order? right with
  | none => simp
  | some relation => cases relation <;> simp

theorem ofRatio_ne_nan (negative : Bool) (numerator denominator : Nat) :
    ofRatio negative numerator denominator ≠ nan := by
  unfold ofRatio
  split
  next => simp [zero]
  next =>
    dsimp only
    split <;> split <;> simp

theorem ofInt_ne_nan (value : Int) : ofInt value ≠ nan :=
  ofRatio_ne_nan _ _ _

end Rendezvous.Binary64
