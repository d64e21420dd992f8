import Mathlib.Algebra.Order.Field.Rat
import Vigil.Quantity

/-!
# Quantities as exact numbers

Sums of doubles are rounded, so a law about costs or confidences says what the program is meant to
compute only if it is read over numbers that are not.  The rational numbers are such quantities: all
of them are finite, and they are compared by value.
-/

namespace Vigil

open Decimal

/-- The value of a double; what has none is read as zero. -/
def exactValue (x : Float) : ℚ :=
  match shape x with
  | .finite negative m e => (if negative then -1 else 1) * m * 2 ^ e
  | .infinite _ | .notANumber => 0

/-- A rational number with a fixed number of decimal places. -/
def exactFixed (places : Nat) (x : ℚ) : String :=
  String.ofList ((if x < 0 then ['-'] else []) ++
    placePoint places (roundDiv (x.num.natAbs * 10 ^ places) x.den))

instance : Quantity ℚ where
  decimal m places := m / 10 ^ places
  below x y := decide (x < y)
  precedes x y := decide (x ≤ y)
  least := min
  greatest := max
  isFinite _ := true
  ofDouble := exactValue
  toDouble x := Float.ofInt x.num / Float.ofNat x.den
  fixed := exactFixed
  plain x := plainText (Float.ofInt x.num / Float.ofNat x.den)
  precedes_total x y := by
    rw [decide_eq_true_eq, decide_eq_true_eq]
    exact le_total x y
  precedes_trans x y z hxy hyz := by
    rw [decide_eq_true_eq] at hxy hyz ⊢
    exact le_trans hxy hyz

namespace Quantity

variable {x y : ℚ}

theorem below_eq_true_iff : below x y = true ↔ x < y := decide_eq_true_iff

theorem below_eq_false_iff : below x y = false ↔ y ≤ x :=
  decide_eq_false_iff_not.trans not_lt

theorem least_eq_min : least x y = min x y := rfl

theorem greatest_eq_max : greatest x y = max x y := rfl

theorem isFinite_eq_true : isFinite x = true := rfl

end Quantity

end Vigil
