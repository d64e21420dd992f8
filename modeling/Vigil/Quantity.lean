import Vigil.Decimal.Shortest

/-!
# Quantities

Confidences, costs and budgets are quantities.  The program computes with doubles; the rules that
use quantities are written over the class `Quantity`, so that they can also be read over exact
rational numbers.
-/

namespace Vigil

/-- Numbers that serve as confidences and costs. -/
class Quantity (ν : Type) extends Zero ν, One ν, Add ν, Sub ν, Mul ν, Div ν where
  /-- The number `m · 10 ^ -places`. -/
  decimal : (m places : Nat) → ν
  /-- Is the first number less than the second?  Nothing is less or greater than what is no
  number. -/
  below : ν → ν → Bool
  /-- Does the first number come no later than the second, in an order of all numbers? -/
  precedes : ν → ν → Bool
  /-- The lesser of two numbers; what is no number gives way to the other. -/
  least : ν → ν → ν
  /-- The greater of two numbers; what is no number gives way to the other. -/
  greatest : ν → ν → ν
  isFinite : ν → Bool
  /-- The quantity that a double is read as. -/
  ofDouble : Float → ν
  /-- The double that a quantity is written as. -/
  toDouble : ν → Float
  /-- The text with a fixed number of decimal places. -/
  fixed : (places : Nat) → ν → String
  /-- The text with as many digits as are needed. -/
  plain : ν → String
  precedes_total : ∀ x y : ν, precedes x y = true ∨ precedes y x = true
  precedes_trans : ∀ x y z : ν, precedes x y = true → precedes y z = true → precedes x z = true

namespace Quantity

variable {ν : Type} [Quantity ν]

/-- A natural number as a quantity. -/
def ofNat (n : Nat) : ν := decimal n 0

/-- The nearest quantity between zero and one. -/
def clampUnit (x : ν) : ν :=
  if below x 0 then 0 else if below 1 x then 1 else x

end Quantity

/-! ## Doubles -/

namespace Decimal

/-- The place of a double in the order of all doubles: by value, a negative zero before the
positive one, and what is no number at the ends. -/
def orderKey (x : Float) : Int :=
  let magnitude : Int := (x.toBits.toNat % Nat.pow 2 63 : Nat)
  if isNegative x then -magnitude - 1 else magnitude

/-- The text of a double for a reader: positional throughout, whole numbers without a point. -/
def plainText (x : Float) : String :=
  match shape x with
  | .notANumber => "NaN"
  | .infinite negative => if negative then "-inf" else "inf"
  | .finite negative m e =>
    let sign := if negative then ['-'] else []
    if m == 0 then String.ofList (sign ++ ['0'])
    else
      let (c, k) := shortest m e
      let all := digits c
      let ds := stripZeros all
      let exponent : Int := all.length - 1 + k
      if exponent < 0 then
        String.ofList (sign ++ ['0', '.'] ++ List.replicate (-exponent - 1).toNat '0' ++ ds)
      else
        let whole := exponent.toNat + 1
        let back := ds.drop whole
        String.ofList (sign ++ ds.take whole ++ List.replicate (whole - ds.length) '0' ++
          (if back.isEmpty then [] else '.' :: back))

end Decimal

instance : Quantity Float where
  zero := 0.0
  one := 1.0
  decimal m places := Float.ofScientific m true places
  below x y := decide (x < y)
  precedes x y := decide (Decimal.orderKey x ≤ Decimal.orderKey y)
  least x y := if x.isNaN then y else if y.isNaN then x else if y < x then y else x
  greatest x y := if x.isNaN then y else if y.isNaN then x else if x < y then y else x
  isFinite x := x.isFinite
  ofDouble x := x
  toDouble x := x
  fixed := Decimal.fixedText
  plain := Decimal.plainText
  precedes_total x y := by
    simpa using Int.le_total (Decimal.orderKey x) (Decimal.orderKey y)
  precedes_trans x y z hxy hyz := by
    simp only [decide_eq_true_eq] at hxy hyz ⊢
    exact Int.le_trans hxy hyz

end Vigil
