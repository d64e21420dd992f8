/-!
# Doubles as exact numbers

`shape` takes a double apart into sign, significand and exponent, so that its value can be treated
with exact arithmetic.  `roundDiv` is the rounding of a quotient to the nearest whole number, a tie
going to the even one; its law says that the result is within half a unit.
-/

namespace Vigil.Decimal

/-- What a double stands for: `finite negative m e` is `± m · 2 ^ e`. -/
inductive Shape where
  | notANumber
  | infinite (negative : Bool)
  | finite (negative : Bool) (significand : Nat) (exponent : Int)
deriving DecidableEq, Repr

/-- The sign bit. -/
def isNegative (x : Float) : Bool :=
  x.toBits.toNat / Nat.pow 2 63 == 1

/-- The eleven bits of the exponent, as they are stored. -/
def storedExponent (x : Float) : Nat :=
  x.toBits.toNat / Nat.pow 2 52 % Nat.pow 2 11

/-- The 52 bits of the fraction. -/
def storedFraction (x : Float) : Nat :=
  x.toBits.toNat % Nat.pow 2 52

/-- The value of a double, taken apart. -/
def shape (x : Float) : Shape :=
  let e := storedExponent x
  let f := storedFraction x
  if e == 2047 then
    if f == 0 then .infinite (isNegative x) else .notANumber
  else if e == 0 then .finite (isNegative x) f (-1074)
  else .finite (isNegative x) (f + Nat.pow 2 52) (e - 1075)

/-! ## Rounding a quotient -/

/-- `n / d` rounded to the nearest whole number; a tie goes to the even one. -/
def roundDiv (n d : Nat) : Nat :=
  let q := n / d
  let r := n % d
  if 2 * r < d then q
  else if d < 2 * r then q + 1
  else if q % 2 == 0 then q else q + 1

/-- The rounded quotient is at most half a unit away. -/
theorem roundDiv_near (n d : Nat) (hd : 0 < d) :
    2 * (roundDiv n d * d) ≤ 2 * n + d ∧ 2 * n ≤ 2 * (roundDiv n d * d) + d := by
  have h := Nat.div_add_mod n d
  have hr := Nat.mod_lt n hd
  have hm : (n / d) * d = d * (n / d) := Nat.mul_comm _ _
  have hs : (n / d + 1) * d = d * (n / d) + d := by rw [Nat.add_mul, hm, Nat.one_mul]
  simp only [roundDiv]
  split
  · omega
  · split
    · omega
    · split <;> omega

/-- A whole quotient is kept. -/
theorem roundDiv_mul (q d : Nat) (hd : 0 < d) : roundDiv (q * d) d = q := by
  simp [roundDiv, Nat.mul_div_cancel _ hd, hd]

/-- The numerator and denominator of `m · 2 ^ e · 10 ^ k`. -/
def ratio (m : Nat) (e k : Int) : Nat × Nat :=
  (m * Nat.pow 2 e.toNat * Nat.pow 10 k.toNat, Nat.pow 2 (-e).toNat * Nat.pow 10 (-k).toNat)

/-!
## Single precision

`single` rounds to the nearest number with 24 significant bits, a tie going to the even one, and
gives that number as a double.
-/

/-- The double `2 ^ e`, for exponents of normal doubles. -/
def powerOfTwo (e : Int) : Float :=
  Float.ofBits (UInt64.ofNat ((e + 1023).toNat * Nat.pow 2 52))

/-- The double with this sign and the magnitude `m · 2 ^ e`, exact when it needs no rounding. -/
def scaled (negative : Bool) (m : Nat) (e : Int) : Float :=
  let x := Float.ofNat m * powerOfTwo e
  if negative then -x else x

/-- `± m · 2 ^ e` rounded to single precision: 24 bits, no exponent below -149, and beyond the
greatest single an infinity. -/
def roundSingle (negative : Bool) (m : Nat) (e : Int) : Float :=
  if m == 0 then scaled negative 0 0
  else
    let unit := max (e + (m.log2 + 1) - 24) (-149)
    let (n, d) := ratio m (e - unit) 0
    let r := roundDiv n d
    if Nat.pow 2 128 ≤ (ratio r unit 0).1 / (ratio r unit 0).2 then
      if negative then -(1.0 / 0.0) else 1.0 / 0.0
    else scaled negative r unit

/-- The nearest single to a double, as a double. -/
def single (x : Float) : Float :=
  match shape x with
  | .finite negative m e => roundSingle negative m e
  | _ => x

/-- The nearest single to a whole number, as a double. -/
def singleOfInt (n : Int) : Float :=
  roundSingle (n < 0) n.natAbs 0

end Vigil.Decimal
