import Vigil.Json.Tree

/-!
# Numerals

A numeral is a number as JSON writes it.  `Numeral.value` says which number it denotes: a whole
number if it is written without fraction and exponent and fits into 64 bits, else the double that
is reached by reading the significant digits into 64 bits and scaling once by a power of ten.
-/

namespace Vigil.Json

/-- A number as it is written: the digits before the point, those behind it, and the exponent with
its sign. -/
structure Numeral where
  negative : Bool
  whole : List Char
  fraction : List Char
  exponent : Option (Bool × List Char)
deriving Repr, DecidableEq

/-- The value of a decimal digit. -/
def digitValue (c : Char) : Nat :=
  c.toNat - '0'.toNat

/-- The largest number of 64 bits. -/
def maxWord : Nat := UInt64.size - 1

/-- Read digits behind `n` as long as the number fits into 64 bits; the digits left are returned
too. -/
def readWord (n : Nat) : List Char → Nat × List Char
  | [] => (n, [])
  | c :: rest =>
    if maxWord < n * 10 + digitValue c then (n, c :: rest)
    else readWord (n * 10 + digitValue c) rest

/-- Read the digits of an exponent behind `n` up to the largest number of 31 bits; beyond it the
number of digits that are left. -/
def readExponent (n : Nat) : List Char → Except Nat Nat
  | [] => .ok n
  | c :: rest =>
    if 2147483647 < n * 10 + digitValue c then .error rest.length
    else readExponent (n * 10 + digitValue c) rest

/-- A power of ten as a double. -/
def powerOfTen (n : Nat) : Float :=
  Float.ofScientific 1 false n

/-- Divide by `10 ^ 308` until the exponent is in the range of a double or nothing is left. -/
def shrink : Nat → Float → Nat → Float
  | 0, x, e => x / powerOfTen e
  | n + 1, x, e =>
    if e ≤ 308 then x / powerOfTen e
    else if x == 0.0 then x
    else shrink n (x / powerOfTen 308) (e - 308)

/-- `significand · 10 ^ exponent` as a double, if it is in range. -/
def scaleDecimal (significand : Nat) (exponent : Int) : Option Float :=
  let x := Float.ofNat significand
  if 0 ≤ exponent then
    if exponent ≤ 308 then
      let y := x * powerOfTen exponent.toNat
      if y.isInf then none else some y
    else if x == 0.0 then some x else none
  else some (shrink exponent.natAbs x exponent.natAbs)

/-- The double that a numeral denotes, or the number of its characters that are still unread when
it is found to be out of range. -/
def Numeral.toFloat (n : Numeral) : Except Nat Float :=
  let (s, dropped) := readWord 0 n.whole
  let (s, left) := readWord s n.fraction
  let start : Int := dropped.length - (n.fraction.length - left.length : Nat)
  let magnitude : Except Nat Float :=
    match n.exponent with
    | none => ((scaleDecimal s start).map Except.ok).getD (.error 0)
    | some (down, ds) =>
      match readExponent 0 ds with
      | .ok e =>
        ((scaleDecimal s (if down then start - e else start + e)).map Except.ok).getD (.error 0)
      | .error unread =>
        if s != 0 && !down then .error unread else .ok 0.0
  magnitude.map fun x => if n.negative then -x else x

/-- The number that a numeral denotes, or the number of its characters that are still unread when
it is found to be out of range. -/
def Numeral.value (n : Numeral) : Except Nat Number :=
  match n.fraction, n.exponent, readWord 0 n.whole with
  | [], none, (s, []) =>
    if n.negative then
      if s == 0 || 9223372036854775808 < s then .ok (.real (-(Float.ofNat s))) else .ok (.whole (-s))
    else .ok (.whole s)
  | _, _, _ => n.toFloat.map Number.real

end Vigil.Json
