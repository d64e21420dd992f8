import Vigil.Decimal.Shortest
import Vigil.Program.Format.Numeral

/-!
# Laying out values

How numbers and texts are laid out in a field of some width: with spaces or zeros around them, with
a sign, and with some number of digits.
-/

namespace Vigil.Program.Format

open Decimal (Shape digits ratio roundDiv)

/-- How a value is laid out. -/
structure Layout where
  left : Bool := false
  zeros : Bool := false
  plus : Bool := false
  space : Bool := false
  alternate : Bool := false
  width : Nat := 0
  precision : Option Nat := none
deriving DecidableEq, Repr

namespace Layout

/-- A text filled up with spaces. -/
def pad (l : Layout) (s : Bytes) : Bytes :=
  let fill := List.replicate (l.width - s.length) ' '
  if l.left then s ++ fill else fill ++ s

/-- A text, cut to the precision. -/
def text (l : Layout) (s : Bytes) : Bytes :=
  l.pad (match l.precision with
    | some n => s.take n
    | none => s)

/-- A number in its field: what stands in front of its digits, and the digits; zeros are put
between the two if they are wanted. -/
def number (l : Layout) (front body : Bytes) (zeros : Bool) : Bytes :=
  if zeros && !l.left then
    front ++ List.replicate (l.width - front.length - body.length) '0' ++ body
  else l.pad (front ++ body)

/-- The sign in front of a number. -/
def sign (l : Layout) (negative : Bool) : Bytes :=
  if negative then ['-'] else if l.plus then ['+'] else if l.space then [' '] else []

/-- At least as many digits as the precision says; a zero has none if that is zero. -/
def leastDigits (l : Layout) (n : Nat) (ds : Bytes) : Bytes :=
  match l.precision with
  | none => ds
  | some p => if p == 0 && n == 0 then [] else List.replicate (p - ds.length) '0' ++ ds

/-- A whole number with its sign. -/
def signed (l : Layout) (n : Int) : Bytes :=
  l.number (l.sign (n < 0)) (l.leastDigits n.natAbs (digits n.natAbs)) (l.zeros && l.precision.isNone)

/-- A whole number without sign in a base; capital letters serve as digits if they are wanted. -/
def unsigned (l : Layout) (base : Nat) (capital : Bool) (n : Nat) : Bytes :=
  let ds := Nat.toDigits base n
  let ds := l.leastDigits n (if capital then ds.map Char.toUpper else ds)
  let ds := if l.alternate && base == 8 && ds.head? != some '0' then '0' :: ds else ds
  let front : Bytes :=
    if l.alternate && base == 16 && n != 0 then ['0', if capital then 'X' else 'x'] else []
  l.number front ds (l.zeros && l.precision.isNone)

/-! ## Real numbers -/

/-- The digits of a whole number, at least so many. -/
def digitsPadded (count n : Nat) : Bytes :=
  let ds := digits n
  List.replicate (count - ds.length) '0' ++ ds

/-- Digits with a point in front of the last `places`; the point is written even if nothing follows
it, if that is wanted. -/
def pointed (places n : Nat) (always : Bool) : Bytes :=
  let ds := digitsPadded (places + 1) n
  let whole := ds.take (ds.length - places)
  if places == 0 then if always then whole ++ ['.'] else whole
  else whole ++ '.' :: ds.drop (ds.length - places)

/-- The power of ten of the first digit of the positive number `m · 2 ^ e`. -/
def leadingPower (m : Nat) (e : Int) : Int :=
  let (n, d) := ratio m e 0
  let guess : Int := (digits n).length - (digits d).length
  let (a, b) := ratio m e (-guess)
  if b ≤ a then guess else guess - 1

/-- The first `places + 1` digits of `m · 2 ^ e` as a number, and the power of ten of the first. -/
def scientific (m : Nat) (e : Int) (places : Nat) : Nat × Int :=
  if m = 0 then (0, 0)
  else
    let x := leadingPower m e
    let (a, b) := ratio m e (places - x)
    let n := roundDiv a b
    if n = Nat.pow 10 (places + 1) then (n / 10, x + 1) else (n, x)

/-- A number with a fixed number of places. -/
def fixedBody (l : Layout) (m : Nat) (e : Int) (places : Nat) : Bytes :=
  let (a, b) := ratio m e places
  pointed places (roundDiv a b) l.alternate

/-- An exponent with its mark and sign. -/
def exponentText (mark : Char) (count : Nat) (x : Int) : Bytes :=
  mark :: (if x < 0 then '-' else '+') :: digitsPadded count x.natAbs

/-- A number with one digit in front of the point, and its exponent. -/
def scientificBody (l : Layout) (m : Nat) (e : Int) (places : Nat) : Bytes :=
  let (n, x) := scientific m e places
  pointed places n l.alternate ++ exponentText 'e' 2 x

/-- A text of digits without the zeros at its end, and without a point that is left there. -/
def withoutZeros (s : Bytes) : Bytes :=
  if s.contains '.' then
    match s.reverse.dropWhile (· == '0') with
    | '.' :: rest => rest.reverse
    | rest => rest.reverse
  else s

/-- A number in whichever form is the shorter one, with so many digits that count. -/
def generalBody (l : Layout) (m : Nat) (e : Int) (count : Nat) : Bytes :=
  let count := max count 1
  let (n, x) := scientific m e (count - 1)
  let trim (s : Bytes) : Bytes := if l.alternate then s else withoutZeros s
  if -4 ≤ x && x < count then trim (l.fixedBody m e ((count : Int) - 1 - x).toNat)
  else trim (pointed (count - 1) n l.alternate) ++ exponentText 'e' 2 x

/-- The digits of base sixteen of a significand with `lead` bits in front of the point, the rest of
its bits making `places` digits; and the exponent of two. -/
def hexParts (p : Precision) (lead : Nat) (m : Nat) (e : Int) : Nat × Nat × Int :=
  if m = 0 then (0, 0, 0)
  else
    let normal := Nat.log2 m + 1
    let shift := if p.least < e || normal == p.bits then p.bits - normal else 0
    let places := (p.bits - lead + 3) / 4
    (m * Nat.pow 2 (shift + (4 * places + lead - p.bits)), places, e - shift + (p.bits - lead))

/-- A number in base sixteen. -/
def hexBody (l : Layout) (p : Precision) (m : Nat) (e : Int) : Bytes :=
  let lead := if p.bits == 64 then 4 else 1
  let (n, places, x) := hexParts p lead m e
  let cut (places wanted : Nat) (n : Nat) : Nat := roundDiv n (Nat.pow 16 (places - wanted))
  let text (places n : Nat) : Bytes :=
    let ds := Nat.toDigits 16 n
    let ds := List.replicate (places + 1 - ds.length) '0' ++ ds
    let whole := ds.take (ds.length - places)
    let fraction := ds.drop (ds.length - places)
    if fraction.isEmpty then if l.alternate then whole ++ ['.'] else whole
    else whole ++ '.' :: fraction
  let body :=
    match l.precision with
    | none => withoutZeros (text places n)
    | some wanted =>
      if wanted < places then text wanted (cut places wanted n)
      else text wanted (n * Nat.pow 16 (wanted - places))
  body ++ exponentText 'p' 1 x

/-- The ways in which a real number is written. -/
inductive Style where
  | fixed | scientific | general | hex
deriving DecidableEq, Repr

/-- A real number. -/
def real (l : Layout) (p : Precision) (style : Style) (capital : Bool) (x : Shape) : Bytes :=
  let raise (s : Bytes) : Bytes := if capital then s.map Char.toUpper else s
  match x with
  | .notANumber => l.pad (raise (l.sign false ++ "nan".toList))
  | .infinite negative => l.pad (raise (l.sign negative ++ "inf".toList))
  | .finite negative m e =>
    let places := l.precision.getD 6
    let (front, body) : Bytes × Bytes :=
      match style with
      | .fixed => ([], l.fixedBody m e places)
      | .scientific => ([], l.scientificBody m e places)
      | .general => ([], l.generalBody m e places)
      | .hex => (['0', 'x'], l.hexBody p m e)
    l.number (raise (l.sign negative ++ front)) (raise body) l.zeros

end Layout

end Vigil.Program.Format
