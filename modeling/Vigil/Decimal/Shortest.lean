import Vigil.Decimal.Binary

/-!
# The fewest digits that read back

A double is written with the fewest decimal digits that no other double is nearer to, and among
those with the nearest ones.  The search goes down the decimal grids `10 ^ k`: on the first grid
that has a point in the interval of numbers rounding to the double, the value's own two neighbours
on that grid are the only candidates.
-/

namespace Vigil.Decimal

/-- The numbers that round to one double, in units of `2 ^ scale`: from `low` to `high`, the ends
included if `closed`; `centre` is the double itself. -/
structure Rounding where
  low : Nat
  centre : Nat
  high : Nat
  scale : Int
  closed : Bool

/-- The interval of the positive double `m · 2 ^ e`.  Below a power of two the neighbours are
twice as close, except at the bottom of the range. -/
def Rounding.of (m : Nat) (e : Int) : Rounding where
  low := if m == Nat.pow 2 52 && e != -1074 then 4 * m - 1 else 4 * m - 2
  centre := 4 * m
  high := 4 * m + 2
  scale := e - 2
  closed := m % 2 == 0

/-- Is `c · 10 ^ k` in the interval? -/
def Rounding.holds (r : Rounding) (c : Nat) (k : Int) : Bool :=
  let unit := ratio 1 r.scale (-k)
  let x := c * unit.2
  let lo := r.low * unit.1
  let hi := r.high * unit.1
  if r.closed then lo ≤ x && x ≤ hi else lo < x && x < hi

/-- The point of the grid `10 ^ k` to choose, if one lies in the interval: the nearer of the two
neighbours of the centre, a tie going to the even one. -/
def Rounding.pick? (r : Rounding) (k : Int) : Option Nat :=
  let unit := ratio 1 r.scale (-k)
  let down := r.centre * unit.1 / unit.2
  let near := roundDiv (r.centre * unit.1) unit.2
  let far := if near == down then down + 1 else down
  if r.holds near k then some near
  else if r.holds far k then some far
  else none

/-- The first grid, from `10 ^ k` downwards, that has a point in the interval. -/
def Rounding.search (r : Rounding) : Nat → Int → Nat × Int
  | 0, k => (r.centre, k)
  | n + 1, k =>
    match r.pick? k with
    | some c => (c, k)
    | none => r.search n (k - 1)

/-- Digits and exponent of the shortest decimal form of `m · 2 ^ e`: the number `c · 10 ^ k`. -/
def shortest (m : Nat) (e : Int) : Nat × Int :=
  (Rounding.of m e).search 24 (((m.log2 + 1 : Int) + e) * 30103 / 100000 + 2)

/-! ## Text -/

/-- The decimal digits of a number. -/
def digits (n : Nat) : List Char :=
  Nat.toDigits 10 n

/-- The digits without the zeros at the end. -/
def stripZeros (ds : List Char) : List Char :=
  (ds.reverse.dropWhile (· == '0')).reverse

/-- How a number is laid out: positional notation between two decimal exponents, scientific
notation outside. -/
structure Layout where
  leastPositional : Int
  endPositional : Int

/-- Numbers are written in positional notation from `10 ^ -5` up to but not including `10 ^ 16`. -/
def numberLayout : Layout := ⟨-5, 16⟩

/-- The text of `0.d₁d₂… · 10 ^ (exponent + 1)`, where the digits are `d₁d₂…`. -/
def layOut (l : Layout) (ds : List Char) (exponent : Int) : List Char :=
  if l.leastPositional ≤ exponent && exponent < l.endPositional then
    if exponent < 0 then
      ['0', '.'] ++ List.replicate (-exponent - 1).toNat '0' ++ ds
    else
      let whole := exponent.toNat + 1
      let front := ds.take whole ++ List.replicate (whole - ds.length) '0'
      let back := ds.drop whole
      front ++ ['.'] ++ (if back.isEmpty then ['0'] else back)
  else
    let front := ds.take 1
    let back := ds.drop 1
    let sign := if exponent < 0 then '-' else '+'
    front ++ (if back.isEmpty then [] else '.' :: back) ++ ['e', sign] ++ digits exponent.natAbs

/-- The text of a magnitude. -/
def magnitudeText (m : Nat) (e : Int) : List Char :=
  if m == 0 then ['0', '.', '0']
  else
    let (c, k) := shortest m e
    let all := digits c
    layOut numberLayout (stripZeros all) (all.length - 1 + k)

/-- The text of a finite double; there is none for the others. -/
def text? (x : Float) : Option (List Char) :=
  match shape x with
  | .finite negative m e => some ((if negative then ['-'] else []) ++ magnitudeText m e)
  | _ => none

/-- The text of a double, with names for those that are not finite. -/
def floatText (x : Float) : String :=
  match shape x with
  | .notANumber => "NaN"
  | .infinite negative => if negative then "-inf" else "inf"
  | .finite negative m e =>
    String.ofList ((if negative then ['-'] else []) ++ magnitudeText m e)

/-!
## Fixed places

A double with a given number of decimal places: the exact value is rounded to the nearest
multiple of the last place, a tie going to the even one.
-/

/-- Digits with a point before the last `places` of them. -/
def placePoint (places n : Nat) : List Char :=
  let ds := digits n
  let ds := List.replicate (places + 1 - ds.length) '0' ++ ds
  let whole := ds.take (ds.length - places)
  if places == 0 then whole else whole ++ ['.'] ++ ds.drop (ds.length - places)

/-- The double with a fixed number of decimal places; the sign is kept even on zero. -/
def fixedText (places : Nat) (x : Float) : String :=
  match shape x with
  | .notANumber => "NaN"
  | .infinite negative => if negative then "-inf" else "inf"
  | .finite negative m e =>
    let (n, d) := ratio m e places
    String.ofList ((if negative then ['-'] else []) ++ placePoint places (roundDiv n d))

end Vigil.Decimal
