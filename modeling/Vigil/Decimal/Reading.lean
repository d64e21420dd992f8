import Vigil.Decimal.Shortest

/-!
# Reading numbers

How a text is read as a number when the whole of it must be one: whole numbers with a sign, and
doubles in positional or scientific notation.  A double is the one nearest to the decimal number.
-/

namespace Vigil.Decimal

/-- The number that some digits denote. -/
def natOfDigits (ds : List Char) : Nat :=
  ds.foldl (fun n c => n * 10 + (c.toNat - 48)) 0

/-- A text without its sign, and whether that was a minus. -/
def splitSign : List Char → Bool × List Char
  | '-' :: rest => (true, rest)
  | '+' :: rest => (false, rest)
  | s => (false, s)

/-- The number that a text of digits denotes. -/
def readDigits? (s : List Char) : Option Nat :=
  if s.isEmpty || !s.all Char.isDigit then none else some (natOfDigits s)

/-- The whole number that a text denotes. -/
def readInt? (s : List Char) : Option Int :=
  let (negative, ds) := splitSign s
  (readDigits? ds).map fun n => if negative then -(n : Int) else n

/-- Does a whole number fit into 64 bits with a sign? -/
def isSigned64 (n : Int) : Bool :=
  decide (-9223372036854775808 ≤ n ∧ n ≤ 9223372036854775807)

/-- The double nearest to `m · 10 ^ e`.  Exponents far outside the range of doubles are not worked
out. -/
def nearestDouble (m : Nat) (e : Int) : Float :=
  let size : Int := (digits m).length + e
  if m = 0 || size < -400 then 0.0
  else if 400 < size then 1.0 / 0.0
  else if 0 ≤ e then Float.ofScientific m false e.toNat
  else Float.ofScientific m true e.natAbs

/-- An exponent with its mark, or nothing at all. -/
def readExponent? : List Char → Option Int
  | [] => some 0
  | c :: rest => if c == 'e' || c == 'E' then readInt? rest else none

/-- The double that a text without sign denotes. -/
def readMagnitude? (s : List Char) : Option Float :=
  let word := s.map Char.toLower
  if word == ['i', 'n', 'f'] || word == ['i', 'n', 'f', 'i', 'n', 'i', 't', 'y'] then
    some (1.0 / 0.0)
  else if word == ['n', 'a', 'n'] then some (0.0 / 0.0)
  else
    let whole := s.takeWhile Char.isDigit
    let (fraction, rest) :=
      match s.dropWhile Char.isDigit with
      | '.' :: r => (r.takeWhile Char.isDigit, r.dropWhile Char.isDigit)
      | r => ([], r)
    if whole.isEmpty && fraction.isEmpty then none
    else
      (readExponent? rest).map fun e =>
        nearestDouble (natOfDigits (whole ++ fraction)) (e - fraction.length)

/-- The double that a text denotes. -/
def readFloat? (s : List Char) : Option Float :=
  let (negative, rest) := splitSign s
  (readMagnitude? rest).map fun x => if negative then -x else x

end Vigil.Decimal
