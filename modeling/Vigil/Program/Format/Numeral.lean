import Vigil.Decimal.Binary
import Vigil.Program.Bytes
import Vigil.Text.Scan

/-!
# Numbers at the beginning of a text

Programs read a number as far as the text looks like one: blanks and a sign may come first, and
whole numbers may be written in base eight, sixteen or two.  A number out of range becomes the
nearest one in range.
-/

namespace Vigil.Program.Format

/-- What was read at the beginning of a text: a value, what is left, whether there was a number at
all, and whether it was in range. -/
structure Reading (α : Type) where
  value : α
  rest : Bytes
  found : Bool := true
  inRange : Bool := true

/-- Is the character a blank? -/
def isBlank (c : Char) : Bool :=
  c == ' ' || ('\t' ≤ c && c ≤ '\r')

/-- A text without its sign, and whether that was a minus. -/
def splitSign : Bytes → Bool × Bytes
  | '-' :: rest => (true, rest)
  | '+' :: rest => (false, rest)
  | s => (false, s)

/-- The value of a digit in a base. -/
def digitIn? (base : Nat) (c : Char) : Option Nat :=
  (Text.hexValue? c).filter (· < base)

/-- The leading digits in a base, and the rest. -/
def spanDigits (base : Nat) (s : Bytes) : List Nat × Bytes :=
  let ds := s.takeWhile fun c => (digitIn? base c).isSome
  (ds.filterMap (digitIn? base), s.drop ds.length)

/-- The number that digits in a base denote. -/
def numberOf (base : Nat) (ds : List Nat) : Nat :=
  ds.foldl (fun n d => n * base + d) 0

/-! ## Whole numbers -/

/-- The base that a numeral announces, and the numeral without its mark. -/
def baseOf (s : Bytes) : Nat × Bytes :=
  match s with
  | '0' :: m :: d :: rest =>
    if (m == 'x' || m == 'X') && (digitIn? 16 d).isSome then (16, d :: rest)
    else if (m == 'b' || m == 'B') && (digitIn? 2 d).isSome then (2, d :: rest)
    else (8, s)
  | '0' :: _ => (8, s)
  | _ => (10, s)

/-- Read a whole number; `confine` says whether one is in range and what becomes of it. -/
def readWhole (confine : Bool → Nat → Int × Bool) (s : Bytes) : Reading Int :=
  let (negative, rest) := splitSign (s.dropWhile isBlank)
  let (base, rest) := baseOf rest
  match spanDigits base rest with
  | ([], _) => ⟨0, s, false, true⟩
  | (ds, rest) =>
    let (n, inRange) := confine negative (numberOf base ds)
    ⟨n, rest, true, inRange⟩

/-- Half the number of words of 64 bits. -/
def halfWords : Nat := Nat.pow 2 63

/-- Read a whole number of 64 bits with a sign. -/
def readSigned : Bytes → Reading Int :=
  readWhole fun negative n =>
    if negative then
      if n ≤ halfWords then (-(n : Int), true) else (-(halfWords : Int), false)
    else if n < halfWords then ((n : Int), true) else ((halfWords : Int) - 1, false)

/-- Read a whole number of 64 bits without a sign; a negative one counts from the end of the
range. -/
def readUnsigned : Bytes → Reading Int :=
  readWhole fun negative n =>
    if 2 * halfWords ≤ n then (2 * (halfWords : Int) - 1, false)
    else if negative && n != 0 then (2 * (halfWords : Int) - n, true)
    else ((n : Int), true)

/-! ## Real numbers -/

/-- How real numbers are kept: the bits of the significand, the exponent of the last bit of the
smallest number, and the exponent beyond the largest. -/
structure Precision where
  bits : Nat
  least : Int
  beyond : Int
deriving DecidableEq, Repr

/-- Numbers of 64 bits. -/
def Precision.double : Precision := ⟨53, -1074, 1024⟩

/-- Numbers of 80 bits. -/
def Precision.extended : Precision := ⟨64, -16445, 16384⟩

/-- The number nearest to `n / d`, and whether it is in range. -/
def Precision.nearest (p : Precision) (negative : Bool) (n d : Nat) : Decimal.Shape × Bool :=
  if n = 0 then (.finite negative 0 0, true)
  else
    let guess : Int := (Nat.log2 n : Int) - Nat.log2 d - p.bits
    let scaled (e : Int) : Nat × Nat := (n * Nat.pow 2 (-e).toNat, d * Nat.pow 2 e.toNat)
    let fits (e : Int) : Bool :=
      let (a, b) := scaled e
      Decimal.roundDiv a b ≤ Nat.pow 2 p.bits
    let e :=
      if fits guess then guess else if fits (guess + 1) then guess + 1 else guess + 2
    let e := max e p.least
    let (a, b) := scaled e
    let m := Decimal.roundDiv a b
    if p.beyond < (Nat.log2 m : Int) + e + 1 then (.infinite negative, false)
    else (.finite negative m e, Nat.pow 2 (p.bits - 1) ≤ m || m * b == a)

/-- Read an exponent behind its mark, if there is one; exponents far out of range are cut. -/
def readExponent (mark : Char) (s : Bytes) : Int × Bytes :=
  match s with
  | c :: rest =>
    if c.toLower == mark then
      let (negative, rest) := splitSign rest
      match spanDigits 10 rest with
      | ([], _) => (0, s)
      | (ds, rest) =>
        let n := numberOf 10 (ds.dropWhile (· == 0) |>.take 6)
        (if negative then -(n : Int) else n, rest)
    else (0, s)
  | [] => (0, s)

/-- Read digits in a base with a point among them: the digits, how many of them stand behind the
point, and the rest. -/
def readPointed (base : Nat) (s : Bytes) : List Nat × Nat × Bytes :=
  let (whole, rest) := spanDigits base s
  match rest with
  | '.' :: behind =>
    let (fraction, rest) := spanDigits base behind
    if whole.isEmpty && fraction.isEmpty then ([], 0, s)
    else (whole ++ fraction, fraction.length, rest)
  | _ => (whole, 0, rest)

/-- The text behind a word, whatever the case of its letters. -/
def afterWord? (w : String) (s : Bytes) : Option Bytes :=
  let n := w.length
  if (s.take n).map Char.toLower = w.toList then some (s.drop n) else none

/-- Is the text the numeral of base sixteen behind its mark? -/
def looksHex : Bytes → Bool
  | '0' :: x :: '.' :: d :: _ => (x == 'x' || x == 'X') && (digitIn? 16 d).isSome
  | '0' :: x :: d :: _ => (x == 'x' || x == 'X') && (digitIn? 16 d).isSome
  | _ => false

/-- Read a real number without its sign. -/
def readMagnitude (p : Precision) (negative : Bool) (s : Bytes) :
    Option (Decimal.Shape × Bool × Bytes) :=
  match afterWord? "infinity" s, afterWord? "inf" s, afterWord? "nan" s with
  | some rest, _, _ => some (.infinite negative, true, rest)
  | _, some rest, _ => some (.infinite negative, true, rest)
  | _, _, some rest => some (.notANumber, true, rest)
  | none, none, none =>
    if looksHex s then
      let (ds, places, rest) := readPointed 16 (s.drop 2)
      let (e, rest) := readExponent 'p' rest
      let e := max (-40000) (min 40000 (e - 4 * places))
      let (x, ok) := p.nearest negative (numberOf 16 ds * Nat.pow 2 e.toNat) (Nat.pow 2 (-e).toNat)
      some (x, ok, rest)
    else
      match readPointed 10 s with
      | ([], _, _) => none
      | (ds, places, rest) =>
        let (e, rest) := readExponent 'e' rest
        let e := max (-(6000 + ds.length : Int)) (min 6000 (e - places))
        let (x, ok) :=
          p.nearest negative (numberOf 10 ds * Nat.pow 10 e.toNat) (Nat.pow 10 (-e).toNat)
        some (x, ok, rest)

/-- Read a real number. -/
def readReal (p : Precision) (s : Bytes) : Reading Decimal.Shape :=
  let (negative, rest) := splitSign (s.dropWhile isBlank)
  match readMagnitude p negative rest with
  | some (x, ok, rest) => ⟨x, rest, true, ok⟩
  | none => ⟨.finite false 0 0, s, false, true⟩

end Vigil.Program.Format
