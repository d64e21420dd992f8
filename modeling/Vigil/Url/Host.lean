import Vigil.Text.Lowercase
import Vigil.Text.Scan
import Vigil.Text.Utf8

/-!
# Hosts

The host in an address is a domain, or a number of four or sixteen bytes.  A domain is written in
small letters and in ASCII: a label with other characters is written with the digits that
`Punycode` uses.
-/

namespace Vigil.Url

/-! ## Labels in ASCII -/

namespace Punycode

/-- The letter or digit of a value below 36. -/
def digit (n : Nat) : Char :=
  Char.ofNat (if n < 26 then 97 + n else 22 + n)

/-- Divide a number until it is small; the number bounds the divisions. -/
def settle : Nat → Nat → Nat → Nat × Nat
  | 0, delta, k => (delta, k)
  | n + 1, delta, k => if 455 < delta then settle n (delta / 35) (k + 36) else (delta, k)

/-- The bias for the next number. -/
def adapt (delta points : Nat) (first : Bool) : Nat :=
  let delta := delta / (if first then 700 else 2)
  let (delta, k) := settle 16 (delta + delta / points) 0
  k + 36 * delta / (delta + 38)

/-- The least value of a digit at place `k` that another digit follows. -/
def threshold (bias k : Nat) : Nat :=
  if k ≤ bias then 1 else if bias + 26 ≤ k then 26 else k - bias

/-- The digits of a number.  The first number bounds them. -/
def digits (bias : Nat) : Nat → Nat → Nat → List Char
  | 0, _, _ => []
  | n + 1, k, q =>
    let t := threshold bias k
    if q < t then [digit q]
    else digit (t + (q - t) % (36 - t)) :: digits bias n (k + 36) ((q - t) / (36 - t))

/-- What is known while a label is written. -/
structure Progress where
  delta : Nat
  bias : Nat
  handled : Nat
  text : List Char

/-- Go on with all characters in a label that have the number `m`. -/
def writeAll (m basic : Nat) (p : Progress) : List Nat → Progress
  | [] => p
  | c :: rest =>
    if c < m then writeAll m basic { p with delta := p.delta + 1 } rest
    else if c == m then
      writeAll m basic
        { delta := 0
          bias := adapt p.delta (p.handled + 1) (p.handled == basic)
          handled := p.handled + 1
          text := p.text ++ digits p.bias 20 36 p.delta } rest
    else writeAll m basic p rest

/-- Go on with the characters from the number `n` on.  The first number bounds the steps. -/
def writeFrom (label : List Nat) (basic : Nat) : Nat → Nat → Progress → List Char
  | 0, _, p => p.text
  | k + 1, n, p =>
    match (label.filter (n ≤ ·)).min? with
    | none => p.text
    | some m =>
      let p := writeAll m basic { p with delta := p.delta + (m - n) * (p.handled + 1) } label
      writeFrom label basic k (m + 1) { p with delta := p.delta + 1 }

/-- A label in ASCII. -/
def encode (label : List Char) : List Char :=
  let basic := label.filter fun c => c.toNat < 128
  let start := if basic.isEmpty then [] else basic ++ ['-']
  writeFrom (label.map Char.toNat) basic.length (label.length + 1) 128
    ⟨0, 72, basic.length, start⟩

/-- The value of a letter or digit. -/
def value? (c : Char) : Option Nat :=
  if 'a' ≤ c && c ≤ 'z' then some (c.toNat - 97)
  else if '0' ≤ c && c ≤ '9' then some (c.toNat - 22)
  else none

/-- The number that some digits from place `k` on begin with, and the digits after it. -/
def number? (bias : Nat) : Nat → Nat → List Char → Option (Nat × List Char)
  | _, _, [] => none
  | k, weight, c :: rest => do
    let d ← value? c
    let t := threshold bias k
    if d < t then some (d * weight, rest)
    else
      let (n, rest) ← number? bias (k + 36) (weight * (36 - t)) rest
      some (d * weight + n, rest)

/-- Insert the characters that the digits stand for into a text, from the number `n` and the place
`i` on.  The first number bounds the characters. -/
def insertFrom : Nat → Nat → Nat → Nat → List Char → List Char → Option (List Char)
  | _, _, _, _, text, [] => some text
  | 0, _, _, _, _, _ => none
  | fuel + 1, n, i, bias, text, rest => do
    let (delta, rest) ← number? bias 36 1 rest
    let points := text.length + 1
    let m := n + (i + delta) / points
    let place := (i + delta) % points
    if m.isValidChar then
      insertFrom fuel m (place + 1) (adapt delta points (i == 0))
        (text.insertIdx place (Char.ofNat m)) rest
    else none

/-- The label that a text in ASCII stands for. -/
def decode? (s : List Char) : Option (List Char) :=
  let back := s.reverse
  let digits := (back.takeWhile (· != '-')).reverse
  let basic := ((back.dropWhile (· != '-')).drop 1).reverse
  insertFrom digits.length 128 0 72 basic digits

end Punycode

/-- The parts of a text between some characters. -/
def splitAtAny (separators : List Char) : List Char → List (List Char)
  | [] => [[]]
  | c :: rest =>
    if separators.contains c then [] :: splitAtAny separators rest
    else
      match splitAtAny separators rest with
      | [] => [[c]]
      | part :: parts => (c :: part) :: parts

/-- A wide form of an ASCII character becomes that character; other characters stay. -/
def narrow (c : Char) : Char :=
  if '\uff01' ≤ c && c ≤ '\uff5e' then Char.ofNat (c.toNat - 0xfee0) else c

/-- The characters of a domain that count, as small letters. -/
def plainDomain (s : List Char) : List Char :=
  Text.lowerChars ((s.filter (· != '\u00ad')).map narrow)

/-- A label in ASCII.  One that seems to be written with digits already has to stand for other
characters than those of ASCII, in small letters. -/
def asciiLabel? (label : List Char) : Option (List Char) :=
  if label.any fun c => c == '\u200c' || c == '\u200d' then none
  else if label.any fun c => 128 ≤ c.toNat then some ("xn--".toList ++ Punycode.encode label)
  else
    match label with
    | 'x' :: 'n' :: '-' :: '-' :: rest => do
      let meant ← Punycode.decode? rest
      if plainDomain meant == meant && meant.any fun c => 128 ≤ c.toNat then some label else none
    | _ => some label

/-- A domain in ASCII. -/
def asciiDomain? (s : List Char) : Option (List Char) := do
  let labels ← (splitAtAny ['.', '\u3002', '\uff0e', '\uff61'] (plainDomain s)).mapM asciiLabel?
  return List.intercalate ['.'] labels

/-! ## Numbers -/

/-- The number that a part of an address of four bytes is. -/
def partNumber? (s : List Char) : Option Nat :=
  match s with
  | [] => none
  | '0' :: x :: rest =>
    if x == 'x' || x == 'X' then if rest.isEmpty then some 0 else Text.hexNumber? rest
    else if (x :: rest).all fun c => '0' ≤ c && c ≤ '7' then
      some ((x :: rest).foldl (fun n c => 8 * n + (c.toNat - 48)) 0)
    else none
  | s => if s.all Char.isDigit then some (Nat.ofDigitChars 10 s 0) else none

/-- The parts of a host between dots, without an empty one at the end. -/
def dottedParts (s : List Char) : List (List Char) :=
  let parts := splitAtAny ['.'] s
  if 1 < parts.length && parts.getLast? == some [] then parts.dropLast else parts

/-- Does a host end with a number, so that it is no domain? -/
def endsInNumber (s : List Char) : Bool :=
  match (dottedParts s).getLast? with
  | some last => (!last.isEmpty && last.all Char.isDigit) || (partNumber? last).isSome
  | none => false

/-- The bytes of an address of four bytes. -/
def fourBytes? (s : List Char) : Option Nat := do
  let parts ← (dottedParts s).mapM partNumber?
  let last ← parts.getLast?
  if 4 < parts.length || parts.dropLast.any (255 < ·) ||
      Nat.pow 256 (5 - parts.length) ≤ last then none
  else
    let places := (List.range parts.length).map fun k => Nat.pow 256 (3 - k)
    some (last + (List.zipWith (· * ·) parts.dropLast places).foldl (· + ·) 0)

/-- Four bytes with dots between them. -/
def fourText (n : Nat) : String :=
  s!"{n / 16777216 % 256}.{n / 65536 % 256}.{n / 256 % 256}.{n % 256}"

/-- The pieces of sixteen bits that are written between colons; the last one may be four bytes. -/
def pieces? : List (List Char) → Option (List Nat)
  | [] => some []
  | [s] =>
    if s.contains '.' then do
      let parts := splitAtAny ['.'] s
      let plain := parts.all fun p =>
        !p.isEmpty && p.all Char.isDigit && (p.length == 1 || p.head? != some '0')
      let n ← if plain && parts.length == 4 then fourBytes? s else none
      if (parts.map fun p => Nat.ofDigitChars 10 p 0).any (255 < ·) then none
      else some [n / 65536, n % 65536]
    else if 4 < s.length then none
    else (Text.hexNumber? s).map fun n => [n]
  | s :: rest =>
    if 4 < s.length then none
    else do
      let n ← Text.hexNumber? s
      return n :: (← pieces? rest)

/-- The two sides of the first double colon. -/
def splitDouble : List Char → Option (List Char × List Char)
  | ':' :: ':' :: rest => some ([], rest)
  | c :: rest => (splitDouble rest).map fun (a, b) => (c :: a, b)
  | [] => none

/-- The eight pieces of an address of sixteen bytes. -/
def eightPieces? (s : List Char) : Option (List Nat) := do
  let side (s : List Char) : Option (List Nat) :=
    if s.isEmpty then some [] else pieces? (splitAtAny [':'] s)
  match splitDouble s with
  | none =>
    let ps ← side s
    if ps.length == 8 then some ps else none
  | some (a, b) =>
    let left ← side a
    let right ← side b
    if left.length + right.length < 8 && !a.contains '.' then
      some (left ++ List.replicate (8 - left.length - right.length) 0 ++ right)
    else none

/-- The length of the zeros that each piece begins. -/
def zeroRuns : List Nat → List Nat
  | [] => []
  | p :: rest =>
    let runs := zeroRuns rest
    (if p == 0 then (runs.headD 0) + 1 else 0) :: runs

/-- An address of sixteen bytes, with its longest zeros left out. -/
def eightText (ps : List Nat) : String :=
  let hex (n : Nat) : String := String.ofList (Nat.toDigits 16 n)
  let runs := zeroRuns ps
  let longest := runs.foldl max 0
  if longest < 2 then String.intercalate ":" (ps.map hex)
  else
    let start := runs.findIdx (· == longest)
    String.intercalate ":" ((ps.take start).map hex) ++ "::" ++
      String.intercalate ":" ((ps.drop (start + longest)).map hex)

/-! ## Hosts -/

/-- The bytes of a text in which a percent sign with two digits stands for a byte. -/
def percentDecoded : List UInt8 → List UInt8
  | 37 :: a :: b :: rest =>
    match Text.hexNumber? [Char.ofNat a.toNat, Char.ofNat b.toNat] with
    | some n => UInt8.ofNat n :: percentDecoded rest
    | none => 37 :: percentDecoded (a :: b :: rest)
  | x :: rest => x :: percentDecoded rest
  | [] => []

/-- May the character not stand in a domain? -/
def isForbidden (c : Char) : Bool :=
  c ≤ ' ' || c == '\x7f' || "#/:<>?@[\\]^|%".toList.contains c

/-- The normal form of a host, if it is one. -/
def host? (s : List Char) : Option String :=
  match s with
  | '[' :: rest =>
    if rest.getLast? == some ']' then
      (eightPieces? rest.dropLast).map fun ps => "[" ++ eightText ps ++ "]"
    else none
  | _ => do
    let decoded := Text.ofBytesLossy (percentDecoded (Text.toBytes (String.ofList s)))
    let domain ← asciiDomain? decoded.toList
    if domain.isEmpty || domain.any isForbidden then none
    else if endsInNumber domain then (fourBytes? domain).map fourText
    else some (String.ofList domain)

end Vigil.Url
