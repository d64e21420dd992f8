import Vigil.Decimal.Reading
import Vigil.Json.Tree
import Vigil.Toml.Text

/-!
# TOML: numbers, dates and words

A scalar without quotes is a word of letters, digits and a few marks.  Dates and times are checked
and kept as texts.
-/

namespace Vigil.Toml

open Text (Scan)

/-- May a character stand in a scalar without quotes? -/
def isScalarChar (c : Char) : Bool :=
  c.isAlphanum || c == '_' || c == '-' || c == '+' || c == '.' || c == ':'

/-! ## Numbers -/

/-- Digits with single underscores between them, without the underscores. -/
def plainDigits? (isDigit : Char → Bool) : List Char → Option (List Char)
  | [] => none
  | [c] => if isDigit c then some [c] else none
  | c :: '_' :: rest => if isDigit c then (plainDigits? isDigit rest).map (c :: ·) else none
  | c :: rest => if isDigit c then (plainDigits? isDigit rest).map (c :: ·) else none

/-- A whole number, if it fits into 64 bits with a sign. -/
def wholeNumber? (n : Int) : Option Json :=
  if Decimal.isSigned64 n then some (.number (.whole n)) else none

/-- A whole number in another base than ten. -/
def basedNumber? (base : Nat) (s : List Char) : Option Json :=
  let isDigit (c : Char) := (Text.hexValue? c).any (· < base)
  (plainDigits? isDigit s).bind fun ds =>
    (ds.mapM Text.hexValue?).bind fun vs =>
      wholeNumber? (vs.foldl (fun a v => a * base + v) 0 : Nat)

/-- Digits of a number in base ten: no zero comes first unless it is the only one. -/
def decimalDigits? (s : List Char) : Option (List Char) :=
  (plainDigits? Char.isDigit s).filter fun ds => ds.length == 1 || ds.head? != some '0'

/-- The digits of an exponent with its sign. -/
def exponent? (s : List Char) : Option (List Char) :=
  match s with
  | '+' :: rest => plainDigits? Char.isDigit rest
  | '-' :: rest => (plainDigits? Char.isDigit rest).map ('-' :: ·)
  | rest => plainDigits? Char.isDigit rest

/-- Split a text at the first character of some kind. -/
def splitAt? (p : Char → Bool) (s : List Char) : Option (List Char × List Char) :=
  match s.dropWhile (!p ·) with
  | [] => none
  | _ :: behind => some (s.takeWhile (!p ·), behind)

/-- A number in base ten without its sign, as it can be read. -/
def decimalForm? (s : List Char) : Option (List Char × Bool) :=
  let (mantissa, exponent) :=
    match splitAt? (fun c => c == 'e' || c == 'E') s with
    | some (m, e) => (m, some e)
    | none => (s, none)
  let body : Option (List Char × Bool) :=
    match splitAt? (· == '.') mantissa with
    | some (whole, fraction) => do
      let whole ← decimalDigits? whole
      let fraction ← plainDigits? Char.isDigit fraction
      some (whole ++ '.' :: fraction, true)
    | none => (decimalDigits? mantissa).map fun ds => (ds, false)
  match exponent with
  | none => body
  | some e => do
    let (b, _) ← body
    let e ← exponent? e
    some (b ++ 'e' :: e, true)

/-- A number, if the text is one. -/
def number? (s : List Char) : Option Json :=
  match s with
  | '0' :: 'x' :: ds => basedNumber? 16 ds
  | '0' :: 'o' :: ds => basedNumber? 8 ds
  | '0' :: 'b' :: ds => basedNumber? 2 ds
  | _ =>
    let (negative, rest) := Decimal.splitSign s
    if rest == ['i', 'n', 'f'] || rest == ['n', 'a', 'n'] then
      (Decimal.readFloat? s).map fun x => .number (.real x)
    else
      (decimalForm? rest).bind fun (form, isReal) =>
        if isReal then
          ((Decimal.readMagnitude? form).filter fun x => negative || x.isFinite).map fun x =>
            .number (.real (if negative then -x else x))
        else
          (Decimal.readDigits? form).bind fun n => wholeNumber? (if negative then -(n : Int) else n)

/-! ## Dates and times -/

/-- The number that exactly so many digits denote, and the rest. -/
def fixedDigits? (n : Nat) (s : List Char) : Option (Nat × List Char) :=
  let ds := s.take n
  if ds.length = n then (Decimal.readDigits? ds).map fun v => (v, s.drop n) else none

/-- Is there a leap day in the year? -/
def isLeapYear (y : Nat) : Bool :=
  y % 4 == 0 && (y % 100 != 0 || y % 400 == 0)

/-- The number of days of a month. -/
def daysIn (year month : Nat) : Nat :=
  if month == 2 then if isLeapYear year then 29 else 28
  else if [4, 6, 9, 11].contains month then 30
  else 31

/-- Pass over a character that must be there. -/
def expect? (c : Char) : List Char → Option (List Char)
  | d :: rest => if d == c then some rest else none
  | [] => none

/-- Check a date and give the text behind it. -/
def afterDate? (s : List Char) : Option (List Char) := do
  let (year, s) ← fixedDigits? 4 s
  let (month, s) ← fixedDigits? 2 (← expect? '-' s)
  let (day, s) ← fixedDigits? 2 (← expect? '-' s)
  if 1 ≤ month && month ≤ 12 && 1 ≤ day && day ≤ daysIn year month then some s else none

/-- Check a time of day and give it with its decimal places cut to nine, and the text behind it. -/
def timeOfDay? (s : List Char) : Option (List Char × List Char) := do
  let (hour, r) ← fixedDigits? 2 s
  let (minute, r) ← fixedDigits? 2 (← expect? ':' r)
  let (second, r) ← fixedDigits? 2 (← expect? ':' r)
  if hour ≤ 23 && minute ≤ 59 && second ≤ 60 then
    match r with
    | '.' :: r =>
      let ds := r.takeWhile Char.isDigit
      if ds.isEmpty then none
      else
        let kept := Decimal.stripZeros (ds.take 9)
        some (s.take 8 ++ (if kept.isEmpty then [] else '.' :: kept), r.dropWhile Char.isDigit)
    | r => some (s.take 8, r)
  else none

/-- Check the distance from universal time and give its text.  No distance has a plus sign. -/
def offset? (s : List Char) : Option (List Char) :=
  match s with
  | [] => some []
  | ['Z'] | ['z'] => some ['Z']
  | sign :: r =>
    if sign == '+' || sign == '-' then do
      let (hour, r) ← fixedDigits? 2 r
      let (minute, r) ← fixedDigits? 2 (← expect? ':' r)
      if hour ≤ 23 && minute ≤ 59 && r.isEmpty then
        some (if hour = 0 && minute = 0 then '+' :: s.drop 1 else s)
      else none
    else none

/-- A date, a time of day, or both, as a text. -/
def dateTime? (s : List Char) : Option (List Char) :=
  match afterDate? s with
  | some [] => some s
  | some (mark :: rest) =>
    if mark == 'T' || mark == 't' || mark == ' ' then do
      let (time, r) ← timeOfDay? rest
      let o ← offset? r
      some (s.take 10 ++ 'T' :: time ++ o)
    else none
  | none =>
    match timeOfDay? s with
    | some (time, []) => some time
    | _ => none

/-! ## Scalars -/

/-- The characters of a scalar; a blank may stand between a date and a time of day. -/
def scalarChars (s : List Char) : List Char × List Char :=
  let word := s.takeWhile isScalarChar
  let rest := s.dropWhile isScalarChar
  match afterDate? word, rest with
  | some [], ' ' :: c :: more =>
    if c.isDigit then
      (word ++ ' ' :: (c :: more).takeWhile isScalarChar, (c :: more).dropWhile isScalarChar)
    else (word, rest)
  | _, _ => (word, rest)

/-- Read a scalar without quotes. -/
def scalar : Scan Json := fun s =>
  let (word, rest) := scalarChars s
  let value : Option Json :=
    if word == ['t', 'r', 'u', 'e'] then some (.bool true)
    else if word == ['f', 'a', 'l', 's', 'e'] then some (.bool false)
    else number? word <|> (dateTime? word).map fun cs => .text (String.ofList cs)
  value.map fun v => (v, rest)

end Vigil.Toml
