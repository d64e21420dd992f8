import Vigil.Decimal.Reading
import Vigil.Json.Tree
import Vigil.Text.Scan

/-!
# Object notation with names: what stands between, names, texts and numbers

Comments may be nested.  A text may be raw, with any number of hash signs around it, and a number
may be written in other bases and with underscores between its digits.
-/

namespace Vigil.Ron

open Text (Scan charOf? hexNumber? fixedHex consTo)

/-! ## What stands between -/

/-- Is the character a blank? -/
def isBlank (c : Char) : Bool :=
  c == ' ' || c == '\t' || c == '\n' || c == '\r'

/-- The text behind the end of a comment over several lines, inside which there may be others. -/
def afterComment? : Nat → List Char → Option (List Char)
  | _, [] => none
  | depth, '/' :: '*' :: rest => afterComment? (depth + 1) rest
  | 0, '*' :: '/' :: rest => some rest
  | depth + 1, '*' :: '/' :: rest => afterComment? depth rest
  | depth, _ :: rest => afterComment? depth rest

/-- The text from the first character that is neither a blank nor in a comment.  The number bounds
the comments. -/
def skip : Nat → List Char → Option (List Char)
  | 0, _ => none
  | n + 1, s =>
    match s.dropWhile isBlank with
    | '/' :: '/' :: rest => skip n (rest.dropWhile (· != '\n'))
    | '/' :: '*' :: rest => (afterComment? 0 rest).bind (skip n)
    | '/' :: _ => none
    | rest => some rest

/-- The text from the next part; a slash that begins no comment is refused. -/
def next (s : List Char) : Option (List Char) :=
  skip (s.length + 1) s

/-! ## Names -/

/-- May a name begin with the character? -/
def isNameStart (c : Char) : Bool :=
  c.isAlpha || c == '_'

/-- May the character stand in a name? -/
def isNamePart (c : Char) : Bool :=
  c.isAlphanum || c == '_'

/-- May the character stand in a name that is marked as raw? -/
def isRawNamePart (c : Char) : Bool :=
  isNamePart c || c == '.' || c == '+' || c == '-'

/-- Read a name.  A raw text is none. -/
def name (s : List Char) : Option (String × List Char) :=
  match s with
  | ['r'] => none
  | 'r' :: '"' :: _ => none
  | 'r' :: '#' :: rest =>
    let cs := rest.takeWhile isRawNamePart
    if cs.isEmpty then none else some (String.ofList cs, rest.drop cs.length)
  | c :: rest =>
    if isNameStart c then
      some (String.ofList (c :: rest.takeWhile isNamePart), rest.dropWhile isNamePart)
    else none
  | [] => none

/-- The text behind a word that does not go on. -/
def word? (w : String) (s : List Char) : Option (List Char) :=
  let rest := s.drop w.length
  if w.toList.isPrefixOf s && !rest.head?.any isNamePart then some rest else none

/-! ## Texts -/

/-- Read the number of a character in braces, of up to six digits. -/
def bracedNumber : Scan Char
  | '\x7b' :: rest =>
    let ds := (rest.take 6).takeWhile (· != '\x7d')
    match rest.drop ds.length with
    | '\x7d' :: rest => ((hexNumber? ds).bind charOf?).map fun c => (c, rest)
    | _ => none
  | _ => none

/-- Read the part of an escape that follows the backslash. -/
def escape : Scan Char
  | '\x27' :: rest => some ('\x27', rest)
  | '"' :: rest => some ('"', rest)
  | '\\' :: rest => some ('\\', rest)
  | 'n' :: rest => some ('\n', rest)
  | 'r' :: rest => some ('\r', rest)
  | 't' :: rest => some ('\t', rest)
  | '0' :: rest => some ('\x00', rest)
  | 'x' :: rest => (fixedHex 2 rest).bind fun (n, rest) => (charOf? n).map fun c => (c, rest)
  | 'u' :: rest => bracedNumber rest
  | _ => none

/-- Read the rest of a text up to its quote.  The number bounds the steps. -/
def stringRest : Nat → Scan (List Char)
  | 0, _ => none
  | n + 1, s =>
    match s with
    | [] => none
    | '"' :: rest => some ([], rest)
    | '\\' :: rest => (escape rest).bind fun (c, rest) => consTo c (stringRest n rest)
    | c :: rest => consTo c (stringRest n rest)

/-- Read up to a closing mark, and pass over it. -/
def upTo (mark : List Char) : Scan (List Char)
  | [] => none
  | c :: rest =>
    if mark.isPrefixOf (c :: rest) then some ([], (c :: rest).drop mark.length)
    else consTo c (upTo mark rest)

/-- Read a raw text behind its letter. -/
def rawString (s : List Char) : Option (List Char × List Char) :=
  let hashes := s.takeWhile (· == '#')
  match s.drop hashes.length with
  | '"' :: rest => upTo ('"' :: hashes) rest
  | _ => none

/-- Read a single character behind its quote. -/
def character : Scan Char := fun s =>
  let read : Option (Char × List Char) :=
    match s with
    | '\\' :: rest => escape rest
    | '\x27' :: _ => none
    | c :: rest => some (c, rest)
    | [] => none
  match read with
  | some (c, '\x27' :: rest) => some (c, rest)
  | _ => none

/-- Read a text or a single character. -/
def text : Scan String
  | '"' :: rest => (stringRest (rest.length + 1) rest).map fun (cs, r) => (String.ofList cs, r)
  | 'r' :: rest => (rawString rest).map fun (cs, r) => (String.ofList cs, r)
  | '\x27' :: rest => (character rest).map fun (c, r) => (String.ofList [c], r)
  | _ => none

/-! ## Numbers -/

/-- May the character stand in a numeral with a point or an exponent? -/
def isRealChar (c : Char) : Bool :=
  c.isDigit || c == 'e' || c == 'E' || c == '.' || c == '+' || c == '-' || c == '_'

/-- May the character stand in the numeral of a whole number? -/
def isWholeChar (c : Char) : Bool :=
  (Text.hexValue? c).isSome || c == '_'

/-- The base of a numeral, and the numeral without its mark. -/
def base : List Char → Nat × List Char
  | '0' :: 'x' :: rest => (16, rest)
  | '0' :: 'b' :: rest => (2, rest)
  | '0' :: 'o' :: rest => (8, rest)
  | s => (10, s)

/-- Read a whole number without sign. -/
def natural (s : List Char) : Option (Nat × List Char) := do
  let (b, s) := base s
  let cs := s.takeWhile isWholeChar
  if cs.isEmpty || cs.head? == some '_' then none
  else
    let vs ← (cs.filter (· != '_')).mapM fun c => (Text.hexValue? c).filter (· < b)
    some (vs.foldl (fun n v => n * b + v) 0, s.drop cs.length)

/-- Read a whole number of 64 bits, with a sign or without. -/
def whole (s : List Char) : Option (Int × List Char) := do
  match s with
  | '-' :: rest =>
    let (n, rest) ← natural rest
    if n ≤ Int64.maxValue.toInt.toNat + 1 then some (-(n : Int), rest) else none
  | '+' :: rest =>
    let (n, rest) ← natural rest
    if n ≤ Int64.maxValue.toInt.toNat then some ((n : Int), rest) else none
  | _ =>
    let (n, rest) ← natural s
    if n < UInt64.size then some ((n : Int), rest) else none

/-- The numbers that are words. -/
def numberWords : List (String × Float) :=
  [("inf", 1.0 / 0.0), ("+inf", 1.0 / 0.0), ("-inf", -(1.0 / 0.0)), ("NaN", 0.0 / 0.0),
    ("+NaN", 0.0 / 0.0), ("-NaN", 0.0 / 0.0)]

/-- Read a double that is written as a word. -/
def realWord (s : List Char) : Option (Float × List Char) :=
  numberWords.findSome? fun (w, x) => (word? w s).map fun rest => (x, rest)

/-- Read a double. -/
def real (s : List Char) : Option (Float × List Char) :=
  match realWord s with
  | some r => some r
  | none =>
    let cs := s.takeWhile isRealChar
    if cs.contains '_' then none
    else (Decimal.readFloat? cs).map fun x => (x, s.drop cs.length)

/-- Does a numeral have a point or an exponent with a sign? -/
def looksReal (s : List Char) : Bool :=
  let s :=
    match s with
    | '+' :: rest => rest
    | '-' :: rest => rest
    | rest => rest
  (s.takeWhile isWholeChar).length < (s.takeWhile isRealChar).length

/-- Read a number.  What is no whole number of 64 bits is a double. -/
def number (s : List Char) : Option (Json.Number × List Char) :=
  let asReal := (real s).map fun (x, rest) => (Json.Number.real x, rest)
  if looksReal s then asReal
  else
    match whole s with
    | some (n, rest) =>
      if Decimal.isSigned64 n then some (.whole n, rest) else some (.real (Float.ofInt n), rest)
    | none => asReal

end Vigil.Ron
