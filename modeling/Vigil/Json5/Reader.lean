import Vigil.Decimal.Reading
import Vigil.Json.Tree
import Vigil.Pattern.Property.Spans
import Vigil.Text.Char
import Vigil.Text.Scan

/-!
# Reading JSON5

JSON with comments, keys without quotes, strings in single quotes, numbers with a sign or in base
sixteen, and a comma behind the last item.
-/

namespace Vigil.Json5

open Text (Scan charOf? hexNumber? fixedHex consTo itemsUpTo)

/-! ## What stands between -/

/-- Does the character end a line? -/
def isLineEnd (c : Char) : Bool :=
  c == '\n' || c == '\r' || c == '\u2028' || c == '\u2029'

/-- Is the character a blank? -/
def isBlank (c : Char) : Bool :=
  c == '\t' || c == '\x0b' || c == '\x0c' || c == '\ufeff' || isLineEnd c ||
    Text.Category.of c == .spaceSeparator

/-- The text behind the end of a comment over several lines. -/
def afterComment? : List Char → Option (List Char)
  | [] => none
  | '*' :: '/' :: rest => some rest
  | _ :: rest => afterComment? rest

/-- The text from the first character that is neither a blank nor in a comment.  The number bounds
the comments. -/
def skip : Nat → List Char → List Char
  | 0, s => s
  | n + 1, s =>
    match s.dropWhile isBlank with
    | '/' :: '/' :: rest => skip n (rest.dropWhile (!isLineEnd ·))
    | '/' :: '*' :: rest =>
      match afterComment? rest with
      | some rest => skip n rest
      | none => '/' :: '*' :: rest
    | rest => rest

/-- The text from the next part. -/
def next (s : List Char) : List Char :=
  skip (s.length + 1) s

/-! ## Strings and keys -/

/-- Read the four digits of a character; one that is the first half of a pair is followed by the
other half. -/
def unicodeEscape (s : List Char) : Option (Char × List Char) := do
  let (n, rest) ← fixedHex 4 s
  if 0xd800 ≤ n && n ≤ 0xdbff then
    match rest with
    | '\\' :: 'u' :: rest =>
      let (m, rest) ← fixedHex 4 rest
      if 0xdc00 ≤ m && m ≤ 0xdfff then
        let c ← charOf? (0x10000 + (n - 0xd800) * 0x400 + (m - 0xdc00))
        some (c, rest)
      else none
    | _ => none
  else
    let c ← charOf? n
    some (c, rest)

/-- Read the part of an escape that follows the backslash.  An escaped end of line stands for
nothing. -/
def escape : Scan (List Char)
  | [] => none
  | 'b' :: rest => some (['\x08'], rest)
  | 'f' :: rest => some (['\x0c'], rest)
  | 'n' :: rest => some (['\n'], rest)
  | 'r' :: rest => some (['\r'], rest)
  | 't' :: rest => some (['\t'], rest)
  | 'v' :: rest => some (['\x0b'], rest)
  | '0' :: rest => some (['\x00'], rest)
  | 'x' :: rest => do
    let (n, rest) ← fixedHex 2 rest
    some ([← charOf? n], rest)
  | 'u' :: rest => (unicodeEscape rest).map fun (c, rest) => ([c], rest)
  | '\r' :: '\n' :: rest => some ([], rest)
  | c :: rest => if isLineEnd c then some ([], rest) else if c.isDigit then none else some ([c], rest)

/-- Read the rest of a string up to its quote.  The number bounds the steps. -/
def stringRest (quote : Char) : Nat → Scan (List Char)
  | 0, _ => none
  | _ + 1, [] => none
  | n + 1, c :: rest =>
    if c == quote then some ([], rest)
    else if c == '\\' then do
      let (cs, rest) ← escape rest
      let (ds, rest) ← stringRest quote n rest
      some (cs ++ ds, rest)
    else if isLineEnd c then none
    else consTo c (stringRest quote n rest)

/-- May a key begin with the character? -/
def isKeyStart (c : Char) : Bool :=
  let k := Text.Category.of c
  c == '$' || c == '_' || k.isLetter || k == .letterNumber

/-- May the character stand in a key behind the first? -/
def isKeyPart (c : Char) : Bool :=
  let k := Text.Category.of c
  isKeyStart c || k == .nonspacingMark || k == .decimalNumber || k == .connectorPunctuation ||
    c == '\u200c' || c == '\u200d' || Text.inSpans Pattern.PropertySpans.diacritic c.toNat

/-- Read the rest of a key without quotes.  The number bounds the characters. -/
def keyRest (allowed : Char → Bool) : Nat → Scan (List Char)
  | 0, s => some ([], s)
  | n + 1, s =>
    match s with
    | '\\' :: 'u' :: rest => do
      let (c, rest) ← unicodeEscape rest
      consTo c (keyRest isKeyPart n rest)
    | c :: rest => if allowed c then consTo c (keyRest isKeyPart n rest) else some ([], s)
    | [] => some ([], [])

/-- Read a string at its quote. -/
def string : Scan String
  | c :: rest =>
    if c == '"' || c == '\x27' then
      (stringRest c (rest.length + 1) rest).map fun (cs, rest) => (String.ofList cs, rest)
    else none
  | [] => none

/-- Read a key. -/
def key : Scan String := fun s =>
  match string s with
  | some r => some r
  | none =>
    (keyRest isKeyStart s.length s).bind fun (cs, rest) =>
      if cs.isEmpty then none else some (String.ofList cs, rest)

/-! ## Numbers -/

/-- Read an exponent, if there is one. -/
def exponent : List Char → List Char × List Char
  | c :: rest =>
    let (sign, ds) :=
      match rest with
      | '+' :: ds => (['+'], ds)
      | '-' :: ds => (['-'], ds)
      | ds => ([], ds)
    let digits := ds.takeWhile Char.isDigit
    if (c == 'e' || c == 'E') && !digits.isEmpty then
      (c :: sign ++ digits, ds.drop digits.length)
    else ([], c :: rest)
  | [] => ([], [])

/-- The leading digits of a whole number; a zero stands alone. -/
def wholeDigits : List Char → List Char
  | '0' :: _ => ['0']
  | s => s.takeWhile Char.isDigit

/-- Read the numeral that stands behind a sign. -/
def unsignedNumeral (s : List Char) : Option (List Char × List Char) :=
  let whole := wholeDigits s
  match s.drop whole.length with
  | '.' :: rest =>
    let fraction := rest.takeWhile Char.isDigit
    if whole.isEmpty && fraction.isEmpty then none
    else
      let (e, rest) := exponent (rest.drop fraction.length)
      some (whole ++ '.' :: fraction ++ e, rest)
  | rest =>
    if whole.isEmpty then none
    else
      let (e, rest) := exponent rest
      some (whole ++ e, rest)

/-- The number that a decimal numeral denotes: a whole number of 64 bits if it is written as one,
else a finite double. -/
def decimal? (s : List Char) : Option Json.Number :=
  if s.any fun c => c == '.' || c == 'e' || c == 'E' then
    (Decimal.readFloat? s).bind fun x => if x.isFinite then some (.real x) else none
  else (Decimal.readInt? s).bind fun n => if Decimal.isSigned64 n then some (.whole n) else none

/-- Read a word. -/
def word (w : List Char) (s : List Char) : Option (List Char) :=
  if w.isPrefixOf s then some (s.drop w.length) else none

/-- Read a number in base sixteen, without sign and of 32 bits. -/
def hexNumber (s : List Char) : Option (Json.Number × List Char) :=
  let ds := s.takeWhile fun c => (Text.hexValue? c).isSome
  (hexNumber? ds).bind fun n =>
    if n < UInt32.size then some (.whole n, s.drop ds.length) else none

/-- Does a number in base sixteen begin here? -/
def isHex : List Char → Bool
  | '0' :: x :: d :: _ => (x == 'x' || x == 'X') && (Text.hexValue? d).isSome
  | _ => false

/-- Read a number. -/
def number (s : List Char) : Option (Json.Number × List Char) :=
  let (sign, rest) :=
    match s with
    | '-' :: rest => (['-'], rest)
    | '+' :: rest => (['+'], rest)
    | rest => ([], rest)
  if isHex rest then if sign.isEmpty then hexNumber (rest.drop 2) else none
  else
    match word "Infinity".toList rest, word "NaN".toList rest with
    | some rest, _ =>
      if sign == ['+'] then none
      else some (.real (if sign.isEmpty then 1.0 / 0.0 else -(1.0 / 0.0)), rest)
    | _, some rest => if sign == ['+'] then none else some (.real (0.0 / 0.0), rest)
    | none, none =>
      (unsignedNumeral rest).bind fun (ds, rest) => (decimal? (sign ++ ds)).map fun x => (x, rest)

/-! ## Values -/

/-- Read a key, a colon and a value. -/
def member (value : Scan Json) : Scan (String × Json) := fun s => do
  let (k, rest) ← key s
  match next rest with
  | ':' :: rest =>
    let (v, rest) ← value (next rest)
    some ((k, v), rest)
  | _ => none

/-- Read a value that holds no others. -/
def scalar (s : List Char) : Option (Json × List Char) :=
  match word "null".toList s, word "true".toList s, word "false".toList s with
  | some rest, _, _ => some (.null, rest)
  | _, some rest, _ => some (.bool true, rest)
  | _, _, some rest => some (.bool false, rest)
  | none, none, none =>
    match string s with
    | some (t, rest) => some (.text t, rest)
    | none => (number s).map fun (n, rest) => (.number n, rest)

/-- Read a value.  The number bounds how many are inside each other. -/
def value : Nat → Scan Json
  | 0, _ => none
  | n + 1, s =>
    match s with
    | '[' :: rest =>
      (itemsUpTo (some ∘ next) (value n) ']' (rest.length + 1) rest).map
        fun (vs, rest) => (.list vs, rest)
    | '\x7b' :: rest =>
      (itemsUpTo (some ∘ next) (member (value n)) '\x7d' (rest.length + 1) rest).map
        fun (ms, rest) => (.object ms, rest)
    | s => scalar s

/-- Read a document as the members of an object. -/
def parse? (text : String) : Option (List (String × Json)) :=
  let s := next text.toList
  match value (s.length + 1) s with
  | some (v, rest) =>
    match v.tidy, next rest with
    | .object members, [] => some members
    | _, _ => none
  | none => none

end Vigil.Json5
