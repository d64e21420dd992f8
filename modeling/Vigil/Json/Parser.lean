import Vigil.Json.Numeral
import Vigil.Text.Scan

/-!
# Reading JSON

`parseTree` reads one JSON value from a text.  A failure says what was wrong and where: how many
characters of the text were left when it was noticed, and how many bytes beyond that the mark
stands.  Containers may be nested up to a limit, which is the structural argument of the reader.
-/

namespace Vigil.Json

open Text (hexValue?)

/-! ## Failures -/

/-- What can be wrong with a JSON text. -/
inductive Reason where
  | endOfValue | endOfList | endOfObject | endOfString
  | expectedValue | expectedWord | expectedColon
  | expectedListCommaOrEnd | expectedObjectCommaOrEnd
  | trailingComma | trailingCharacters | keyMustBeText
  | invalidNumber | numberOutOfRange
  | invalidEscape | loneSurrogate | endOfHexEscape | controlCharacter
  | tooDeep
deriving DecidableEq, Repr

/-- The wording of a reason. -/
def Reason.message : Reason → String
  | endOfValue => "EOF while parsing a value"
  | endOfList => "EOF while parsing a list"
  | endOfObject => "EOF while parsing an object"
  | endOfString => "EOF while parsing a string"
  | expectedValue => "expected value"
  | expectedWord => "expected ident"
  | expectedColon => "expected `:`"
  | expectedListCommaOrEnd => "expected `,` or `]`"
  | expectedObjectCommaOrEnd => "expected `,` or `\x7d`"
  | trailingComma => "trailing comma"
  | trailingCharacters => "trailing characters"
  | keyMustBeText => "key must be a string"
  | invalidNumber => "invalid number"
  | numberOutOfRange => "number out of range"
  | invalidEscape => "invalid escape"
  | loneSurrogate => "lone leading surrogate in hex escape"
  | endOfHexEscape => "unexpected end of hex escape"
  | controlCharacter => "control character (\\u0000-\\u001F) found while parsing a string"
  | tooDeep => "recursion limit exceeded"

/-- A reason, the number of characters that were left when it was noticed, and the number of
bytes beyond that at which it is reported. -/
structure Failure where
  reason : Reason
  left : Nat
  ahead : Nat
deriving DecidableEq, Repr

/-- Line and column of a failure in its text; columns count bytes. -/
def Failure.position (f : Failure) (text : List Char) : Nat × Nat :=
  let bytes (s : List Char) : List UInt8 := s.flatMap fun c => String.utf8EncodeChar c
  let passed := text.take (text.length - f.left)
  let seen := bytes passed ++ (bytes ((text.drop passed.length).take f.ahead)).take f.ahead
  let line := seen.count 10 + 1
  (line, (seen.reverse.takeWhile (· != 10)).length)

/-- The full wording of a failure. -/
def Failure.message (f : Failure) (text : List Char) : String :=
  let (line, column) := f.position text
  s!"{f.reason.message} at line {line} column {column}"

/-- A reader of a leading part of a text; it returns what is left. -/
abbrev Scan (α : Type) := List Char → Except Failure (α × List Char)

/-- Fail at the characters `s`. -/
def failHere {α : Type} (reason : Reason) (s : List Char) : Except Failure α :=
  .error ⟨reason, s.length, 0⟩

/-- Fail one byte into the characters `s`. -/
def failNext {α : Type} (reason : Reason) (s : List Char) : Except Failure α :=
  .error ⟨reason, s.length, 1⟩

/-! ## Blanks, words and numerals -/

/-- The four characters that may stand between the parts of a JSON text. -/
def isSpace (c : Char) : Bool :=
  c == ' ' || c == '\n' || c == '\t' || c == '\r'

/-- The text from the first character that is no space. -/
def skipSpaces (s : List Char) : List Char :=
  s.dropWhile isSpace

/-- Read the characters of a word. -/
def word : List Char → List Char → Except Failure (List Char)
  | [], s => .ok s
  | _ :: _, [] => failHere .endOfValue []
  | w :: ws, c :: s => if c == w then word ws s else failNext .expectedWord (c :: s)

/-- The leading digits of a text, and the rest. -/
def takeDigits (s : List Char) : List Char × List Char :=
  (s.takeWhile Char.isDigit, s.dropWhile Char.isDigit)

/-- Read an exponent, if one is written. -/
def exponentPart (s : List Char) : Except Failure (Option (Bool × List Char) × List Char) :=
  match s with
  | c :: r =>
    if c == 'e' || c == 'E' then
      let (down, r) :=
        match r with
        | '+' :: r => (false, r)
        | '-' :: r => (true, r)
        | r => (false, r)
      match takeDigits r with
      | ([], []) => failHere .endOfValue []
      | ([], rest) => failNext .invalidNumber rest
      | (ds, rest) => .ok (some (down, ds), rest)
    else .ok (none, s)
  | [] => .ok (none, [])

/-- Read the digits behind a point, if one is written. -/
def fractionPart (s : List Char) : Except Failure (List Char × List Char) :=
  match s with
  | '.' :: r =>
    match takeDigits r with
    | ([], []) => failNext .endOfValue []
    | ([], rest) => failNext .invalidNumber rest
    | (ds, rest) => .ok (ds, rest)
  | _ => .ok ([], s)

/-- Read a numeral whose sign has been read. -/
def numeral (negative : Bool) (s : List Char) : Except Failure (Numeral × List Char) :=
  match takeDigits s with
  | ([], []) => failHere .endOfValue []
  | ([], rest) => failNext .invalidNumber rest
  | (ds, rest) => do
    let ok := ds.length == 1 || ds.head? != some '0'
    if ok then
      let (fraction, rest) ← fractionPart rest
      let (exponent, rest) ← exponentPart rest
      .ok (⟨negative, ds, fraction, exponent⟩, rest)
    else failNext .invalidNumber (ds.drop 1 ++ rest)

/-! ## Strings -/

/-- Read four digits in base sixteen. -/
def fourHex (s : List Char) : Except Failure (Nat × List Char) :=
  match s with
  | a :: b :: c :: d :: rest =>
    match hexValue? a, hexValue? b, hexValue? c, hexValue? d with
    | some a, some b, some c, some d => .ok (((a * 16 + b) * 16 + c) * 16 + d, rest)
    | _, _, _, _ => .error ⟨.invalidEscape, s.length, 4⟩
  | _ =>
    if 4 ≤ (String.ofList s).utf8ByteSize then .error ⟨.invalidEscape, s.length, 4⟩
    else failHere .endOfString []

/-- Read the part of an escape that follows a backslash and the letter `u`. -/
def unicodeEscape (s : List Char) : Except Failure (Char × List Char) := do
  let (n, rest) ← fourHex s
  if 0xdc00 ≤ n && n ≤ 0xdfff then failHere .loneSurrogate rest
  else if n < 0xd800 || 0xdbff < n then .ok (Char.ofNat n, rest)
  else
    match rest with
    | [] => failHere .endOfString []
    | '\\' :: [] => failHere .endOfString []
    | '\\' :: 'u' :: rest =>
      let (m, rest) ← fourHex rest
      if m < 0xdc00 || 0xdfff < m then failHere .loneSurrogate rest
      else .ok (Char.ofNat (0x10000 + (n - 0xd800) * 0x400 + (m - 0xdc00)), rest)
    | '\\' :: rest => failNext .endOfHexEscape rest
    | rest => failNext .endOfHexEscape rest

/-- Read the part of an escape that follows the backslash. -/
def escape (s : List Char) : Except Failure (Char × List Char) :=
  match s with
  | [] => failHere .endOfString []
  | '"' :: rest => .ok ('"', rest)
  | '\\' :: rest => .ok ('\\', rest)
  | '/' :: rest => .ok ('/', rest)
  | 'b' :: rest => .ok ('\x08', rest)
  | 'f' :: rest => .ok ('\x0c', rest)
  | 'n' :: rest => .ok ('\n', rest)
  | 'r' :: rest => .ok ('\r', rest)
  | 't' :: rest => .ok ('\t', rest)
  | 'u' :: rest => unicodeEscape rest
  | s => failNext .invalidEscape s

/-- Read the part of an escape that follows the backslash, where half of a surrogate pair may stand
alone and is replaced. -/
def looseEscape (s : List Char) : Except Failure (Char × List Char) :=
  match s with
  | 'u' :: rest => do
    let (n, rest) ← fourHex rest
    .ok (if 0xd800 ≤ n && n ≤ 0xdfff then '\ufffd' else Char.ofNat n, rest)
  | s => escape s

/-- Read the characters of a string up to its closing quote.  The number bounds the steps. -/
def stringBody (escape : Scan Char) : Nat → List Char → Except Failure (List Char × List Char)
  | 0, s => failHere .endOfString s
  | _ + 1, [] => failHere .endOfString []
  | _ + 1, '"' :: rest => .ok ([], rest)
  | n + 1, '\\' :: rest => do
    let (c, rest) ← escape rest
    let (cs, rest) ← stringBody escape n rest
    .ok (c :: cs, rest)
  | n + 1, c :: rest =>
    if c.toNat < 32 then failNext .controlCharacter (c :: rest)
    else do
      let (cs, rest) ← stringBody escape n rest
      .ok (c :: cs, rest)

/-- Read a string whose opening quote has been read. -/
def stringRest (escape : Scan Char) (s : List Char) : Except Failure (String × List Char) := do
  let (cs, rest) ← stringBody escape (s.length + 1) s
  .ok (String.ofList cs, rest)

/-! ## Containers -/

/-- Read the items of a list up to its bracket; `first` if none has been read yet.  The number
bounds the items. -/
def listItems {α : Type} (item : Scan α) : Nat → Bool → Scan (List α)
  | 0, _, s => failHere .endOfList s
  | n + 1, first, s =>
    match skipSpaces s with
    | [] => failNext .endOfList []
    | c :: rest =>
      if c == ']' then .ok ([], rest)
      else if first then do
        let (x, rest) ← item (c :: rest)
        let (xs, rest) ← listItems item n false rest
        .ok (x :: xs, rest)
      else if c == ',' then
        match skipSpaces rest with
        | [] => failNext .endOfValue []
        | c :: rest =>
          if c == ']' then failNext .trailingComma (c :: rest)
          else do
            let (x, rest) ← item (c :: rest)
            let (xs, rest) ← listItems item n false rest
            .ok (x :: xs, rest)
      else failNext .expectedListCommaOrEnd (c :: rest)

/-- Read a key whose opening quote has been read, the colon and the value. -/
def member {α : Type} (escape : Scan Char) (item : String → Scan α) (s : List Char) :
    Except Failure ((String × α) × List Char) := do
  let (key, rest) ← stringRest escape s
  match skipSpaces rest with
  | [] => failNext .endOfObject []
  | c :: rest =>
    if c == ':' then
      let (x, rest) ← item key rest
      .ok ((key, x), rest)
    else failNext .expectedColon (c :: rest)

/-- Read the members of an object up to its brace; `first` if none has been read yet.  The number
bounds the members. -/
def objectMembers {α : Type} (escape : Scan Char) (item : String → Scan α) :
    Nat → Bool → Scan (List (String × α))
  | 0, _, s => failHere .endOfObject s
  | n + 1, first, s =>
    match skipSpaces s with
    | [] => failNext .endOfObject []
    | c :: rest =>
      if c == '\x7d' then .ok ([], rest)
      else if first then
        if c == '"' then do
          let (m, rest) ← member escape item rest
          let (ms, rest) ← objectMembers escape item n false rest
          .ok (m :: ms, rest)
        else failNext .keyMustBeText (c :: rest)
      else if c == ',' then
        match skipSpaces rest with
        | [] => failNext .endOfValue []
        | c :: rest =>
          if c == '"' then do
            let (m, rest) ← member escape item rest
            let (ms, rest) ← objectMembers escape item n false rest
            .ok (m :: ms, rest)
          else if c == '\x7d' then failNext .trailingComma (c :: rest)
          else failNext .keyMustBeText (c :: rest)
      else failNext .expectedObjectCommaOrEnd (c :: rest)

/-! ## Values -/

/-- Which number a numeral denotes; a numeral out of range gives the number of its characters that
are still unread when that is noticed. -/
abbrev Valuation (ν : Type) := Numeral → Except Nat ν

/-- How the leaves of a text are read. -/
structure Reading (ν : Type) where
  number : Valuation ν
  escape : Scan Char := Json.escape

/-- Read numerals as the numbers they denote. -/
def Reading.exact : Reading Number := ⟨Numeral.value, Json.escape⟩

/-- Read for the structure only: every numeral is kept as it is written. -/
def Reading.structural : Reading Numeral := ⟨.ok, looseEscape⟩

/-- Read a number whose sign has been read. -/
def signedNumber {ν : Type} (read : Reading ν) (negative : Bool) (s : List Char) :
    Except Failure (Tree ν × List Char) := do
  let (n, rest) ← numeral negative s
  match read.number n with
  | .ok x => .ok (.number x, rest)
  | .error unread => .error ⟨.numberOutOfRange, rest.length + unread, 0⟩

/-- Read a value that is not a container; `nested` reads the others. -/
def scalarOr {ν : Type} (read : Reading ν) (nested : Scan (Tree ν)) (s : List Char) :
    Except Failure (Tree ν × List Char) :=
  match skipSpaces s with
  | [] => failNext .endOfValue []
  | c :: rest =>
    if c == 'n' then (word ['u', 'l', 'l'] rest).map fun r => (.null, r)
    else if c == 't' then (word ['r', 'u', 'e'] rest).map fun r => (.bool true, r)
    else if c == 'f' then (word ['a', 'l', 's', 'e'] rest).map fun r => (.bool false, r)
    else if c == '-' then signedNumber read true rest
    else if c.isDigit then signedNumber read false (c :: rest)
    else if c == '"' then (stringRest read.escape rest).map fun (s, r) => (.text s, r)
    else if c == '[' || c == '\x7b' then nested (c :: rest)
    else failNext .expectedValue (c :: rest)

/-- Read a value with at most the given number of containers inside each other. -/
def value {ν : Type} (read : Reading ν) : Nat → Scan (Tree ν)
  | 0 => scalarOr read (failNext .tooDeep)
  | n + 1 => scalarOr read fun s =>
    match s with
    | '[' :: rest =>
      (listItems (value read n) (rest.length + 1) true rest).map fun (xs, r) => (.list xs, r)
    | _ :: rest =>
      (objectMembers read.escape (fun _ => value read n) (rest.length + 1) true rest).map
        fun (ms, r) => (.object ms, r)
    | [] => failNext .endOfValue []

/-- Nothing but spaces may be left. -/
def finish (s : List Char) : Except Failure Unit :=
  match skipSpaces s with
  | [] => .ok ()
  | rest => failNext .trailingCharacters rest

/-- How many containers may be inside each other. -/
def depthLimit : Nat := 127

/-- Read a whole text as one value, members of objects in the order of the text. -/
def parseTree {ν : Type} (read : Reading ν) (s : List Char) : Except Failure (Tree ν) := do
  let (t, rest) ← value read depthLimit s
  finish rest
  .ok t

/-- Read a text as a JSON value. -/
def parse (s : String) : Except Failure Json :=
  (parseTree Reading.exact s.toList).map Tree.tidy

end Vigil.Json
