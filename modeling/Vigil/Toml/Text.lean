import Vigil.Text.Scan

/-!
# TOML: texts and keys

The four kinds of strings and the keys of a TOML document.
-/

namespace Vigil.Toml

open Text (Scan charOf? fixedHex consTo)

/-- A blank within a line. -/
def isBlank (c : Char) : Bool :=
  c == ' ' || c == '\t'

/-- The text from the first character that is no blank. -/
def skipBlanks (s : List Char) : List Char :=
  s.dropWhile isBlank

/-- May a character stand in a string or a comment as it is? -/
def isPlain (c : Char) : Bool :=
  c == '\t' || (32 ≤ c.toNat && c.toNat != 127)

/-- The text behind a line break. -/
def lineBreak? : List Char → Option (List Char)
  | '\n' :: rest => some rest
  | '\r' :: '\n' :: rest => some rest
  | _ => none

/-- The text behind a comment, up to the end of its line, if there is one. -/
def skipComment : List Char → Option (List Char)
  | '#' :: rest =>
    let behind := rest.dropWhile isPlain
    if behind.isEmpty || (lineBreak? behind).isSome then some behind else none
  | s => some s

/-- Read the part of an escape that follows the backslash. -/
def escape : Scan Char
  | 'b' :: rest => some ('\x08', rest)
  | 't' :: rest => some ('\t', rest)
  | 'n' :: rest => some ('\n', rest)
  | 'f' :: rest => some ('\x0c', rest)
  | 'r' :: rest => some ('\r', rest)
  | '"' :: rest => some ('"', rest)
  | '\\' :: rest => some ('\\', rest)
  | 'u' :: rest => (fixedHex 4 rest).bind fun (n, rest) => (charOf? n).map fun c => (c, rest)
  | 'U' :: rest => (fixedHex 8 rest).bind fun (n, rest) => (charOf? n).map fun c => (c, rest)
  | _ => none

/-- The text behind a backslash at the end of a line: all blanks and line breaks are passed over. -/
def foldLines : Nat → List Char → List Char
  | 0, s => s
  | n + 1, s =>
    match lineBreak? (skipBlanks s) with
    | some rest => foldLines n rest
    | none => skipBlanks s

/-- Read the rest of a string in double quotes.  The number bounds the steps. -/
def basicRest : Nat → Scan (List Char)
  | 0, _ => none
  | n + 1, s =>
    match s with
    | [] => none
    | '"' :: rest => some ([], rest)
    | '\\' :: rest => (escape rest).bind fun (c, rest) => consTo c (basicRest n rest)
    | c :: rest => if isPlain c then consTo c (basicRest n rest) else none

/-- Read the rest of a string in single quotes. -/
def literalRest : Scan (List Char)
  | [] => none
  | '\x27' :: rest => some ([], rest)
  | c :: rest => if isPlain c then consTo c (literalRest rest) else none

/-- The end of a string in triple quotes: up to two quotes before it belong to the string. -/
def tripleEnd? (quote : Char) (s : List Char) : Option (List Char × List Char) :=
  let count := (s.takeWhile (· == quote)).length
  if 3 ≤ count then
    let inside := min (count - 3) 2
    some (List.replicate inside quote, s.drop (inside + 3))
  else none

/-- Read the rest of a string in triple double quotes.  The number bounds the steps. -/
def multilineBasicRest : Nat → Scan (List Char)
  | 0, _ => none
  | n + 1, s =>
    match tripleEnd? '"' s with
    | some r => some r
    | none =>
      match lineBreak? s with
      | some rest => consTo '\n' (multilineBasicRest n rest)
      | none =>
        match s with
        | [] => none
        | '\\' :: rest =>
          if (lineBreak? (skipBlanks rest)).isSome then
            multilineBasicRest n (foldLines rest.length rest)
          else (escape rest).bind fun (c, rest) => consTo c (multilineBasicRest n rest)
        | c :: rest => if isPlain c then consTo c (multilineBasicRest n rest) else none

/-- Read the rest of a string in triple single quotes.  The number bounds the steps. -/
def multilineLiteralRest : Nat → Scan (List Char)
  | 0, _ => none
  | n + 1, s =>
    match tripleEnd? '\x27' s with
    | some r => some r
    | none =>
      match lineBreak? s with
      | some rest => consTo '\n' (multilineLiteralRest n rest)
      | none =>
        match s with
        | [] => none
        | c :: rest => if isPlain c then consTo c (multilineLiteralRest n rest) else none

/-- The text behind a line break, if it begins with one. -/
def afterLineBreak (s : List Char) : List Char :=
  (lineBreak? s).getD s

/-- Read a string of any kind. -/
def string? (s : List Char) : Option (String × List Char) :=
  let read : Option (List Char × List Char) :=
    match s with
    | '"' :: '"' :: '"' :: rest => multilineBasicRest (rest.length + 1) (afterLineBreak rest)
    | '"' :: rest => basicRest (rest.length + 1) rest
    | '\x27' :: '\x27' :: '\x27' :: rest =>
      multilineLiteralRest (rest.length + 1) (afterLineBreak rest)
    | '\x27' :: rest => literalRest rest
    | _ => none
  read.map fun (cs, rest) => (String.ofList cs, rest)

/-! ## Keys -/

/-- May a character stand in a key without quotes? -/
def isKeyChar (c : Char) : Bool :=
  c.isAlphanum || c == '_' || c == '-'

/-- Read one part of a key. -/
def keyPart : Scan String
  | '"' :: rest => (basicRest (rest.length + 1) rest).map fun (cs, r) => (String.ofList cs, r)
  | '\x27' :: rest => (literalRest rest).map fun (cs, r) => (String.ofList cs, r)
  | s =>
    let cs := s.takeWhile isKeyChar
    if cs.isEmpty then none else some (String.ofList cs, s.dropWhile isKeyChar)

/-- Read the parts of a key with points between them.  The number bounds the parts. -/
def keyParts : Nat → Scan (List String)
  | 0, _ => none
  | n + 1, s =>
    match keyPart s with
    | none => none
    | some (part, rest) =>
      match skipBlanks rest with
      | '.' :: rest => (keyParts n (skipBlanks rest)).map fun (parts, rest) => (part :: parts, rest)
      | rest => some ([part], rest)

/-- Tables, lists and the parts of a key may be inside each other less often than this. -/
def depthLimit : Nat := 80

/-- Read a key. -/
def key : Scan (List String) := keyParts (depthLimit - 1)

end Vigil.Toml
