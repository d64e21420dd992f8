/-!
# YAML: places in a text

Which characters count as blanks, line breaks and brackets, and a cursor that knows the line and the
column where it stands.
-/

namespace Vigil.Yaml

/-! ## Characters -/

/-- Blanks within a line. -/
def isBlank (c : Char) : Bool := c == ' ' || c == '\t'

/-- Line breaks. -/
def isBreak (c : Char) : Bool := c == '\n' || c == '\r'

/-- The brackets and the comma of flow collections. -/
def isFlow (c : Char) : Bool :=
  c == ',' || c == '[' || c == ']' || c == '\x7b' || c == '\x7d'

/-- Letters, digits, hyphens and low lines of the basic range. -/
def isWord (c : Char) : Bool := c.isAlphanum || c == '_' || c == '-'

/-! ## Cursors -/

/-- A place in a text. -/
structure Cursor where
  /-- What follows. -/
  rest : List Char
  /-- How many characters come before. -/
  index : Nat := 0
  line : Nat := 0
  column : Nat := 0
  /-- Has the line only blanks before this place? -/
  fresh : Bool := true
deriving Repr, DecidableEq

namespace Cursor

/-- The next character, if there is one. -/
def next? (c : Cursor) : Option Char := c.rest.head?

/-- The character after the next one, if there is one. -/
def second? (c : Cursor) : Option Char := (c.rest.drop 1).head?

/-- Is this the end of the text? -/
def atEnd (c : Cursor) : Bool := c.rest.isEmpty

/-- Is there a blank? -/
def atBlank (c : Cursor) : Bool := c.next?.any isBlank

/-- Is there a line break? -/
def atBreak (c : Cursor) : Bool := c.next?.any isBreak

/-- Is this the end of a line or of the text? -/
def atLineEnd (c : Cursor) : Bool := c.next?.all isBreak

/-- Is this the end of a word: a blank, a line break or the end of the text? -/
def atGap (c : Cursor) : Bool := c.next?.all fun x => isBlank x || isBreak x

/-- Does the character after the next one end a word? -/
def secondGap (c : Cursor) : Bool := c.second?.all fun x => isBlank x || isBreak x

/-- Is there this character? -/
def has (c : Cursor) (x : Char) : Bool := c.next? == some x

/-- Pass over a blank. -/
def skipBlank (c : Cursor) : Cursor :=
  { c with rest := c.rest.drop 1, index := c.index + 1, column := c.column + 1 }

/-- Pass over some characters that are not blanks. -/
def skip (c : Cursor) (n : Nat) : Cursor :=
  { c with rest := c.rest.drop n, index := c.index + n, column := c.column + n, fresh := false }

/-- Pass over a line break, if there is one. -/
def skipBreak (c : Cursor) : Cursor :=
  match c.rest with
  | '\r' :: '\n' :: rest => ⟨rest, c.index + 2, c.line + 1, 0, true⟩
  | x :: rest => if isBreak x then ⟨rest, c.index + 1, c.line + 1, 0, true⟩ else c
  | [] => c

/-- A bound for the steps from here to the end. -/
def fuel (c : Cursor) : Nat := c.rest.length + 1

/-- Pass over characters as long as they satisfy a condition, and give them. -/
def takeWhile (p : Char → Bool) (c : Cursor) : List Char × Cursor :=
  let cs := c.rest.takeWhile p
  (cs, if cs.isEmpty then c else c.skip cs.length)

/-- Pass over what is left of the line. -/
def skipLine (c : Cursor) : Cursor :=
  (c.takeWhile fun x => !isBreak x).2

/-- Pass over blanks. -/
def skipBlanks (c : Cursor) : Cursor :=
  let n := (c.rest.takeWhile isBlank).length
  { c with rest := c.rest.drop n, index := c.index + n, column := c.column + n }

/-- Is there a mark of three characters at the beginning of a line? -/
def atMark (mark : Char) (c : Cursor) : Bool :=
  c.column == 0 && [mark, mark, mark].isPrefixOf c.rest && (c.skip 3).atGap

/-- Is there a mark for the beginning or the end of a document? -/
def atDocumentMark (c : Cursor) : Bool :=
  c.atMark '-' || c.atMark '.'

/-! ## Blanks at the end of a line -/

/-- What has been passed over: tabs, and spaces. -/
structure Blanks where
  tabs : Bool := false
  spaces : Bool := false

/-- Pass over blanks and a comment, which must stand behind a blank.  The number bounds the
steps. -/
def trailing (tabs : Bool) : Nat → Blanks → Cursor → Option (Blanks × Cursor)
  | 0, b, c => some (b, c)
  | n + 1, b, c =>
    match c.next? with
    | some ' ' => trailing tabs n { b with spaces := true } c.skipBlank
    | some '\t' => if tabs then trailing tabs n { b with tabs := true } c.skipBlank else some (b, c)
    | some '#' => if b.tabs || b.spaces then trailing tabs n b c.skipLine else none
    | _ => some (b, c)

/-- Pass over blanks, tabs among them, and a comment. -/
def skipTrailing (c : Cursor) : Option Cursor :=
  (trailing true c.fuel {} c).map (·.2)

end Cursor

end Vigil.Yaml
