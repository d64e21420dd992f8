import Vigil.Yaml.BlockScalar
import Vigil.Yaml.PlainScalar
import Vigil.Yaml.Tag

/-!
# YAML: tokens

A text is cut into tokens, among them those that say where a block begins and ends, which only the
indentation shows.  Whether a scalar is a key shows only at the colon behind it; the tokens for the
key and for the beginning of its table are then put in before it.
-/

namespace Vigil.Yaml

open Cursor

/-- A token. -/
inductive Token where
  | directive (d : Directive)
  | documentStart | documentEnd
  | listStart | tableStart | blockEnd
  | flowListStart | flowListEnd | flowTableStart | flowTableEnd
  | item | comma | key | value
  | aliasOf (name : String)
  | anchor (name : String)
  | tag (t : WrittenTag)
  /-- A scalar, and whether it stands without quotes and signs. -/
  | scalar (plain : Bool) (text : String)
deriving DecidableEq, Repr

/-- What may turn out to be a key: the number of its token and where it stands.  A key that stands
where the table is indented must turn out to be one. -/
structure KeyMark where
  possible : Bool := false
  required : Bool := false
  token : Nat := 0
  index : Nat := 0
  line : Nat := 0
  column : Nat := 0
deriving DecidableEq, Repr

/-- An indentation to go back to, and whether a block ends there. -/
structure Level where
  indent : Int
  block : Bool
deriving DecidableEq, Repr

/-- The state of cutting a text into tokens. -/
structure Lexer where
  cursor : Cursor
  /-- The tokens so far, the last first, with the columns where they begin. -/
  tokens : List (Token × Nat) := []
  indent : Int := -1
  /-- The levels outside this one, the innermost first. -/
  levels : List Level := []
  /-- What may be a key, for each flow collection and for the block around them, the innermost
  first. -/
  keys : List KeyMark := [{}]
  keyAllowed : Bool := true
  /-- Where a colon needs no gap behind it. -/
  adjacent : Nat := 0
  /-- Has a table in braces or an explicit key begun in the flow collections? -/
  inTable : Bool := false
  /-- Is a table without braces open in a flow list? -/
  impliedTable : Bool := false

namespace Lexer

/-- How many flow collections are open. -/
def flowLevel (x : Lexer) : Nat := x.keys.length - 1

/-- Is a flow collection open? -/
def inFlow (x : Lexer) : Bool := x.flowLevel ≠ 0

/-- The greatest number of flow collections in each other. -/
def maxFlowLevel : Nat := 255

/-- Add a token that begins in a column. -/
def push (x : Lexer) (t : Token) (column : Nat) : Lexer :=
  { x with tokens := (t, column) :: x.tokens }

/-- Put a token before the one with a number. -/
def insert (x : Lexer) (number : Nat) (t : Token) (column : Nat) : Lexer :=
  let later := x.tokens.length - number
  { x with tokens := x.tokens.take later ++ (t, column) :: x.tokens.drop later }

/-! ## Levels -/

/-- Go back to levels that are indented no more than a column. -/
def unrollFrom (column : Int) : Int → List Level → List (Token × Nat) → Nat →
    Int × List Level × List (Token × Nat)
  | indent, [], tokens, _ => (indent, [], tokens)
  | indent, l :: levels, tokens, column' =>
    if column < indent then
      unrollFrom column l.indent levels
        (if l.block then (.blockEnd, column') :: tokens else tokens) column'
    else (indent, l :: levels, tokens)

/-- End the blocks that are indented more than a column. -/
def unroll (x : Lexer) (column : Int) : Lexer :=
  if x.inFlow then x
  else
    let (indent, levels, tokens) :=
      unrollFrom column x.indent x.levels x.tokens x.cursor.column
    { x with indent, levels, tokens }

/-- Leave the innermost levels that are no blocks. -/
def leaveInner (indent : Int) : List Level → Int × List Level
  | [] => (indent, [])
  | l :: levels => if l.block then (indent, l :: levels) else leaveInner l.indent levels

/-- Leave the innermost levels that are no blocks. -/
def unrollInner (x : Lexer) : Lexer :=
  let (indent, levels) := leaveInner x.indent x.levels
  { x with indent, levels }

/-- Begin a block in a column, if that is further right; the token goes to the end or before the one
with a number. -/
def roll (x : Lexer) (column : Nat) (number : Option Nat) (t : Token) : Lexer :=
  if x.inFlow then x
  else
    let x :=
      match x.levels with
      | l :: levels =>
        if !l.block && decide (x.indent ≤ (column : Int)) then { x with indent := l.indent, levels } else x
      | [] => x
    if x.indent < (column : Int) then
      let y := { x with indent := (column : Int), levels := ⟨x.indent, true⟩ :: x.levels }
      match number with
      | some n => y.insert n t column
      | none => y.push t column
    else x

/-- Ask for one more column of indentation inside a block. -/
def rollInner (x : Lexer) : Lexer :=
  if !x.inFlow && x.levels.head?.any (·.block) then
    { x with indent := x.indent + 1, levels := ⟨x.indent, false⟩ :: x.levels }
  else x

/-! ## Keys -/

/-- Change what is known of the innermost possible key. -/
def setKey (x : Lexer) (k : KeyMark) : Lexer :=
  { x with keys := k :: x.keys.drop 1 }

/-- The innermost possible key. -/
def innerKey (x : Lexer) : KeyMark := x.keys.head?.getD {}

/-- The next token may be a key, if keys are allowed. -/
def saveKey (x : Lexer) : Lexer :=
  if !x.keyAllowed then x
  else
    let c := x.cursor
    let required := !x.inFlow && decide (x.indent = (c.column : Int)) && x.levels.head?.any (·.block)
    x.setKey ⟨true, required, x.tokens.length, c.index, c.line, c.column⟩

/-- What may have been a key is none. -/
def dropKey (x : Lexer) : Option Lexer :=
  let k := x.innerKey
  if k.possible && k.required then none else some (x.setKey { k with possible := false })

/-- Is it too late for a key?  Outside flow collections it must stand in one line and be short. -/
def isStale (c : Cursor) (k : KeyMark) : Bool :=
  k.possible && (k.line < c.line || k.index + 1024 < c.index)

/-- Give up keys for which it is too late. -/
def dropStale (x : Lexer) : Option Lexer :=
  if x.inFlow then some x
  else if x.keys.any fun k => isStale x.cursor k && k.required then none
  else
    some { x with
      keys := x.keys.map fun k => if isStale x.cursor k then { k with possible := false } else k }

/-! ## Gaps -/

/-- Pass over blanks, line breaks and comments to the next token.  A tab must not stand in for the
indentation.  The number bounds the steps. -/
def skipGap : Nat → Lexer → Option Lexer
  | 0, x => some x
  | n + 1, x =>
    let c := x.cursor
    match c.next? with
    | some '\t' =>
      if !x.levels.isEmpty && c.fresh && decide ((c.column : Int) < x.indent) then
        match c.skipTrailing with
        | none => none
        | some c => if c.atLineEnd then skipGap n { x with cursor := c } else none
      else skipGap n { x with cursor := c.skipBlank }
    | some ' ' => skipGap n { x with cursor := c.skipBlank }
    | some '#' => skipGap n { x with cursor := c.skipLine }
    | some y =>
      if isBreak y then
        skipGap n { x with cursor := c.skipBreak, keyAllowed := x.keyAllowed || !x.inFlow }
      else some x
    | none => some x

/-- Pass over the gap before the next token. -/
def toToken (x : Lexer) : Option Lexer := skipGap x.cursor.fuel x

/-- Pass over spaces, line breaks and comments behind the sign of a key; there must be something.
The number bounds the steps. -/
def skipKeyGap : Nat → Bool → Lexer → Option Lexer
  | 0, _, x => some x
  | n + 1, found, x =>
    let c := x.cursor
    match c.next? with
    | some ' ' => skipKeyGap n true { x with cursor := c.skipBlank }
    | some '#' => skipKeyGap n found { x with cursor := c.skipLine }
    | some y =>
      if isBreak y then
        skipKeyGap n true { x with cursor := c.skipBreak, keyAllowed := x.keyAllowed || !x.inFlow }
      else if found then some x else none
    | none => if found then some x else none

/-! ## Single tokens -/

/-- Pass over characters and over the blanks and the comment behind them. -/
def skipSign (x : Lexer) (n : Nat) : Option Lexer :=
  ((x.cursor.skip n).skipTrailing).map fun c => { x with cursor := c }

/-- A mark for the beginning or the end of a document. -/
def documentMark (x : Lexer) (t : Token) : Option Lexer := do
  let x ← (x.unroll (-1)).dropKey
  some ({ x with keyAllowed := false, cursor := x.cursor.skip 3 }.push t x.cursor.column)

/-- The end of a document, behind which nothing else stands in its line. -/
def finishDocument (x : Lexer) : Option Lexer := do
  let x ← x.documentMark .documentEnd
  let c ← x.cursor.skipTrailing
  if c.atLineEnd then some { x with cursor := c } else none

/-- A directive. -/
def readDirective (x : Lexer) : Option Lexer := do
  let x ← (x.unroll (-1)).dropKey
  let (d, c) ← directive x.cursor
  some ({ x with keyAllowed := false, cursor := c }.push (.directive d) 0)

/-- The beginning of a flow collection. -/
def openFlow (x : Lexer) (t : Token) : Option Lexer := do
  let column := x.cursor.column
  let x := x.saveKey.rollInner
  if maxFlowLevel ≤ x.flowLevel then none
  let x ← { x with
    keys := {} :: x.keys
    keyAllowed := true
    inTable := x.inTable || t == Token.flowTableStart }.skipSign 1
  some (x.push t column)

/-- End a table without braces in a flow list, if one is open. -/
def endImplied (x : Lexer) : Lexer :=
  if x.impliedTable then
    { x with impliedTable := false, inTable := false }.push .flowTableEnd x.cursor.column
  else x

/-- The end of a flow collection. -/
def closeFlow (x : Lexer) (t : Token) : Option Lexer := do
  let column := x.cursor.column
  let x ← x.dropKey
  let x := { x with keys := if x.inFlow then x.keys.drop 1 else x.keys, keyAllowed := false }
  let x ← x.endImplied.skipSign 1
  let x := if x.inFlow then { x with adjacent := x.cursor.index } else x
  some (x.push t column)

/-- A comma in a flow collection. -/
def readComma (x : Lexer) : Option Lexer := do
  let column := x.cursor.column
  let x ← x.dropKey
  let x ← { x with keyAllowed := true }.endImplied.skipSign 1
  some (x.push .comma column)

/-- Is the last token an anchor or a tag at the beginning of a line? -/
def afterProperties (x : Lexer) : Bool :=
  match x.tokens with
  | (.anchor _, 0) :: _ | (.tag _, 0) :: _ => true
  | _ => false

/-- The sign of an item of a list. -/
def readItem (x : Lexer) : Option Lexer := do
  if x.inFlow || !x.keyAllowed then none
  let column := x.cursor.column
  if x.afterProperties && column = 0 && decide (-1 < x.indent) then none
  let x := { x with cursor := x.cursor.skip 1 }.roll column none .listStart
  let (b, c) ← trailing true x.cursor.fuel {} x.cursor
  if b.tabs && c.has '-' && c.secondGap then none
  let (_, c) ← trailing false c.fuel {} c
  let x := { x with cursor := c }
  let x := if c.next?.any fun y => isBreak y || isFlow y then x.rollInner else x
  let x ← x.dropKey
  some ({ x with keyAllowed := true }.push .item c.column)

/-- The sign of a key. -/
def readKey (x : Lexer) : Option Lexer := do
  let column := x.cursor.column
  if !x.inFlow && !x.keyAllowed then none
  let x := if x.inFlow then { x with inTable := true } else x.roll column none .tableStart
  let x ← x.dropKey
  let x := { x with keyAllowed := !x.inFlow, cursor := x.cursor.skip 1 }
  let x ← skipKeyGap x.cursor.fuel false x
  if x.cursor.has '\t' then none else some (x.push .key column)

/-- Pass over a colon.  A tab behind it must not stand before a word. -/
def skipColon (c : Cursor) : Option Cursor :=
  let c := c.skip 1
  if !c.has '\t' then some c
  else
    match trailing true c.fuel {} c with
    | none => none
    | some (b, c) => if !b.spaces && c.next?.any isWord then none else some c

/-- The colon before a value. -/
def readValue (x : Lexer) : Option Lexer := do
  let k := x.innerKey
  let start := x.cursor
  let implied := x.inFlow && !x.inTable
  let c ← skipColon start
  let x := { x with impliedTable := implied, cursor := c }
  let x ←
    if k.possible then
      if implied && k.line < start.line then none
      else
        let x := x.insert k.token .key k.column
        let x := if implied then x.insert k.token .flowTableStart k.column else x
        let x := (x.roll k.column (some k.token) .tableStart).rollInner
        some { x.setKey { k with possible := false } with keyAllowed := false }
    else
      let x := if implied then x.push .flowTableStart start.column else x
      if x.inFlow then some { x.rollInner with keyAllowed := false }
      else if !x.keyAllowed then none
      else some { (x.roll start.column none .tableStart).rollInner with keyAllowed := true }
  some (x.push .value start.column)

/-- An anchor or the alias of one. -/
def readAnchor (x : Lexer) (make : String → Token) : Option Lexer := do
  let column := x.cursor.column
  let x := x.saveKey
  let (name, c) ← anchorName (x.cursor.skip 1)
  some ({ x with keyAllowed := false, cursor := c }.push (make name) column)

/-- A tag. -/
def readTag (x : Lexer) : Option Lexer := do
  let column := x.cursor.column
  let x := x.saveKey
  let (t, c) ← tag x.inFlow x.cursor
  some ({ x with keyAllowed := false, cursor := c }.push (.tag t) column)

/-- A scalar in a block. -/
def readBlockScalar (x : Lexer) (literal : Bool) : Option Lexer := do
  let column := x.cursor.column
  let x := { x.saveKey with keyAllowed := true }.unrollInner
  let (text, c) ← blockScalar literal x.indent x.cursor
  some ({ x with cursor := c }.push (.scalar false text) column)

/-- A scalar in quotes. -/
def readQuoted (x : Lexer) (single : Bool) : Option Lexer := do
  let column := x.cursor.column
  let x := { x.saveKey with keyAllowed := false }
  let (text, c) ← quoted single x.indent x.inFlow x.cursor
  let x ← { x with cursor := c }.toToken
  some ({ x with adjacent := x.cursor.index }.push (.scalar false text) column)

/-- A scalar without quotes. -/
def readPlain (x : Lexer) : Option Lexer := do
  let column := x.cursor.column
  let x := { x.saveKey with keyAllowed := false }.unrollInner
  let (text, c) ← plainScalar x.inFlow x.indent x.cursor
  some ({ x with cursor := c, keyAllowed := c.fresh }.push (.scalar true text) column)

/-! ## All tokens -/

/-- The token that begins with the character `y`. -/
def readToken (x : Lexer) (y : Char) : Option Lexer :=
  let c := x.cursor
  match y with
  | '[' => x.openFlow .flowListStart
  | '\x7b' => x.openFlow .flowTableStart
  | ']' => x.closeFlow .flowListEnd
  | '\x7d' => x.closeFlow .flowTableEnd
  | ',' => x.readComma
  | '-' => if c.secondGap then x.readItem else x.readPlain
  | '?' => if c.secondGap then x.readKey else x.readPlain
  | ':' =>
    if c.secondGap || (x.inFlow && (c.second?.any isFlow || c.index == x.adjacent)) then x.readValue
    else x.readPlain
  | '*' => x.readAnchor .aliasOf
  | '&' => x.readAnchor .anchor
  | '!' => x.readTag
  | '|' => if x.inFlow then x.readPlain else x.readBlockScalar true
  | '>' => if x.inFlow then x.readPlain else x.readBlockScalar false
  | '\x27' => x.readQuoted true
  | '"' => x.readQuoted false
  | '%' | '@' | '\x60' => none
  | _ => x.readPlain

/-- The end of the text: every block ends. -/
def finish (x : Lexer) : Option (List Token) :=
  if x.keys.any fun k => k.required && k.possible then none
  else some (((x.unroll (-1)).tokens.map (·.1)).reverse)

/-- Read tokens up to the end of the text.  The number bounds the steps. -/
def readAll : Nat → Lexer → Option (List Token)
  | 0, _ => none
  | n + 1, x =>
    match x.toToken.bind dropStale with
    | none => none
    | some x =>
      let x := x.unroll x.cursor.column
      let c := x.cursor
      let next : Option Lexer :=
        match c.next? with
        | none => none
        | some y =>
          if c.column = 0 && y == '%' then x.readDirective
          else if c.atMark '-' then x.documentMark .documentStart
          else if c.atMark '.' then x.finishDocument
          else if (c.column : Int) < x.indent then none
          else x.readToken y
      if c.atEnd then x.finish
      else
        match next with
        | none => none
        | some x => readAll n x

end Lexer

/-- The tokens of a text, which ends at the first NUL. -/
def tokens? (text : String) : Option (List Token) :=
  let cs := text.toList.takeWhile (· != '\x00')
  Lexer.readAll (2 * cs.length + 2) { cursor := { rest := cs } }

end Vigil.Yaml
