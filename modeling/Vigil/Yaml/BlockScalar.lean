import Vigil.Yaml.Cursor

/-!
# YAML: scalars in blocks

A scalar whose lines are indented.  Behind its sign stand how its end is trimmed and how deep it is
indented; otherwise its first line with content shows that.
-/

namespace Vigil.Yaml

open Cursor

/-- What happens to the line breaks at the end of a scalar. -/
inductive Trimming where
  /-- One is kept. -/
  | clip
  /-- None is kept. -/
  | strip
  /-- All are kept. -/
  | keep
deriving DecidableEq, Repr

/-- Read a sign for the trimming, if there is one. -/
def readTrimming (c : Cursor) : Option (Trimming × Cursor) :=
  match c.next? with
  | some '+' => some (.keep, c.skip 1)
  | some '-' => some (.strip, c.skip 1)
  | _ => none

/-- Read a digit for the indentation, which must not be zero; there need not be one. -/
def readIncrement (c : Cursor) : Option (Nat × Cursor) :=
  match c.next? with
  | some d =>
    if d == '0' then none
    else if d.isDigit then some (d.toNat - 48, c.skip 1)
    else some (0, c)
  | none => some (0, c)

/-- Read the signs behind the first one, in either order. -/
def readHeader (c : Cursor) : Option (Trimming × Nat × Cursor) :=
  match readTrimming c with
  | some (t, c) => (readIncrement c).map fun (n, c) => (t, n, c)
  | none =>
    match readIncrement c with
    | none => none
    | some (0, c) => some (.clip, 0, c)
    | some (n, c) =>
      match readTrimming c with
      | some (t, c) => some (t, n, c)
      | none => some (.clip, n, c)

/-- Pass over spaces up to a column. -/
def skipSpaces (column : Nat) (c : Cursor) : Cursor :=
  let n := min (c.rest.takeWhile (· == ' ')).length (column - c.column)
  { c with rest := c.rest.drop n, index := c.index + n, column := c.column + n }

/-- Pass over empty lines and the indentation of the next line, and count the lines.  The first
number bounds the steps. -/
def skipIndent (indent : Nat) : Nat → Nat → Cursor → Nat × Cursor
  | 0, breaks, c => (breaks, c)
  | n + 1, breaks, c =>
    let c := skipSpaces indent c
    if c.atBreak then skipIndent indent n (breaks + 1) c.skipBreak else (breaks, c)

/-- Pass over empty lines and all spaces before the first content; give the greatest column reached
and the number of lines.  The first number bounds the steps. -/
def findIndent : Nat → Nat → Nat → Cursor → Nat × Nat × Cursor
  | 0, greatest, breaks, c => (greatest, breaks, c)
  | n + 1, greatest, breaks, c =>
    let c := skipSpaces (c.column + c.rest.length) c
    let greatest := max greatest c.column
    if c.atBreak then findIndent n greatest (breaks + 1) c.skipBreak else (greatest, breaks, c)

/-- The lines read so far: the text with its last character first, whether a line break follows it,
how many empty lines follow, and whether the last line began with a blank. -/
structure BlockDraft where
  text : List Char := []
  broken : Bool := false
  empty : Nat := 0
  blankLine : Bool := false

/-- The text with the line break and the empty lines before another line.  In a folded scalar a
single line break counts as a space, unless one of the lines begins with a blank. -/
def BlockDraft.joined (d : BlockDraft) (literal : Bool) (blank : Bool) : List Char :=
  if !literal && d.broken && !d.blankLine && !blank then
    if d.empty = 0 then ' ' :: d.text else List.replicate d.empty '\n' ++ d.text
  else List.replicate (d.empty + d.broken.toNat) '\n' ++ d.text

/-- Read lines as long as they have the indentation.  The number bounds the steps. -/
def blockLines (literal : Bool) (indent : Nat) : Nat → BlockDraft → Cursor → BlockDraft × Cursor
  | 0, d, c => (d, c)
  | n + 1, d, c =>
    if c.column ≠ indent || c.atEnd || (indent == 0 && c.atDocumentMark) then (d, c)
    else
      let blank := c.atBlank
      let (line, c) := c.takeWhile fun x => !isBreak x
      let text := line.reverse ++ d.joined literal blank
      if c.atEnd then (⟨text, false, 0, blank⟩, c)
      else
        let (empty, c) := skipIndent indent c.fuel 0 c.skipBreak
        blockLines literal indent n ⟨text, true, empty, blank⟩ c

/-- The text of a scalar without content, of which only line breaks are left. -/
def emptyBlock (t : Trimming) (sameLine : Bool) (firstBreak : Bool) (empty : Nat) : String :=
  let breaks :=
    if t = .strip || sameLine then 0
    else if t = .clip || empty = 0 then firstBreak.toNat
    else empty
  String.ofList (List.replicate breaks '\n')

/-- The whole text of a scalar. -/
def BlockDraft.finish (d : BlockDraft) (t : Trimming) (indent : Nat) (c : Cursor) : String :=
  let last := if t = .strip then 0
    else d.broken.toNat + (c.atEnd && decide (max indent 1 ≤ c.column)).toNat
  let further := if t = .keep then d.empty else 0
  String.ofList (List.replicate (last + further) '\n' ++ d.text).reverse

/-- Read a scalar at the sign that begins it, inside a block with the given indentation. -/
def blockScalar (literal : Bool) (outer : Int) (start : Cursor) : Option (String × Cursor) := do
  let (t, increment, c) ← readHeader (start.skip 1)
  let c ← c.skipTrailing
  if !c.atLineEnd then none
  let firstBreak := c.atBreak
  let c := c.skipBreak
  if c.has '\t' then none
  let given := if increment = 0 then 0
    else if 0 ≤ outer then outer.toNat + increment else increment
  let (indent, empty, c) :=
    if given = 0 then
      let (greatest, breaks, c) := findIndent c.fuel 0 0 c
      let indent := max greatest (outer + 1).toNat
      (if 0 < outer then max indent 1 else indent, breaks, c)
    else
      let (breaks, c) := skipIndent given c.fuel 0 c
      (given, breaks, c)
  if c.atEnd then
    some (emptyBlock t (c.line == start.line) firstBreak empty, c)
  else if c.column < indent && decide (outer < (c.column : Int)) then none
  else
    let (d, c) := blockLines literal indent c.fuel { empty } c
    some (d.finish t indent c, c)

end Vigil.Yaml
