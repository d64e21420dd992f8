import Vigil.Text.Scan
import Vigil.Yaml.Cursor

/-!
# YAML: scalars in quotes

A scalar in quotes may run over several lines.  A single line break in it counts as a space, further
ones count as themselves, and the blanks around them do not count.
-/

namespace Vigil.Yaml

open Cursor
open Text (hexNumber?)

/-- The character that a letter behind a backslash stands for. -/
def letterEscape? (c : Char) : Option Char :=
  match c with
  | '0' => some '\x00'
  | 'a' => some '\x07'
  | 'b' => some '\x08'
  | 't' | '\t' => some '\t'
  | 'n' => some '\n'
  | 'v' => some '\x0b'
  | 'f' => some '\x0c'
  | 'r' => some '\r'
  | 'e' => some '\x1b'
  | ' ' => some ' '
  | '"' => some '"'
  | '/' => some '/'
  | '\\' => some '\\'
  | 'N' => some '\u0085'
  | '_' => some '\u00a0'
  | 'L' => some '\u2028'
  | 'P' => some '\u2029'
  | _ => none

/-- How many digits follow a letter that stands for a number. -/
def escapeDigits? (c : Char) : Option Nat :=
  match c with
  | 'x' => some 2
  | 'u' => some 4
  | 'U' => some 8
  | _ => none

/-- Read an escape at its backslash. -/
def escape (c : Cursor) : Option (Char × Cursor) :=
  match c.second? with
  | none => none
  | some letter =>
    match letterEscape? letter with
    | some x => some (x, c.skip 2)
    | none => do
      let n ← escapeDigits? letter
      let ds := (c.skip 2).rest.take n
      let value ← if ds.length = n then hexNumber? ds else none
      if value.isValidChar then some (Char.ofNat value, c.skip (2 + n)) else none

/-- What is read of a scalar: its text so far, last character first, and whether a line break has
been passed over behind it. -/
structure Piece where
  text : List Char
  broken : Bool := false

/-- Read up to a blank, a line break or the quote.  The number bounds the steps. -/
def quotedWord (single : Bool) : Nat → List Char → Cursor → Option (Piece × Cursor)
  | 0, text, c => some (⟨text, false⟩, c)
  | n + 1, text, c =>
    match c.next? with
    | none => some (⟨text, false⟩, c)
    | some x =>
      if c.atGap then some (⟨text, false⟩, c)
      else if single then
        if x == '\x27' then
          if c.second? == some '\x27' then quotedWord single n ('\x27' :: text) (c.skip 2)
          else some (⟨text, false⟩, c)
        else quotedWord single n (x :: text) (c.skip 1)
      else if x == '"' then some (⟨text, false⟩, c)
      else if x == '\\' then
        if c.second?.any isBreak then some (⟨text, true⟩, (c.skip 1).skipBreak)
        else
          match escape c with
          | none => none
          | some (y, c) => quotedWord single n (y :: text) c
      else quotedWord single n (x :: text) (c.skip 1)

/-- The blanks and line breaks between two words: blanks, last first; whether there was a first line
break; and the number of further ones. -/
structure Gap where
  blanks : List Char := []
  broken : Bool
  first : Bool := false
  further : Nat := 0

/-- Read the blanks and line breaks between two words.  A tab must not stand in for the indentation.
The number bounds the steps. -/
def quotedGap (indent : Int) : Nat → Gap → Cursor → Option (Gap × Cursor)
  | 0, g, c => some (g, c)
  | n + 1, g, c =>
    if c.atBlank then
      if g.broken then
        if c.has '\t' && decide ((c.column : Int) < indent) then none
        else quotedGap indent n g c.skipBlank
      else quotedGap indent n { g with blanks := c.next?.toList ++ g.blanks } c.skipBlank
    else if c.atBreak then
      if g.broken then quotedGap indent n { g with further := g.further + 1 } c.skipBreak
      else quotedGap indent n { g with blanks := [], broken := true, first := true } c.skipBreak
    else some (g, c)

/-- A text, last character first, with what a gap stands for behind it. -/
def Gap.after (g : Gap) (text : List Char) : List Char :=
  if !g.broken then g.blanks ++ text
  else if g.first && g.further = 0 then ' ' :: text
  else List.replicate g.further '\n' ++ text

/-- Read the rest of a scalar up to its quote.  The number bounds the steps. -/
def quotedRest (single : Bool) (indent : Int) : Nat → List Char → Cursor →
    Option (List Char × Cursor)
  | 0, _, _ => none
  | n + 1, text, c =>
    if c.atDocumentMark || c.atEnd || decide ((c.column : Int) < indent) then none
    else
      match quotedWord single c.fuel text c with
      | none => none
      | some (p, c) =>
        if c.has (if single then '\x27' else '"') then some (p.text, c.skip 1)
        else
          match quotedGap indent c.fuel { broken := p.broken } c with
          | none => none
          | some (g, c) => quotedRest single indent n (g.after p.text) c

/-- Read a scalar in quotes at its first quote.  Behind it there may be the end of the line, a colon,
or what goes on with a flow collection. -/
def quoted (single : Bool) (indent : Int) (inFlow : Bool) (start : Cursor) :
    Option (String × Cursor) := do
  let (text, c) ← quotedRest single indent start.fuel [] (start.skip 1)
  let c ← c.skipTrailing
  let follows :=
    match c.next? with
    | some ':' => inFlow || start.line == c.line
    | some x => isBreak x || (inFlow && (x == ',' || x == ']' || x == '\x7d'))
    | none => true
  if follows then some (String.ofList text.reverse, c) else none

end Vigil.Yaml
