import Vigil.Yaml.Cursor

/-!
# YAML: scalars without quotes

A scalar without quotes ends before a colon or a comment, in a flow collection also before a bracket
or a comma, and in a block before a line that is indented less.  Line breaks in it are folded.
-/

namespace Vigil.Yaml

open Cursor

/-- Can the next character go on with a scalar? -/
def goesOn (inFlow : Bool) (c : Cursor) : Bool :=
  match c.next? with
  | none => false
  | some x =>
    if x == ':' then !(c.secondGap || (inFlow && c.second?.any isFlow))
    else !(inFlow && isFlow x)

/-- Read the characters of a word, last character first.  The number bounds the steps. -/
def plainWord (inFlow : Bool) : Nat → List Char → Cursor → List Char × Cursor
  | 0, text, c => (text, c)
  | n + 1, text, c =>
    if !c.atGap && goesOn inFlow c then
      plainWord inFlow n (c.next?.toList ++ text) (c.skip 1)
    else (text, c)

/-- What follows a word: blanks, last first, whether there was a line break, and the number of
further ones. -/
structure PlainGap where
  blanks : List Char := []
  broken : Bool := false
  further : Nat := 0

/-- Read the blanks and line breaks behind a word.  A tab must not stand in for the indentation.  The
number bounds the steps. -/
def plainGap (indent : Int) : Nat → PlainGap → Cursor → Option (PlainGap × Cursor)
  | 0, g, c => some (g, c)
  | n + 1, g, c =>
    if c.atBlank then
      if !c.fresh then plainGap indent n { g with blanks := c.next?.toList ++ g.blanks } c.skipBlank
      else if c.has '\t' && decide ((c.column : Int) < indent) then
        match c.skipTrailing with
        | none => none
        | some c => if c.atLineEnd then plainGap indent n g c else none
      else plainGap indent n g c.skipBlank
    else if c.atBreak then
      if c.fresh then plainGap indent n { g with further := g.further + 1 } c.skipBreak
      else plainGap indent n { g with blanks := [], broken := true } c.skipBreak
    else some (g, c)

/-- A text, last character first, with what a gap stands for behind it. -/
def PlainGap.after (g : PlainGap) (text : List Char) : List Char :=
  if !g.broken then List.replicate g.further '\n' ++ g.blanks ++ text
  else if g.further = 0 then ' ' :: text
  else List.replicate g.further '\n' ++ text

/-- Read words and the gaps between them; a gap at the end does not count.  The number bounds the
steps. -/
def plainRest (inFlow : Bool) (indent : Int) : Nat → List Char → PlainGap → Cursor →
    Option (List Char × Cursor)
  | 0, text, _, c => some (text, c)
  | n + 1, text, g, c =>
    if c.atDocumentMark || c.has '#' then some (text, c)
    else if inFlow && c.has '-' && c.second?.any isFlow then none
    else
      let (text, g, c) :=
        if !c.atGap && goesOn inFlow c then
          let (text, c) := plainWord inFlow c.fuel (g.after text) c
          (text, ({} : PlainGap), c)
        else (text, g, c)
      if !(c.atBlank || c.atBreak) then some (text, c)
      else
        match plainGap indent c.fuel g c with
        | none => none
        | some (g, c) =>
          if !inFlow && decide ((c.column : Int) < indent) then some (text, c)
          else plainRest inFlow indent n text g c

/-- Read a scalar inside a block with the given indentation. -/
def plainScalar (inFlow : Bool) (outer : Int) (c : Cursor) : Option (String × Cursor) :=
  let indent := outer + 1
  if inFlow && decide ((c.column : Int) < indent) then none
  else (plainRest inFlow indent c.fuel [] {} c).map fun (text, c) =>
    (String.ofList text.reverse, c)

end Vigil.Yaml
