import Vigil.Program.Shell.Pattern

/-!
# Fields

When the pieces of a word have been replaced, what stands there is split into fields: at separators
among characters that come from a replacement and are not quoted.  Blank separators count only
between fields, and one other separator may stand among them; the parts of an argument list are
fields of their own.  `breakUp` splits, at most into a number of fields, of which the last keeps
its separators.
-/

namespace Vigil.Program.Shell

/-- A part of a word after its pieces have been replaced. -/
inductive Part where
  /-- Characters that are not split. -/
  | fixed (s : List Marked)
  /-- Characters that are split. -/
  | loose (s : Bytes)
  /-- Arguments with a zero byte between them. -/
  | arguments (s : Bytes)
  /-- Quotes, which make a field even if nothing stands between them. -/
  | mark
deriving Repr

/-- Characters that are quoted. -/
def quotedText (s : Bytes) : List Marked :=
  s.map fun c => (c, true)

/-- Characters that are not quoted. -/
def plainChars (s : Bytes) : List Marked :=
  s.map fun c => (c, false)

/-- The characters without their marks. -/
def unmarked (s : List Marked) : Bytes :=
  s.map (·.1)

/-- The characters of a part. -/
def Part.chars : Part → List Marked
  | fixed s => s
  | loose s => plainChars s
  | arguments s => quotedText s
  | mark => []

/-- The characters of parts that are not split. -/
def joinedChars (parts : List Part) : List Marked :=
  parts.flatMap Part.chars

/-- The separators that blank space is. -/
def blanks : Bytes := [' ', '\t', '\n']

/-- What is known while a word is split: the fields so far and the characters of the present one,
each newest first; whether anything stands in it; how many fields there may be; from where the end
of the last field is dropped. -/
structure Splitting where
  fields : List (List Marked) := []
  current : List Marked := []
  begun : Bool := false
  room : Option Nat := none
  dropped : Option Nat := none
  /-- Has a blank separator been seen, with which another separator may stand? -/
  blankSeen : Bool := false
  /-- Are separators passed over? -/
  between : Bool := false

namespace Splitting

/-- Add characters to the present field. -/
def add (x : Splitting) (cs : List Marked) : Splitting :=
  { x with current := cs.reverse ++ x.current, begun := x.begun || !cs.isEmpty }

/-- End the present field. -/
def close (x : Splitting) : Splitting :=
  { x with fields := x.current.reverse :: x.fields, current := [], begun := false }

/-- Take a character that may separate fields.  Behind arguments that are fields of their own, a
blank separator is like any other. -/
def takeChar (separators : Bytes) (behindArguments : Bool) (x : Splitting) (c : Char) : Splitting :=
  let separates := c == '\x00' || separators.contains c
  let isBlank := separates && (c == '\x00' || blanks.contains c)
  if x.room == some 0 then
    let x := x.add [(c, false)]
    if isBlank then { x with dropped := some (x.dropped.getD (x.current.length - 1)) }
    else
      { x with
        dropped := if separates && x.blankSeen then x.dropped else none
        blankSeen := false }
  else if x.between && isBlank then x
  else if x.between && separates && x.blankSeen then { x with blankSeen := false }
  else
    let x := { x with between := false }
    if !separates then x.add [(c, false)]
    else
      let x := if behindArguments then x else { x with blankSeen := isBlank }
      if !x.begun && x.blankSeen then { x with blankSeen := false }
      else if x.room == some 1 then
        { x.add [(c, false)] with room := some 0, dropped := some x.current.length }
      else { x.close with between := true, room := x.room.map (· - 1) }

/-- Take a character of an argument list, in which zero bytes separate fields. -/
def takeArgument (x : Splitting) (c : Char) : Splitting :=
  if c == '\x00' then x.close else x.add [(c, true)]

/-- Take a part; it is known whether the part before that was split was an argument list. -/
def takePart (separators : Bytes) : Splitting × Bool → Part → Splitting × Bool
  | (x, listed), .fixed s => (x.add s, listed)
  | (x, listed), .mark => ({ x with begun := true }, listed)
  | (x, _), .arguments s => (s.foldl takeArgument x, true)
  | (x, listed), .loose s =>
    (s.foldl (takeChar separators listed) { x with blankSeen := false, between := false }, false)

end Splitting

/-- Split parts into fields, at most so many. -/
def breakUp (separators : Bytes) (room : Option Nat) (parts : List Part) : List (List Marked) :=
  let (x, listed) := parts.foldl (Splitting.takePart separators) ({ room }, false)
  let last :=
    match x.dropped with
    | some n => x.current.reverse.take n
    | none => x.current.reverse
  let kept := if x.dropped.isSome then !last.isEmpty else x.begun
  (if kept || listed then last :: x.fields else x.fields).reverse

end Vigil.Program.Shell
