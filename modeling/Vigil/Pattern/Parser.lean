import Vigil.Pattern.Bracket
import Vigil.Pattern.Machine

/-!
# Reading patterns

`Pattern.parse?` reads the notation of patterns: sets in brackets, classes and properties, groups
with flags, alternatives, repetitions, and conditions on positions.  There is no looking around and
no reference back to a group; a text that uses them, or is malformed, is no pattern.  Nor is one
that is nested too deep or needs too large a machine.
-/

namespace Vigil.Pattern

/-! ## Repetitions -/

/-- The digits at the beginning of a text, blanks between them apart.  The number bounds the
steps. -/
def readCountDigits (f : Flags) : Nat → List Char → List Char × List Char
  | 0, s => ([], s)
  | n + 1, s =>
    match s with
    | c :: rest =>
      if c.isDigit then
        let (ds, rest) := readCountDigits f n (f.skip rest)
        (c :: ds, rest)
      else ([], c :: rest)
    | [] => ([], [])

/-- Read a decimal number of at most 32 bits with the blanks around it. -/
def readCount (f : Flags) (s : List Char) : Option (Nat × List Char) :=
  let (ds, rest) := readCountDigits f (s.length + 1) ((f.skip s).dropWhile Text.isBlank)
  let n := Nat.ofDigitChars 10 ds 0
  let rest := rest.dropWhile Text.isBlank
  if ds.isEmpty || UInt32.size ≤ n then none
  else some (n, if f.ignoreBlanks then f.skip rest else rest)

/-- Read the bounds of a repetition behind its opening brace. -/
def readBounds (f : Flags) (s : List Char) : Option (Nat × Option Nat × List Char) := do
  let (least, rest) ← readCount f s
  match rest with
  | '\x7d' :: r => some (least, some least, f.skip r)
  | ',' :: r =>
    match f.skip r with
    | '\x7d' :: r => some (least, none, f.skip r)
    | r =>
      let (most, r) ← readCount f r
      match r with
      | '\x7d' :: r => if least ≤ most then some (least, some most, f.skip r) else none
      | _ => none
  | _ => none

/-! ## Groups -/

/-- May the character stand in the name of a group? -/
def isGroupNameChar (first : Bool) (c : Char) : Bool :=
  c == '_' || Text.isAlphabetic c ||
    (!first && (c == '.' || c == '[' || c == ']' || Text.isAlphanumeric c))

/-- Read the name of a group up to its closing angle bracket. -/
def readGroupName (s : List Char) : Option (List Char × List Char) :=
  let name := s.takeWhile (· != '>')
  match s.drop name.length, name with
  | _ :: r, c :: cs =>
    if isGroupNameChar true c && cs.all (isGroupNameChar false) then some (name, r) else none
  | _, _ => none

/-- How a group begins: with a number and perhaps a name, or without, or as flags for what follows
it. -/
inductive Opening where
  | numbered (name : Option (List Char))
  | plain (f : Flags)
  | flags (f : Flags)

/-- Read the beginning of a group behind its parenthesis. -/
def readGroup (f : Flags) (s : List Char) : Option (Opening × List Char) :=
  match f.skip s with
  | '?' :: '=' :: _ | '?' :: '!' :: _ => none
  | '?' :: '<' :: '=' :: _ | '?' :: '<' :: '!' :: _ => none
  | '?' :: 'P' :: '<' :: rest | '?' :: '<' :: rest =>
    (readGroupName rest).map fun (name, r) => (.numbered (some name), r)
  | '?' :: rest =>
    match f.read true [] false rest with
    | some (g, ':' :: r) => some (.plain g, r)
    | some (g, ')' :: r) => if rest.head? == some ')' then none else some (.flags g, r)
    | _ => none
  | rest => some (.numbered none, rest)

/-! ## Single parts -/

/-- What a single character of a pattern matches. -/
def ofChar (f : Flags) (c : Char) : Pattern :=
  if !f.ignoreCase then literal [c]
  else if f.everyScript then ofSet (.caseVariants c)
  else if c.isAlpha then ofSet (CharSet.single c).foldPlain
  else literal [c]

/-- What the dot matches, if it is allowed. -/
def dot? (f : Flags) : Option Pattern :=
  if !f.everyScript then none
  else if f.dotAll then some (chars .full)
  else if f.anyLineEnd then some (chars (CharSet.complement ⟨[(10, 10), (13, 13)]⟩))
  else some (chars (CharSet.complement ⟨[(10, 10)]⟩))

/-- The condition of a circumflex. -/
def startLook (f : Flags) : Look :=
  if !f.multiLine then .textStart else if f.anyLineEnd then .anyLineStart else .lineStart

/-- The condition of a dollar sign. -/
def endLook (f : Flags) : Look :=
  if !f.multiLine then .textEnd else if f.anyLineEnd then .anyLineEnd else .lineEnd

/-- What an escape matches, if it is allowed. -/
def ofEscape (f : Flags) : Escape → Option Pattern
  | .char c => some (ofChar f c)
  | .byte n => if f.everyScript || n < 128 then some (ofChar f (Char.ofNat n)) else none
  | .set s => some (ofSet s)
  | .look l => some (.look l)

/-! ## Parts read so far -/

/-- A part of a pattern, and how deep groups, repetitions, sequences, alternatives and brackets are
nested in it.  Flags are a part that cannot be repeated. -/
structure Part where
  pattern : Pattern
  depth : Nat := 0
  repeatable : Bool := true

namespace Part

/-- The greatest depth of some parts. -/
def deepest (ps : List Part) : Nat :=
  ps.foldl (fun n p => max n p.depth) 0

/-- Several parts, put together, are one step deeper than each. -/
def join (make : List Pattern → Pattern) (ps : List Part) : Part :=
  match ps with
  | [p] => p
  | ps => ⟨make (ps.map (·.pattern)), if ps.isEmpty then 0 else deepest ps + 1, true⟩

end Part

/-- What has been read of a group: finished alternatives and the parts of the one being read, both
with the last first. -/
structure Draft where
  alternatives : List Part := []
  parts : List Part := []

namespace Draft

/-- The sequence of the parts of an alternative. -/
def sequence (d : Draft) : Part :=
  .join concat d.parts.reverse

/-- The pattern of a whole group. -/
def whole (d : Draft) : Part :=
  .join anyOf (d.sequence :: d.alternatives).reverse

/-- Add a part. -/
def add (d : Draft) (p : Part) : Draft :=
  { d with parts := p :: d.parts }

/-- Begin another alternative. -/
def next (d : Draft) : Draft :=
  ⟨d.sequence :: d.alternatives, []⟩

/-- Repeat the last part, if there is one that can be repeated. -/
def repeatLast (d : Draft) (least : Nat) (most : Option Nat) (reluctant : Bool) : Option Draft :=
  match d.parts with
  | p :: rest =>
    if p.repeatable then
      some { d with parts := ⟨p.pattern.repeated least most reluctant, p.depth + 1, true⟩ :: rest }
    else none
  | [] => none

end Draft

/-- Read the question mark that makes a repetition reluctant, and repeat the last part. -/
def Draft.repeatBefore (d : Draft) (f : Flags) (least : Nat) (most : Option Nat)
    (s : List Char) : Option (Draft × List Char) :=
  match s with
  | '?' :: rest => (d.repeatLast least most !f.swapReluctance).map fun d => (d, rest)
  | s => (d.repeatLast least most f.swapReluctance).map fun d => (d, s)

/-- What has been used by groups: their number, and their names. -/
structure GroupsRead where
  count : Nat := 0
  names : List (List Char) := []

/-- Count another group, whose name must be new. -/
def GroupsRead.add (g : GroupsRead) (name : Option (List Char)) : Option GroupsRead :=
  if name.any g.names.contains then none else some ⟨g.count + 1, name.toList ++ g.names⟩

/-! ## Whole patterns -/

/-- Read a single part that is neither a group nor a repetition and begins with `c`. -/
def readPart (f : Flags) (c : Char) (rest : List Char) : Option (Part × List Char) :=
  match c with
  | '[' => do
    let (negated, start, r) := readOpening f rest
    let (t, r) ← readBracket f (rest.length + 2) negated { current := start } r
    some (⟨ofSet t.set, t.depth, true⟩, r)
  | '\\' => do
    let (e, r) ← readEscape f rest
    some (⟨← ofEscape f e, 0, true⟩, r)
  | '.' => (dot? f).map fun p => (⟨p, 0, true⟩, rest)
  | '^' => some (⟨look (startLook f), 0, true⟩, rest)
  | '$' => some (⟨look (endLook f), 0, true⟩, rest)
  | c => some (⟨ofChar f c, 0, true⟩, rest)

/-- Read a group up to its end; the closing parenthesis is left.  The number bounds the steps. -/
def readBody : Nat → Flags → GroupsRead → Draft → List Char →
    Option (Part × GroupsRead × List Char)
  | 0, _, _, _, _ => none
  | n + 1, f, g, d, s =>
    match f.skip s with
    | [] => some (d.whole, g, [])
    | ')' :: rest => some (d.whole, g, ')' :: rest)
    | '|' :: rest => readBody n f g d.next rest
    | '(' :: rest =>
      match readGroup f rest with
      | none => none
      | some (.flags f, r) => readBody n f g (d.add ⟨empty, 0, false⟩) r
      | some (.plain f', r) =>
        match readBody n f' g {} r with
        | some (p, g, ')' :: r) => readBody n f g (d.add ⟨p.pattern, p.depth + 1, true⟩) r
        | _ => none
      | some (.numbered name, r) =>
        match g.add name with
        | none => none
        | some g =>
          match readBody n f g {} r with
          | some (p, g', ')' :: r) =>
            readBody n f g' (d.add ⟨group g.count p.pattern, p.depth + 1, true⟩) r
          | _ => none
    | '?' :: rest => (d.repeatBefore f 0 (some 1) rest).bind fun (d, r) => readBody n f g d r
    | '*' :: rest => (d.repeatBefore f 0 none rest).bind fun (d, r) => readBody n f g d r
    | '+' :: rest => (d.repeatBefore f 1 none rest).bind fun (d, r) => readBody n f g d r
    | '\x7b' :: rest =>
      match readBounds f rest with
      | none => none
      | some (least, most, r) =>
        (d.repeatBefore f least most r).bind fun (d, r) => readBody n f g d r
    | c :: rest =>
      match readPart f c rest with
      | none => none
      | some (p, r) => readBody n f g (d.add p) r

/-- The greatest depth of a pattern. -/
def maxDepth : Nat := 250

/-- Read a pattern; one that is nested too deep or too large is none. -/
def parse? (s : String) : Option Pattern :=
  match readBody (s.length + 1) {} {} {} s.toList with
  | some (p, _, []) => if p.depth ≤ maxDepth && p.pattern.fits then some p.pattern else none
  | _ => none

end Vigil.Pattern
