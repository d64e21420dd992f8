import Vigil.Pattern.Basic
import Vigil.Pattern.Flags
import Vigil.Pattern.Property.Named
import Vigil.Pattern.Repertoire
import Vigil.Text.Scan

/-!
# Escapes

What stands behind a backslash: characters by their numbers, sets by their names, conditions on a
position, and characters that would mean something else without the backslash.
-/

namespace Vigil.Pattern

open Text (charOf? hexNumber?)

/-- What an escape stands for. -/
inductive Escape where
  | char (c : Char)
  /-- A byte in two digits. -/
  | byte (n : Nat)
  | set (s : CharSet)
  | look (l : Look)

/-! ## Numbers -/

/-- Read up to a closing brace, and pass over it. -/
def readBraces (s : List Char) : Option (List Char × List Char) :=
  let inside := s.takeWhile (· != '\x7d')
  match s.drop inside.length with
  | [] => none
  | _ :: rest => some (inside, rest)

/-- A text without the blanks and comments in it, up to a closing brace; and what follows that. -/
def readLooseBraces (f : Flags) : Nat → List Char → Option (List Char × List Char)
  | 0, _ => none
  | n + 1, s =>
    if !f.ignoreBlanks then readBraces s
    else
      match f.skip s with
      | [] => none
      | '\x7d' :: rest => some ([], rest)
      | c :: rest => (readLooseBraces f n rest).map fun (inside, rest) => (c :: inside, rest)

/-- Read a number of digits with blanks between them. -/
def readDigits (f : Flags) : Nat → List Char → Option (List Char × List Char)
  | 0, s => some ([], s)
  | n + 1, s =>
    match f.skip s with
    | [] => none
    | c :: rest => (readDigits f n rest).map fun (ds, rest) => (c :: ds, rest)

/-- How many digits the number behind a letter has. -/
def digitCount (letter : Char) : Nat :=
  if letter == 'x' then 2 else if letter == 'u' then 4 else 8

/-- Read the number of a character behind one of the letters `x`, `u` and `U`. -/
def readHex (letter : Char) (f : Flags) (s : List Char) : Option (Escape × List Char) := do
  match f.skip s with
  | '\x7b' :: rest =>
    let (ds, rest) ← readLooseBraces f (rest.length + 1) rest
    let c ← charOf? (← hexNumber? ds)
    some (.char c, f.skip rest)
  | s =>
    let (ds, rest) ← readDigits f (digitCount letter) s
    let n ← hexNumber? ds
    let c ← charOf? n
    some (if letter == 'x' then .byte n else .char c, f.skip rest)

/-! ## Names of sets -/

/-- Split a text at the first place where another one stands. -/
def splitAt? (mark : List Char) : List Char → Option (List Char × List Char)
  | [] => none
  | c :: rest =>
    if mark.isPrefixOf (c :: rest) then some ([], (c :: rest).drop mark.length)
    else (splitAt? mark rest).map fun (before, behind) => (c :: before, behind)

/-- The set with the name that stands in braces: one name, or a property and its value. -/
def bracedSet? (name : List Char) : Option CharSet :=
  match [['!', '='], [':'], ['=']].findSome? fun mark => splitAt? mark name with
  | some (property, value) => Property.valued? property value
  | none => Property.named? name

/-- Read the name of a set behind the letter `p` or `P`. -/
def readProperty (negated : Bool) (f : Flags) (s : List Char) : Option (Escape × List Char) := do
  let (set, rest) ←
    match f.skip s with
    | [] => none
    | '\x7b' :: rest => do
      let (name, rest) ← readLooseBraces f (rest.length + 1) rest
      some (← bracedSet? name, rest)
    | c :: rest => if c == '\\' then none else some (← Property.named? [c], f.skip rest)
  if f.everyScript then some (.set (f.adjusted negated set), rest) else none

/-! ## Conditions -/

/-- The condition for every script or for the basic range. -/
def Flags.pick (f : Flags) (every plain : Look) : Look :=
  if f.everyScript then every else plain

/-- The condition with a name. -/
def namedLook? (f : Flags) (name : String) : Option Look :=
  match name with
  | "start" => some (f.pick .wordStart .plainWordStart)
  | "end" => some (f.pick .wordEnd .plainWordEnd)
  | "start-half" => some (f.pick .wordStartHalf .plainWordStartHalf)
  | "end-half" => some (f.pick .wordEndHalf .plainWordEndHalf)
  | _ => none

/-- Read the name of a condition up to its closing brace. -/
def readLookName (f : Flags) : Nat → List Char → Option (List Char × List Char)
  | 0, _ => none
  | n + 1, s =>
    match f.skip s with
    | [] => none
    | c :: rest =>
      if c == '\x7d' then some ([], rest)
      else if c.isAlpha || c == '-' then
        (readLookName f n rest).map fun (name, rest) => (c :: name, rest)
      else none

/-- Read a condition named in braces behind `b`.  Braces with something else than a name belong to a
repetition. -/
def readBoundary (f : Flags) (s : List Char) : Option (Escape × List Char) :=
  let plain := some (.look (f.pick .boundary .plainBoundary), s)
  match s with
  | '\x7b' :: rest =>
    match f.skip rest with
    | [] => none
    | c :: _ =>
      if c.isAlpha || c == '-' then do
        let (name, rest) ← readLookName f (rest.length + 1) rest
        let l ← namedLook? f (String.ofList name)
        some (.look l, rest)
      else plain
  | _ => plain

/-! ## All escapes -/

/-- What a letter behind a backslash stands for on its own. -/
def letterEscape? (f : Flags) (c : Char) : Option Escape :=
  match c with
  | 'a' => some (.char '\x07')
  | 'f' => some (.char '\x0c')
  | 't' => some (.char '\t')
  | 'n' => some (.char '\n')
  | 'r' => some (.char '\r')
  | 'v' => some (.char '\x0b')
  | 'A' => some (.look .textStart)
  | 'z' => some (.look .textEnd)
  | 'B' => some (.look (f.pick .noBoundary .plainNoBoundary))
  | '<' => some (.look (f.pick .wordStart .plainWordStart))
  | '>' => some (.look (f.pick .wordEnd .plainWordEnd))
  | _ =>
    match letterSet? f.everyScript c with
    | some s => some (.set s)
    | none =>
      match letterSet? f.everyScript c.toLower with
      | some s => (f.checked (f.complement s)).map .set
      | none => if c.isAlphanum || 127 < c.toNat then none else some (.char c)

/-- Read an escape behind its backslash. -/
def readEscape (f : Flags) (s : List Char) : Option (Escape × List Char) :=
  match s with
  | [] => none
  | c :: rest =>
    if c == 'x' || c == 'u' || c == 'U' then readHex c f rest
    else if c == 'p' || c == 'P' then readProperty (c == 'P') f rest
    else if c == 'b' then readBoundary f rest
    else (letterEscape? f c).map fun e => (e, rest)

end Vigil.Pattern
