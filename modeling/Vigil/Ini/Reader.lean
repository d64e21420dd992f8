import Vigil.Json.Tree
import Vigil.Text.Blank
import Vigil.Text.Scan

/-!
# Reading INI

A document is a list of settings under headings in brackets; settings before the first heading
stand by themselves.  All values are texts.  A comment takes a line of its own, and a backslash
begins an escape everywhere else.
-/

namespace Vigil.Ini

open Text (Scan charOf? hexNumber? consTo trimChars trimEnd)

/-! ## Texts -/

/-- The character whose number is written in four places, the first of which may be a plus sign. -/
def numbered (s : List Char) : Option (Char × List Char) :=
  let digits :=
    match s.take 4 with
    | '+' :: ds => ds
    | ds => ds
  if (s.take 4).length = 4 then
    ((hexNumber? digits).bind charOf?).map fun c => (c, s.drop 4)
  else none

/-- Read the part of an escape that follows the backslash.  An escaped line break stands for
nothing. -/
def escape : Scan (List Char)
  | [] => none
  | '0' :: rest => some (['\x00'], rest)
  | 'a' :: rest => some (['\x07'], rest)
  | 'b' :: rest => some (['\x08'], rest)
  | 't' :: rest => some (['\t'], rest)
  | 'r' :: rest => some (['\r'], rest)
  | 'n' :: rest => some (['\n'], rest)
  | '\n' :: rest => some ([], rest)
  | 'x' :: rest => (numbered rest).map fun (c, rest) => ([c], rest)
  | c :: rest => some ([c], rest)

/-- Read up to one of some characters, which is not read; `atEnd` says whether the end of the
document serves too.  The number bounds the steps. -/
def textUpTo (ends : List Char) (atEnd : Bool) : Nat → Scan (List Char)
  | 0, _ => none
  | _ + 1, [] => if atEnd then some ([], []) else none
  | n + 1, c :: rest =>
    if ends.contains c then some ([], c :: rest)
    else if c == '\\' then do
      let (cs, rest) ← escape rest
      let (ds, rest) ← textUpTo ends atEnd n rest
      some (cs ++ ds, rest)
    else consTo c (textUpTo ends atEnd n rest)

/-- Read up to one of some characters, which must come. -/
def before (ends : List Char) : Scan (List Char) := fun s => textUpTo ends false (s.length + 1) s

/-- Read to the end of the line. -/
def toLineEnd : Scan (List Char) := fun s => textUpTo ['\n', '\r'] true (s.length + 1) s

/-- Read the parts of a value: texts in quotes, and the rest of the line.  Blanks do not count
before a first part without quotes, nor at the end of the line.  The number bounds the parts. -/
def valueParts : Nat → Bool → Scan (List Char)
  | 0, _, _ => none
  | n + 1, first, s =>
    match s with
    | [] => some ([], [])
    | c :: rest =>
      if c == '"' || c == '\x27' then do
        let (part, rest) ← before [c] rest
        let (parts, rest) ← valueParts n false (rest.drop 1)
        some (part ++ parts, rest)
      else
        (toLineEnd s).map fun (part, rest) =>
          (if first then trimChars part else trimEnd part, rest)

/-- Is the character a blank that ends no line? -/
def isInnerBlank (c : Char) : Bool :=
  Text.isBlank c && c != '\n' && c != '\r'

/-- Read a value. -/
def value : Scan (List Char) := fun s =>
  valueParts (s.length + 1) true (s.dropWhile isInnerBlank)

/-! ## Lines -/

/-- What a part of a document says. -/
inductive Entry where
  | heading (name : String)
  | setting (key value : String)
deriving DecidableEq, Repr

/-- Read a heading whose bracket has been read. -/
def heading : Scan Entry := fun s =>
  (before [']'] s).map fun (name, rest) =>
    (.heading (String.ofList (trimChars name)), rest.drop 1)

/-- Read a setting. -/
def setting : Scan Entry := fun s => do
  let (key, rest) ← before ['=', ':'] s
  let key := trimChars key
  if key.isEmpty then none
  else
    let (v, rest) ← value (rest.drop 1)
    some (.setting (String.ofList key) (String.ofList v), rest)

/-- Read all entries; `fresh` says whether a line begins here.  The number bounds the steps. -/
def entries : Nat → Bool → List Char → Option (List Entry)
  | 0, _, _ => none
  | n + 1, fresh, s =>
    let blanks := s.takeWhile Text.isBlank
    let fresh := if blanks.isEmpty then fresh else blanks.getLast? == some '\n'
    match s.drop blanks.length with
    | [] => some []
    | c :: rest =>
      if c == ';' || c == '#' then
        if fresh then entries n true ((rest.dropWhile (· != '\n')).drop 1) else none
      else do
        let (e, rest) ← if c == '[' then heading rest else setting (c :: rest)
        let es ← entries n false rest
        some (e :: es)

/-! ## Documents -/

/-- A document as it is being read: the settings without a heading, and those of each heading; of
several headings of one name the last one counts. -/
structure Contents where
  plain : List (String × Json) := []
  sections : List (String × List (String × Json)) := []

/-- What an entry adds. -/
def Contents.add (c : Contents) : Entry → Contents
  | .heading name => { c with sections := (name, []) :: c.sections }
  | .setting key v =>
    match c.sections with
    | [] => { c with plain := Json.insertMember key (.text v) c.plain }
    | (name, settings) :: others =>
      { c with sections := (name, Json.insertMember key (.text v) settings) :: others }

/-- The members of the object that a document stands for. -/
def Contents.members (c : Contents) : List (String × Json) :=
  c.sections.reverse.foldl (fun ms (name, settings) => Json.insertMember name (.object settings) ms)
    c.plain

/-- Read a document as the members of an object. -/
def parse? (text : String) : Option (List (String × Json)) :=
  let s := text.toList
  (entries (s.length + 1) true s).map fun es => (es.foldl Contents.add {}).members

end Vigil.Ini
