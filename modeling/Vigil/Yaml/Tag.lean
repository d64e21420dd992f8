import Vigil.Yaml.Quoted

/-!
# YAML: tags and directives

A tag names the type of a value, by a handle and a suffix; a directive at the beginning of a document
gives its version or says what a handle stands for.
-/

namespace Vigil.Yaml

open Cursor

/-! ## Characters -/

/-- May the character stand in a location? -/
def isUri (c : Char) : Bool :=
  c.isAlphanum || c == '-' || "#;/?:@&=+$,_.!~*\x27()[]%".toList.contains c

/-- May the character stand in the suffix of a tag? -/
def isTagChar (c : Char) : Bool :=
  isUri c && !isFlow c && c != '!'

/-- May the character stand in the name of an anchor? -/
def isAnchorChar (c : Char) : Bool :=
  !isBlank c && !isBreak c && c != '\ufeff' && !isFlow c

/-! ## Escapes -/

/-- How many bytes a character has whose first byte is this one. -/
def byteCount? (byte : Nat) : Option Nat :=
  if byte < 0x80 then some 1
  else if byte / 0x20 = 6 then some 2
  else if byte / 0x10 = 14 then some 3
  else if byte / 0x08 = 30 then some 4
  else none

/-- Read a byte at its percent sign. -/
def uriByte (c : Cursor) : Option (Nat × Cursor) :=
  match c.rest with
  | '%' :: a :: b :: _ => (Text.hexNumber? [a, b]).map fun n => (n, c.skip 3)
  | _ => none

/-- Read the bytes that follow the first one of a character. -/
def uriBytes : Nat → Nat → Cursor → Option (Nat × Cursor)
  | 0, code, c => some (code, c)
  | n + 1, code, c =>
    match uriByte c with
    | none => none
    | some (b, c) => if b / 0x40 = 2 then uriBytes n (code * 0x100 + b) c else none

/-- Read an escaped character. -/
def uriEscape (c : Cursor) : Option (Char × Cursor) := do
  let (b, c) ← uriByte c
  let count ← byteCount? b
  let (code, c) ← uriBytes (count - 1) b c
  if code.isValidChar then some (Char.ofNat code, c) else none

/-- Read characters that satisfy a condition, escaped ones among them.  The number bounds the
steps. -/
def uriText (p : Char → Bool) : Nat → Cursor → Option (List Char × Cursor)
  | 0, c => some ([], c)
  | n + 1, c =>
    match c.next? with
    | none => some ([], c)
    | some x =>
      if !p x then some ([], c)
      else if x == '%' then
        match uriEscape c with
        | none => none
        | some (y, c) => (uriText p n c).map fun (ys, c) => (y :: ys, c)
      else (uriText p n (c.skip 1)).map fun (ys, c) => (x :: ys, c)

/-! ## Tags -/

/-- A tag as it is written. -/
structure WrittenTag where
  handle : String
  suffix : String
deriving DecidableEq, Repr

/-- Read a handle, which begins with an exclamation mark and may end with one. -/
def tagHandle (c : Cursor) : Option (List Char × Cursor) :=
  if !c.has '!' then none
  else
    let (name, c) := (c.skip 1).takeWhile isWord
    if c.has '!' then some ('!' :: name ++ ['!'], c.skip 1) else some ('!' :: name, c)

/-- Is this a handle between two exclamation marks? -/
def isNamedHandle (h : List Char) : Bool :=
  2 ≤ h.length && h.getLast? == some '!'

/-- Read a tag at its exclamation mark. -/
def tagBody (c : Cursor) : Option (WrittenTag × Cursor) :=
  if c.second? == some '<' then do
    let (suffix, c) ← uriText isUri c.fuel (c.skip 2)
    if c.has '>' then some (⟨"", String.ofList suffix⟩, c.skip 1) else none
  else do
    let (handle, c) ← tagHandle c
    let (suffix, c) ← uriText isTagChar c.fuel c
    if isNamedHandle handle then
      some (⟨String.ofList handle, String.ofList suffix⟩, c)
    else
      let suffix := handle.drop 1 ++ suffix
      some (if suffix.isEmpty then ⟨"", "!"⟩ else ⟨"!", String.ofList suffix⟩, c)

/-- Read a tag.  A gap must follow it, or what goes on with a flow collection. -/
def tag (inFlow : Bool) (c : Cursor) : Option (WrittenTag × Cursor) := do
  let (t, c) ← tagBody c
  if c.atGap || (inFlow && c.next?.any isFlow) then some (t, c) else none

/-! ## Anchors -/

/-- Read the name of an anchor behind its sign. -/
def anchorName (c : Cursor) : Option (String × Cursor) :=
  let (name, c) := c.takeWhile isAnchorChar
  if name.isEmpty then none else some (String.ofList name, c)

/-! ## Directives -/

/-- What a document says about itself before it begins. -/
inductive Directive where
  | version
  /-- A handle stands for a text; a directive of another kind says so of the empty handle. -/
  | handle (name meaning : String)
deriving DecidableEq, Repr

/-- Read a number of at most nine digits. -/
def versionNumber (c : Cursor) : Option Cursor :=
  let (ds, c) := c.takeWhile Char.isDigit
  if ds.isEmpty || 9 < ds.length then none else some c

/-- Read a version behind its word. -/
def versionDirective (c : Cursor) : Option Cursor := do
  let c ← versionNumber c.skipBlanks
  if c.has '.' then versionNumber (c.skip 1) else none

/-- Read what a handle stands for: a local tag or a location. -/
def tagMeaning (c : Cursor) : Option (List Char × Cursor) :=
  match c.next? with
  | some '!' => (uriText isUri c.fuel (c.skip 1)).map fun (s, c) => ('!' :: s, c)
  | some x => if isTagChar x then uriText isUri c.fuel c else none
  | none => none

/-- Read a handle and its meaning behind their word. -/
def handleDirective (c : Cursor) : Option (Directive × Cursor) := do
  let (handle, c) ← tagHandle c.skipBlanks
  if handle ≠ ['!'] && !isNamedHandle handle then none
  let (meaning, c) ← tagMeaning c.skipBlanks
  if c.atGap then some (.handle (String.ofList handle) (String.ofList meaning), c) else none

/-- Read a directive at its percent sign, up to the end of its line. -/
def directive (c : Cursor) : Option (Directive × Cursor) := do
  let (name, c) := (c.skip 1).takeWhile isWord
  if name.isEmpty || !c.atGap then none
  let (d, c) ←
    match String.ofList name with
    | "YAML" => (versionDirective c).map fun c => (Directive.version, c)
    | "TAG" => handleDirective c
    | _ => some (.handle "" "", c.skipLine)
  let c ← c.skipTrailing
  if c.atLineEnd then some (d, c.skipBreak) else none

end Vigil.Yaml
