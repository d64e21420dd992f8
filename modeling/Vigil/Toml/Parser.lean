import Vigil.Toml.Scalar
import Vigil.Toml.Table

/-!
# Reading TOML

A document is read line by line: headers open tables, and the other lines set keys in the table
opened last.
-/

namespace Vigil.Toml

open Text (Scan)

/-! ## Values -/

/-- The text from the next item of a list: blanks, line breaks and comments are passed over.  The
number bounds the lines. -/
def skipSpace : Nat → List Char → Option (List Char)
  | 0, _ => none
  | n + 1, s =>
    match skipComment (skipBlanks s) with
    | none => none
    | some rest =>
      match lineBreak? rest with
      | some rest => skipSpace n rest
      | none => some rest

/-- Read the items of a list up to its bracket.  The number bounds the items. -/
def listItems (value : Scan Json) : Nat → Scan (List Json)
  | 0, _ => none
  | n + 1, s =>
    match skipSpace (s.length + 1) s with
    | some (']' :: rest) => some ([], rest)
    | some s =>
      match value s with
      | none => none
      | some (v, rest) =>
        match skipSpace (rest.length + 1) rest with
        | some (',' :: rest) => (listItems value n rest).map fun (vs, rest) => (v :: vs, rest)
        | some (']' :: rest) => some ([v], rest)
        | _ => none
    | none => none

/-- Read a key and its value. -/
def keyValue (value : Scan Json) : Scan (List String × Json) := fun s =>
  match key s with
  | none => none
  | some (path, rest) =>
    match skipBlanks rest with
    | '=' :: rest => (value (skipBlanks rest)).map fun (v, rest) => ((path, v), rest)
    | _ => none

/-- Read the entries of an inline table up to its brace.  The number bounds the entries. -/
def inlineEntries (value : Scan Json) : Nat → Entries → Scan Entries
  | 0, _, _ => none
  | n + 1, t, s =>
    match keyValue value (skipBlanks s) with
    | none => none
    | some ((path, v), rest) =>
      match setDotted v path true t, skipBlanks rest with
      | some t, ',' :: rest => inlineEntries value n t rest
      | some t, '\x7d' :: rest => some (t, rest)
      | _, _ => none

/-- Read an inline table whose brace has been read. -/
def inlineTable (value : Scan Json) : Scan Json := fun s =>
  match skipBlanks s with
  | '\x7d' :: rest => some (.object [], rest)
  | s =>
    (inlineEntries value (s.length + 1) [] s).map fun (t, rest) => (.object (entriesToJson t), rest)

/-- Read a value that holds no others. -/
def plainValue : Scan Json := fun s =>
  match s with
  | '[' :: _ | '\x7b' :: _ => none
  | '"' :: _ | '\x27' :: _ => (string? s).map fun (t, rest) => (.text t, rest)
  | s => scalar s

/-- Read a value with at most the given number of lists and tables inside each other. -/
def value : Nat → Scan Json
  | 0, s => plainValue s
  | n + 1, s =>
    match s with
    | '[' :: rest =>
      (listItems (value n) (rest.length + 1) rest).map fun (vs, rest) => (.list vs, rest)
    | '\x7b' :: rest => inlineTable (value n) rest
    | s => plainValue s

/-! ## Lines -/

/-- What a line says. -/
inductive Line where
  | blank
  | header (path : List String)
  | listHeader (path : List String)
  | setting (path : List String) (v : Json)

/-- Read the path of a header up to its brackets. -/
def headerPath (closing : List Char) (s : List Char) : Option (List String × List Char) :=
  match key (skipBlanks s) with
  | none => none
  | some (path, rest) =>
    let rest := skipBlanks rest
    if closing.isPrefixOf rest then some (path, rest.drop closing.length) else none

/-- Read what a line says, without its comment. -/
def lineContent (s : List Char) : Option (Line × List Char) :=
  match skipBlanks s with
  | '[' :: '[' :: rest =>
    (headerPath [']', ']'] rest).map fun (path, rest) => (.listHeader path, rest)
  | '[' :: rest => (headerPath [']'] rest).map fun (path, rest) => (.header path, rest)
  | [] => some (.blank, [])
  | c :: rest =>
    if c == '#' || (lineBreak? (c :: rest)).isSome then some (.blank, c :: rest)
    else
      (keyValue (value (depthLimit - 1)) (c :: rest)).map fun ((path, v), rest) =>
        (.setting path v, rest)

/-- Read a line with its comment and its end. -/
def line (s : List Char) : Option (Line × List Char) := do
  let (l, rest) ← lineContent s
  let rest ← skipComment (skipBlanks rest)
  if rest.isEmpty then some (l, [])
  else
    let rest ← lineBreak? rest
    some (l, rest)

/-- A document as it is being read: the table opened last and all tables. -/
structure State where
  current : List String := []
  root : Entries := []

/-- Apply a change to the table that a path leads to, without its last part. -/
def changeParent (f : String → Entries → Option Entries) (path : List String) (root : Entries) :
    Option Entries :=
  match path.getLast? with
  | none => none
  | some key => changeAt (f key) path.dropLast root

/-- Do what a line says. -/
def State.apply (s : State) : Line → Option State
  | .blank => some s
  | .header path => (changeParent openTable path s.root).map fun root => ⟨path, root⟩
  | .listHeader path => (changeParent appendTable path s.root).map fun root => ⟨path, root⟩
  | .setting path v =>
    (changeAt (setDotted v path true) s.current s.root).map fun root => { s with root }

/-- Read the lines of a document.  The number bounds them. -/
def lines : Nat → State → List Char → Option State
  | 0, _, _ => none
  | n + 1, s, text =>
    match line text with
    | none => none
    | some (l, rest) =>
      match s.apply l with
      | none => none
      | some s => if rest.isEmpty then some s else lines n s rest

/-- Read a document as an object. -/
def parse? (text : String) : Option Json :=
  let cs := match text.toList with
    | '\ufeff' :: rest => rest
    | cs => cs
  (lines (cs.length + 1) {} cs).map fun s => .object (entriesToJson s.root)

end Vigil.Toml
