import Vigil.Ron.Scalar

/-!
# Object notation with names

A structure is written with its fields in parentheses and perhaps a name in front, a tuple without
field names; a name alone stands for nothing.  An optional value is written `Some(…)` or `None`.
-/

namespace Vigil.Ron

open Text (Scan itemsUpTo)

/-- Read a field: its name, a colon and the value. -/
def field (value : Scan Json) (key : Scan String) : Scan (String × Json) := fun s => do
  let (k, rest) ← key s
  match ← next rest with
  | ':' :: rest =>
    let (v, rest) ← value (← next rest)
    some ((k, v), rest)
  | _ => none

/-- Is there a name and a colon, as at the beginning of a field? -/
def beginsField (s : List Char) : Bool :=
  match (name s).bind fun (_, rest) => next rest with
  | some (':' :: _) => true
  | _ => false

/-- Read the rest of a structure or a tuple behind its parenthesis. -/
def structureRest (value : Scan Json) (s : List Char) : Option (Json × List Char) := do
  if beginsField (← next s) then
    let (ms, rest) ← itemsUpTo next (field value name) ')' (s.length + 1) s
    some (.object ms, rest)
  else
    let (vs, rest) ← itemsUpTo next value ')' (s.length + 1) s
    some (.list vs, rest)

/-- Read the value of an option behind its word. -/
def optionRest (value : Scan Json) (s : List Char) : Option (Json × List Char) := do
  match ← next s with
  | '(' :: rest =>
    let (v, rest) ← value (← next rest)
    match ← next rest with
    | ')' :: rest => some (v, rest)
    | ',' :: rest =>
      match ← next rest with
      | ')' :: rest => some (v, rest)
      | _ => none
    | _ => none
  | _ => none

/-- Read a value; `item` reads those in a list, a map or a structure, `optional` the one of an
option.  Nothing is read where they are absent. -/
def valueWith (item optional : Option (Scan Json)) (s : List Char) : Option (Json × List Char) :=
  let inner : Scan Json := item.getD fun _ => none
  let structured (s : List Char) : Option (Json × List Char) :=
    if optional.isSome then structureRest inner s else none
  match word? "true" s, word? "false" s, word? "Some" s, word? "None" s, realWord s with
  | some rest, _, _, _, _ => some (.bool true, rest)
  | _, some rest, _, _, _ => some (.bool false, rest)
  | _, _, some rest, _, _ => optional.bind fun v => optionRest v rest
  | _, _, _, some rest, _ => some (.null, rest)
  | _, _, _, _, some (x, rest) => some (.number (.real x), rest)
  | none, none, none, none, none =>
    match name s with
    | some (_, rest) =>
      (next rest).bind fun rest =>
        match rest with
        | '(' :: rest => structured rest
        | rest => some (.null, rest)
    | none =>
      match s with
      | '(' :: ')' :: rest => some (.null, rest)
      | '(' :: rest => structured rest
      | '[' :: rest =>
        if optional.isSome then
          (itemsUpTo next inner ']' (rest.length + 1) rest).map fun (vs, rest) => (.list vs, rest)
        else none
      | '\x7b' :: rest =>
        if optional.isSome then
          (itemsUpTo next (field inner text) '\x7d' (rest.length + 1) rest).map
            fun (ms, rest) => (.object ms, rest)
        else none
      | c :: _ =>
        if c.isDigit || c == '+' || c == '-' || c == '.' then
          (number s).map fun (n, rest) => (.number n, rest)
        else (text s).map fun (t, rest) => (.text t, rest)
      | [] => none

/-- Read a value.  A list, a map and a structure take one step, and so does each of the values in
them and the value of an option; the number is how many steps may be taken. -/
def value : Nat → Scan Json
  | 0 => valueWith none none
  | 1 => valueWith none (some (value 0))
  | n + 2 => valueWith (some (value n)) (some (value (n + 1)))

/-- How many steps may be taken into a document. -/
def depthLimit : Nat := 128

/-! ## Extensions -/

/-- The extensions that a document may ask for. -/
def extensions : List String :=
  ["unwrap_newtypes", "implicit_some", "unwrap_variant_newtypes"]

/-- Read some marks with blanks and comments behind each of them. -/
def marks : List String → List Char → Option (List Char)
  | [], s => some s
  | m :: ms, s =>
    if m.toList.isPrefixOf s then (next (s.drop m.length)).bind (marks ms) else none

/-- Read the names of extensions up to the parenthesis.  The number bounds them. -/
def extensionNames : Nat → List Char → Option (List Char)
  | 0, _ => none
  | n + 1, s => do
    let (ext, rest) ← name s
    if extensions.contains ext then
      match ← next rest with
      | ',' :: rest =>
        let rest ← next rest
        if rest.head?.any isNamePart then extensionNames n rest else some rest
      | rest => some rest
    else none

/-- The text behind the extensions that a document asks for.  The number bounds the requests. -/
def afterExtensions : Nat → List Char → Option (List Char)
  | 0, _ => none
  | n + 1, s => do
    match ← next s with
    | '#' :: rest =>
      let rest ← marks ["#", "!", "[", "enable", "("] ('#' :: rest)
      let rest ← extensionNames (rest.length + 1) rest
      let rest ← marks [")", "]"] rest
      afterExtensions n rest
    | rest => some rest

/-- Read a document as the members of an object. -/
def parse? (text : String) : Option (List (String × Json)) := do
  let s ← afterExtensions (text.length + 1) text.toList
  let (v, rest) ← value depthLimit s
  match v.tidy, ← next rest with
  | .object members, [] => some members
  | _, _ => none

end Vigil.Ron
