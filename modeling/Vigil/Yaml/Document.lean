import Vigil.Yaml.Scalar
import Vigil.Yaml.Token

/-!
# YAML: documents

The tokens of a text make up a document: lists and tables, in blocks or in brackets, with scalars in
them.  A value may be given a name, which stands for it in later places.
-/

namespace Vigil.Yaml

/-! ## Tags -/

/-- What the handles of tags stand for. -/
abbrev Handles := List (String × String)

/-- The tag that a written tag means; a handle between exclamation marks must be known. -/
def Handles.resolve (handles : Handles) (t : WrittenTag) : Option WrittenTag :=
  let known (h : String) : Option String := Json.lookup h handles
  if t.handle == "!!" then some { t with handle := (known "!!").getD commonHandle }
  else if t.handle == "" && t.suffix == "!" then some { t with handle := (known "").getD "" }
  else
    match known t.handle with
    | some meaning => some { t with handle := meaning }
    | none => if isNamedHandle t.handle.toList then none else some t

/-- The handles after some directives; only the last directive counts.  There may be one version, and
a directive may not repeat the handle of the one before it. -/
def Handles.ofDirectives : Bool → Handles → List Directive → Option Handles
  | _, handles, [] => some handles
  | seen, _, .version :: ds => if seen then none else ofDirectives true [] ds
  | seen, handles, .handle name meaning :: ds =>
    if (Json.lookup name handles).isSome then none else ofDirectives seen [(name, meaning)] ds

/-! ## Names -/

/-- The tokens that follow, and the names of values: their numbers, and the values of those that are
complete. -/
structure Source where
  tokens : List Token
  names : List (String × Nat) := []
  count : Nat := 0
  values : List (Nat × Tagged) := []

namespace Source

/-- Pass over a token. -/
def skip (s : Source) : Source := { s with tokens := s.tokens.drop 1 }

/-- The next token, if there is one. -/
def next? (s : Source) : Option Token := s.tokens.head?

/-- Give a name to the value that follows. -/
def register (s : Source) (name : String) : Source :=
  { s with names := (name, s.count) :: s.names, count := s.count + 1 }

/-- Keep the value of a name. -/
def complete (s : Source) (number : Option Nat) (v : Tagged) : Source :=
  match number with
  | none => s
  | some n => { s with values := (n, v) :: s.values }

/-- The value of a name.  One that is not complete yet counts as none. -/
def named? (s : Source) (name : String) : Option Tagged :=
  (s.names.find? (·.1 == name)).map fun x =>
    ((s.values.find? (·.1 == x.2)).map (·.2)).getD none

end Source

/-! ## Tables -/

/-- A key of a table.  A number and the text that looks like it are different keys. -/
structure Key where
  number : Bool
  text : String
deriving DecidableEq, Repr

/-- The key that a value serves as: texts and whole numbers do. -/
def Key.of? : Json → Option Key
  | .text t => some ⟨false, t⟩
  | .number (.whole n) => some ⟨true, toString n⟩
  | _ => none

/-- The entries of a table from its keys and values in turn; no key may come twice.  A key that is
not of the type its tag names is left out. -/
def entries (pending : Option Key) (seen : List Key) : List Tagged → Option (List (String × Json))
  | [] => some []
  | v :: rest =>
    match pending, v with
    | none, none => entries none seen rest
    | none, some v =>
      match Key.of? v with
      | none => none
      | some k => entries (some k) seen rest
    | some k, v =>
      if seen.contains k then none
      else (entries none (k :: seen) rest).map fun l => (k.text, v.getD .null) :: l

/-- The table with these keys and values in turn. -/
def tableOf (children : List Tagged) : Option Tagged :=
  (entries none [] children).map fun l => some (.object l)

/-- The list of these values. -/
def listOf (children : List Tagged) : Option Tagged :=
  some (some (.list (children.map fun v => v.getD .null)))

/-! ## Values -/

/-- The name and the tag before a value. -/
structure Properties where
  anchor : Option Nat := none
  tag : Option WrittenTag := none

/-- Read a tag. -/
def Properties.readTag (handles : Handles) (p : Properties) (s : Source) :
    Option (Properties × Source) :=
  match s.next? with
  | some (.tag t) => (handles.resolve t).map fun t => ({ p with tag := some t }, s.skip)
  | _ => some (p, s)

/-- Read a name. -/
def Properties.readAnchor (p : Properties) (s : Source) : Properties × Source :=
  match s.next? with
  | some (.anchor name) => ({ p with anchor := some s.count }, (s.register name).skip)
  | _ => (p, s)

/-- Read a name and a tag, in either order. -/
def Properties.read (handles : Handles) (s : Source) : Option (Properties × Source) :=
  match s.next? with
  | some (.tag _) => (readTag handles {} s).map fun (p, s) => p.readAnchor s
  | _ =>
    let (p, s) := readAnchor {} s
    if p.anchor.isSome then p.readTag handles s else some (p, s)

/-- Does a block go on at this token, so that a value is missing before it? -/
def endsBlockValue (t : Option Token) : Bool :=
  t == some .key || t == some .value || t == some .blockEnd

/-- Does a list go on at this token, so that an item is missing before it? -/
def endsItem (t : Option Token) : Bool :=
  t == some .item || t == some .blockEnd

/-- Does a collection in brackets go on at this token, so that a value is missing before it? -/
def endsFlowValue (close : Token) (t : Option Token) : Bool :=
  t == some .comma || t == some close

/-- The value that a missing one stands for. -/
def missing : Tagged := some .null

mutual

/-- Read a value.  `block` says that blocks may begin here, and `indentless` that a list may begin
with its first item.  The number bounds the steps. -/
def readNode (handles : Handles) : Nat → Bool → Bool → Source → Option (Tagged × Source)
  | 0, _, _, _ => none
  | n + 1, block, indentless, s =>
    match s.next? with
    | some (.aliasOf name) => (s.named? name).map fun v => (v, s.skip)
    | _ => do
      let (p, s) ← Properties.read handles s
      let (v, s) ← readContent handles n block indentless p s
      some (v, s.complete p.anchor v)

/-- Read a value behind its name and tag. -/
def readContent (handles : Handles) : Nat → Bool → Bool → Properties → Source →
    Option (Tagged × Source)
  | 0, _, _, _, _ => none
  | n + 1, block, indentless, p, s =>
    let asList (r : Option (List Tagged × Source)) : Option (Tagged × Source) :=
      r.bind fun (l, s) => (listOf l).map fun v => (v, s)
    let asTable (r : Option (List Tagged × Source)) : Option (Tagged × Source) :=
      r.bind fun (l, s) => (tableOf l).map fun v => (v, s)
    let other : Option (Tagged × Source) :=
      if p.tag.isSome || p.anchor.isSome then
        (scalarValue true p.tag "").map fun v => (v, s)
      else none
    match s.next? with
    | some .item => if indentless then asList (readIndentless handles n s) else other
    | some (.scalar plain text) => (scalarValue plain p.tag text).map fun v => (v, s.skip)
    | some .flowListStart => asList (readFlowList handles n true s.skip)
    | some .flowTableStart => asTable (readFlowTable handles n true s.skip)
    | some .listStart => if block then asList (readList handles n s.skip) else other
    | some .tableStart => if block then asTable (readTable handles n s.skip) else other
    | _ => other

/-- Read the items of a list that is not indented. -/
def readIndentless (handles : Handles) : Nat → Source → Option (List Tagged × Source)
  | 0, _ => none
  | n + 1, s =>
    if s.next? ≠ some .item then some ([], s)
    else do
      let s := s.skip
      let (v, s) ←
        if s.next? == some .item || endsBlockValue s.next? then some (missing, s)
        else readNode handles n true false s
      let (l, s) ← readIndentless handles n s
      some (v :: l, s)

/-- Read the items of a list. -/
def readList (handles : Handles) : Nat → Source → Option (List Tagged × Source)
  | 0, _ => none
  | n + 1, s =>
    match s.next? with
    | some .blockEnd => some ([], s.skip)
    | some .item => do
      let s := s.skip
      let (v, s) ← if endsItem s.next? then some (missing, s) else readNode handles n true false s
      let (l, s) ← readList handles n s
      some (v :: l, s)
    | _ => none

/-- Read the keys and values of a table. -/
def readTable (handles : Handles) : Nat → Source → Option (List Tagged × Source)
  | 0, _ => none
  | n + 1, s =>
    let key : Option (Tagged × Source) :=
      match s.next? with
      | some .key =>
        if endsBlockValue s.skip.next? then some (missing, s.skip)
        else readNode handles n true true s.skip
      | some .value => some (missing, s)
      | _ => none
    match s.next? with
    | some .blockEnd => some ([], s.skip)
    | _ => do
      let (k, s) ← key
      let (v, s) ←
        if s.next? ≠ some .value || endsBlockValue s.skip.next? then
          some (missing, if s.next? == some .value then s.skip else s)
        else readNode handles n true true s.skip
      let (l, s) ← readTable handles n s
      some (k :: v :: l, s)

/-- Read the items of a list in brackets. -/
def readFlowList (handles : Handles) : Nat → Bool → Source → Option (List Tagged × Source)
  | 0, _, _ => none
  | n + 1, first, s =>
    if s.next? == some .flowListEnd then some ([], s.skip)
    else if !first && s.next? ≠ some .comma then none
    else
      let s := if first then s else s.skip
      if s.next? == some .flowListEnd then some ([], s.skip)
      else do
        let (v, s) ←
          if s.next? == some .key then readPair handles n s.skip
          else readNode handles n false false s
        let (l, s) ← readFlowList handles n false s
        some (v :: l, s)

/-- Read a key and its value, which are a table in a list. -/
def readPair (handles : Handles) : Nat → Source → Option (Tagged × Source)
  | 0, _ => none
  | n + 1, s => do
    let (k, s) ←
      if s.next? == some .value || endsFlowValue .flowListEnd s.next? then some (missing, s.skip)
      else readNode handles n false false s
    let (v, s) ←
      if s.next? ≠ some .value then some (missing, s)
      else if endsFlowValue .flowListEnd s.skip.next? then some (missing, s.skip)
      else readNode handles n false false s.skip
    (tableOf [k, v]).map fun t => (t, s)

/-- Read the keys and values of a table in braces. -/
def readFlowTable (handles : Handles) : Nat → Bool → Source → Option (List Tagged × Source)
  | 0, _, _ => none
  | n + 1, first, s =>
    if s.next? == some .flowTableEnd then some ([], s.skip)
    else if !first && s.next? ≠ some .comma then none
    else
      let s := if first then s else s.skip
      match s.next? with
      | some .flowTableEnd => some ([], s.skip)
      | t => do
        let named := t == some .key || t == some .value
        let s := if t == some .key then s.skip else s
        let (k, s) ←
          if named && (s.next? == some .value || endsFlowValue .flowTableEnd s.next?) then
            some (missing, s)
          else readNode handles n false false s
        let (v, s) ←
          if !named || s.next? ≠ some .value then some (missing, s)
          else if endsFlowValue .flowTableEnd s.skip.next? then some (missing, s.skip)
          else readNode handles n false false s.skip
        let (l, s) ← readFlowTable handles n false s
        some (k :: v :: l, s)

end

/-! ## Documents -/

/-- The directives at the beginning of some tokens, and what follows them. -/
def splitDirectives : List Token → List Directive × List Token
  | .directive d :: rest =>
    let (ds, rest) := splitDirectives rest
    (d :: ds, rest)
  | ts => ([], ts)

/-- Is this the mark for the end of a document? -/
def isDocumentEnd (t : Token) : Bool := t == .documentEnd

/-- The value of the only document of some tokens; none without a document. -/
def readDocument (tokens : List Token) : Option (Option Tagged) :=
  match tokens.dropWhile isDocumentEnd with
  | [] => some none
  | tokens => do
    let (ds, rest) := splitDirectives tokens
    let handles ← Handles.ofDirectives false [] ds
    let rest ←
      match rest with
      | .documentStart :: rest => some rest
      | rest => if ds.isEmpty then some rest else none
    let (v, s) ← readNode handles (4 * rest.length + 4) true false { tokens := rest }
    if (s.tokens.dropWhile isDocumentEnd).isEmpty then some (some v) else none

/-- Read a text as an object; one without a document has no members. -/
def parse? (text : String) : Option (List (String × Json)) := do
  match ← readDocument (← tokens? text) with
  | none => some []
  | some (some (.object members)) => some members
  | some _ => none

end Vigil.Yaml
