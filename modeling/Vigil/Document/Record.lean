import Vigil.Decimal.Shortest
import Vigil.Json.Tree
import Vigil.Text.Char

/-!
# Decoding records

A document is a dynamic value: a JSON value, or a setting read from a configuration file.  The
class `Document` says how such a value is read as a number, a text or a container; a `Record`
lists the fields of a structure and builds it from them, so that one description serves both kinds
of document.

A document gives a record by name or by position.  By name, the fields present are examined in the
order of the document and the first failure is reported; then absent fields are replaced by their
defaults or reported.  By position, only fields with a default may be missing at the end.
-/

namespace Vigil.Document

/-!
## Why a value could not be decoded

Decoding turns a dynamic value into one of the library's types.  When that fails, the error names
what was found and what was expected there.
-/

/-- What was found where something else was expected. -/
inductive Found where
  | null
  | bool (b : Bool)
  | integer (n : Int)
  | real (x : Float)
  | text (s : String)
  | sequence
  | map
deriving DecidableEq, Repr

/-- The wording of what was found. -/
def Found.message : Found → String
  | null => "null"
  | bool b => s!"boolean `{b}`"
  | integer n => s!"integer `{n}`"
  | real x => s!"floating point `{Decimal.floatText x}`"
  | text s => s!"string {Text.quoted s}"
  | sequence => "sequence"
  | map => "map"

/-- Why a value could not be decoded. -/
inductive Error where
  | missingField (name : String)
  | duplicateField (name : String)
  | unknownVariant (name : String) (expected : List String)
  | invalidType (found : Found) (expected : String)
  | invalidValue (found : Found) (expected : String)
  | invalidLength (length : Nat) (expected : String)
deriving DecidableEq, Repr

/-- A list of names as alternatives. -/
def alternatives : List String → String
  | [] => "there are no variants"
  | [a] => s!"expected `{a}`"
  | [a, b] => s!"expected `{a}` or `{b}`"
  | names => "expected one of " ++ ", ".intercalate (names.map fun a => s!"`{a}`")

/-- The wording of an error. -/
def Error.message : Error → String
  | missingField name => s!"missing field `{name}`"
  | duplicateField name => s!"duplicate field `{name}`"
  | unknownVariant name [] => s!"unknown variant `{name}`, there are no variants"
  | unknownVariant name expected => s!"unknown variant `{name}`, {alternatives expected}"
  | invalidType found expected => s!"invalid type: {found.message}, expected {expected}"
  | invalidValue found expected => s!"invalid value: {found.message}, expected {expected}"
  | invalidLength n expected => s!"invalid length {n}, expected {expected}"

end Vigil.Document

namespace Vigil

/-- A dynamic value that structures can be decoded from. -/
class Document (δ : Type) where
  /-- Is it the absent value? -/
  isNull : δ → Bool
  bool : δ → Except Document.Error Bool
  /-- A whole number of the given number of bits; the text names what is expected. -/
  unsigned : (bits : Nat) → (expected : String) → δ → Except Document.Error Nat
  real : δ → Except Document.Error Float
  /-- A number rounded to single precision. -/
  single : δ → Except Document.Error Float
  text : δ → Except Document.Error String
  items : δ → Except Document.Error (List δ)
  members : δ → Except Document.Error (List (String × δ))
  /-- One of the given names. -/
  variant : (names : List String) → δ → Except Document.Error String
  /-- The fields of a record, by name or by position; the text names what is expected. -/
  fields : (expected : String) → δ → Except Document.Error (List (String × δ) ⊕ List δ)
  /-- May a record by position hold more values than it has fields? -/
  surplusAllowed : Bool
  /-- The value as it is written, to be read without any conversion. -/
  plain : δ → Json

namespace Document

/-- How to read one type from a document. -/
abbrev Decoder (δ α : Type) := δ → Except Error α

variable {δ : Type}

/-! ## Fields -/

/-- A field of a record: its name, other names it may go by, whether it has a default, and whether
a value for it is acceptable. -/
structure Field (δ : Type) where
  name : String
  aliases : List String
  defaulted : Bool
  check : δ → Except Error Unit

/-- Does the field go by this name? -/
def Field.answersTo (f : Field δ) (key : String) : Bool :=
  f.name == key || f.aliases.contains key

/-- The fields of a structure, and how it is built from the values found for them. -/
structure Record (δ α : Type) where
  fields : List (Field δ)
  build : (String → Option δ) → Except Error α

namespace Record

/-- A record without fields. -/
protected def pure {α : Type} (a : α) : Record δ α :=
  ⟨[], fun _ => .ok a⟩

/-- Two records beside each other; the fields of the first come first. -/
protected def seq {α β : Type} (f : Record δ (α → β)) (x : Unit → Record δ α) : Record δ β :=
  ⟨f.fields ++ (x ()).fields, fun look =>
    match f.build look with
    | .error e => .error e
    | .ok g =>
      match (x ()).build look with
      | .error e => .error e
      | .ok a => .ok (g a)⟩

instance : Applicative (Record δ) where
  pure := Record.pure
  seq := Record.seq

/-- A field that must be present. -/
def required {α : Type} (name : String) (dec : Decoder δ α) (aliases : List String := []) :
    Record δ α :=
  ⟨[⟨name, aliases, false, fun v => (dec v).map fun _ => ()⟩], fun look =>
    match look name with
    | none => .error (.missingField name)
    | some v => dec v⟩

/-- A field that may be absent, and then has the given value. -/
def defaulted {α : Type} (name : String) (dec : Decoder δ α) (default : α) : Record δ α :=
  ⟨[⟨name, [], true, fun v => (dec v).map fun _ => ()⟩], fun look =>
    match look name with
    | none => .ok default
    | some v => dec v⟩

/-- A record that is read from what becomes of a document. -/
def via {ε α : Type} (view : δ → ε) (r : Record ε α) : Record δ α :=
  ⟨r.fields.map fun f => ⟨f.name, f.aliases, f.defaulted, fun v => f.check (view v)⟩,
    fun look => r.build fun name => (look name).map view⟩

end Record

/-- A value that may be null. -/
def nullable {α : Type} [Document δ] (dec : Decoder δ α) : Decoder δ (Option α) :=
  fun v => if isNull v then .ok none else (dec v).map some

/-- A field that may be absent or null. -/
def Record.optional {α : Type} [Document δ] (name : String) (dec : Decoder δ α)
    (aliases : List String := []) : Record δ (Option α) :=
  ⟨[⟨name, aliases, false, fun v => (nullable dec v).map fun _ => ()⟩], fun look =>
    match look name with
    | none => .ok none
    | some v => nullable dec v⟩

/-- A field that may be absent or null, also at the end of a record by position. -/
def Record.defaultedOptional {α : Type} [Document δ] (name : String) (dec : Decoder δ α)
    (aliases : List String := []) : Record δ (Option α) :=
  ⟨[⟨name, aliases, true, fun v => (nullable dec v).map fun _ => ()⟩], fun look =>
    match look name with
    | none => .ok none
    | some v => nullable dec v⟩

/-! ## Whole records -/

/-- Examine the fields that are present, in the order of the document.  `seen` holds the names of
those already met. -/
def examine (fields : List (Field δ)) : List String → List (String × δ) → Except Error Unit
  | _, [] => .ok ()
  | seen, (key, v) :: rest =>
    match fields.find? (·.answersTo key) with
    | none => examine fields seen rest
    | some f =>
      if seen.contains f.name then .error (.duplicateField f.name)
      else
        match f.check v with
        | .error e => .error e
        | .ok _ => examine fields (f.name :: seen) rest

/-- The value given for a field under any of its names. -/
def valueOf (fields : List (Field δ)) (members : List (String × δ)) (name : String) : Option δ :=
  match fields.find? (·.name == name) with
  | none => none
  | some f => (members.find? fun m => f.answersTo m.1).map (·.2)

/-- Pair fields with values by position; the first field that has neither a value nor a default is
an error. -/
def byPosition (expected : String) : Nat → List (Field δ) → List δ →
    Except Error (List (String × δ))
  | _, [], _ => .ok []
  | i, f :: fs, [] =>
    if f.defaulted then byPosition expected (i + 1) fs [] else .error (.invalidLength i expected)
  | i, f :: fs, v :: vs =>
    match f.check v with
    | .error e => .error e
    | .ok _ => (byPosition expected (i + 1) fs vs).map ((f.name, v) :: ·)

/-- What a record by position with too few values should have been. -/
def lengthText (name : String) (count : Nat) : String :=
  if count == 1 then s!"struct {name} with 1 element" else s!"struct {name} with {count} elements"

/-- Decode a record by name or by position. -/
def Record.decode {α : Type} [Document δ] (name : String) (r : Record δ α) : Decoder δ α :=
  fun v =>
    match Document.fields s!"struct {name}" v with
    | .error e => .error e
    | .ok (.inl members) =>
      match examine r.fields [] members with
      | .error e => .error e
      | .ok _ => r.build (valueOf r.fields members)
    | .ok (.inr values) =>
      match byPosition (lengthText name r.fields.length) 0 r.fields values with
      | .error e => .error e
      | .ok members =>
        if r.fields.length < values.length && !surplusAllowed δ then
          .error (.invalidLength values.length "fewer elements in array")
        else r.build (valueOf r.fields members)

/-- Decode a record by name only. -/
def Record.decodeByName {α : Type} [Document δ] (name : String) (r : Record δ α) : Decoder δ α :=
  fun v =>
    match Document.fields s!"struct {name}" v with
    | .error e => .error e
    | .ok (.inl members) =>
      match examine r.fields [] members with
      | .error e => .error e
      | .ok _ => r.build (valueOf r.fields members)
    | .ok (.inr _) => .error (.invalidType .sequence s!"struct {name}")

/-! ## Lists, maps and names -/

/-- Decode every value of a list. -/
def decodeAll {α : Type} (dec : Decoder δ α) : List δ → Except Error (List α)
  | [] => .ok []
  | v :: vs =>
    match dec v with
    | .error e => .error e
    | .ok a => (decodeAll dec vs).map (a :: ·)

/-- A list of values. -/
def listOf {α : Type} [Document δ] (dec : Decoder δ α) : Decoder δ (List α) :=
  fun v => (items v).bind (decodeAll dec)

/-- Decode the value of every member. -/
def decodeMembers {α : Type} (dec : Decoder δ α) :
    List (String × δ) → Except Error (List (String × α))
  | [] => .ok []
  | (k, v) :: vs =>
    match dec v with
    | .error e => .error e
    | .ok a => (decodeMembers dec vs).map ((k, a) :: ·)

/-- A map from names to values. -/
def mapOf {α : Type} [Document δ] (dec : Decoder δ α) : Decoder δ (List (String × α)) :=
  fun v => (members v).bind (decodeMembers dec)

/-- One of several named values. -/
def oneOf {α : Type} [Document δ] (table : List (String × α)) : Decoder δ α :=
  fun v =>
    match variant (table.map (·.1)) v with
    | .error e => .error e
    | .ok name =>
      match table.find? (·.1 == name) with
      | some (_, a) => .ok a
      | none => .error (.unknownVariant name (table.map (·.1)))

/-! ## Words -/

/-- A whole number of 32 bits. -/
def word32 [Document δ] : Decoder δ UInt32 :=
  fun v => (unsigned 32 "u32" v).map UInt32.ofNat

/-- A whole number of 64 bits; the text names what is expected. -/
def word64 [Document δ] (expected : String) : Decoder δ UInt64 :=
  fun v => (unsigned 64 expected v).map UInt64.ofNat

end Document

end Vigil
