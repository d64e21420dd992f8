import Vigil.Decimal.Reading
import Vigil.Json.Document
import Vigil.Quantity
import Vigil.Text.Lowercase

/-!
# Settings

A setting is a value from a configuration file or from the environment.  The environment knows
texts only, so a setting is converted to what is expected where that makes sense: words and numbers
serve as truth values, and numbers may be written as texts.  Names are compared without regard to
case.
-/

namespace Vigil

/-- A configured value. -/
structure Setting where
  json : Json
deriving Repr, Inhabited

namespace Setting

open Document (Error Found)

/-- A setting of the wrong type. -/
def wrongType {α : Type} (s : Setting) (expected : String) : Except Error α :=
  .error (.invalidType (Json.found s.json) expected)

/-- Words for true. -/
def yesWords : List String := ["1", "true", "on", "yes"]

/-- Words for false. -/
def noWords : List String := ["0", "false", "off", "no"]

/-- The truth value that a word stands for. -/
def ofWord? (s : String) : Option Bool :=
  let w := Text.lowercase s
  if yesWords.contains w then some true else if noWords.contains w then some false else none

/-- A truth value. -/
def asBool (s : Setting) : Except Error Bool :=
  match s.json with
  | .bool b => .ok b
  | .number (.whole n) => .ok (n != 0)
  | .number (.real x) => .ok (x != 0.0)
  | .text t =>
    match ofWord? t with
    | some b => .ok b
    | none => s.wrongType "a boolean"
  | _ => s.wrongType "a boolean"

/-- The whole number that a text stands for. -/
def unsignedOfText? (t : String) : Option Nat :=
  match ofWord? t with
  | some b => some b.toNat
  | none =>
    match t.toList with
    | '-' :: _ => none
    | cs => (Decimal.readInt? cs).bind fun n => if n < UInt64.size then some n.toNat else none

/-- A double rounded to the nearest whole number of 64 bits, a half going away from zero. -/
def roundedWord (x : Float) : Nat :=
  match Decimal.shape x with
  | .notANumber => 0
  | .infinite negative => if negative then 0 else UInt64.size - 1
  | .finite negative m e =>
    if negative then 0
    else
      let (n, d) := Decimal.ratio m e 0
      min ((2 * n + d) / (2 * d)) (UInt64.size - 1)

/-- The whole number of 64 bits that a setting stands for. -/
def word? (s : Setting) : Option Nat :=
  match s.json with
  | .bool b => some b.toNat
  | .number (.whole n) => if 0 ≤ n ∧ n < UInt64.size then some n.toNat else none
  | .number (.real x) => some (roundedWord x)
  | .text t => unsignedOfText? t
  | _ => none

/-- A whole number, which must fit into the bits. -/
def asUnsigned (bits : Nat) (expected : String) (s : Setting) : Except Error Nat :=
  match s.word? with
  | some n => if n < Nat.pow 2 bits then .ok n else s.wrongType expected
  | none => s.wrongType expected

/-- A double. -/
def asReal (s : Setting) : Except Error Float :=
  match s.json with
  | .bool b => .ok (if b then 1.0 else 0.0)
  | .number (.whole n) => .ok (Float.ofInt n)
  | .number (.real x) => .ok x
  | .text t =>
    match Text.lowercase t with
    | "true" | "on" | "yes" => .ok 1.0
    | "false" | "off" | "no" => .ok 0.0
    | _ =>
      match Decimal.readFloat? t.toList with
      | some x => .ok x
      | none => s.wrongType "f64"
  | _ => s.wrongType "f64"

/-- A text. -/
def asText (s : Setting) : Except Error String :=
  match s.json with
  | .text t => .ok t
  | .bool b => .ok (toString b)
  | .number (.whole n) => .ok (toString n)
  | .number (.real x) => .ok (Decimal.plainText x)
  | _ => s.wrongType "a string"

/-- One of the given names, in any case. -/
def asVariant (names : List String) (s : Setting) : Except Error String :=
  let find (t : String) : Except Error String :=
    match names.find? fun n => Text.lowercase n == Text.lowercase t with
    | some n => .ok n
    | none => .error (.unknownVariant t names)
  match s.json with
  | .text t => find t
  | .object [(key, _)] => find key
  | _ => s.wrongType "string or map"

instance : Document Setting where
  isNull s := Document.isNull s.json
  bool := asBool
  unsigned := asUnsigned
  real := asReal
  single s := (asReal s).map Decimal.single
  text := asText
  items s := (Json.asItems s.json).map fun l => l.map Setting.mk
  members s := (Json.asMembers s.json).map fun l => l.map fun m => (m.1, ⟨m.2⟩)
  variant := asVariant
  fields expected s := (Json.asFields expected s.json).map fun
    | .inl members => .inl (members.map fun m => (m.1, ⟨m.2⟩))
    | .inr values => .inr (values.map Setting.mk)
  surplusAllowed := true
  plain := Setting.json

end Setting

end Vigil
