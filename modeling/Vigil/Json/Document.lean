import Vigil.Decimal.Binary
import Vigil.Document.Record
import Vigil.Json.Tree

/-!
# JSON values as documents

How JSON values are read as the library's types.  A whole number is accepted for a double, a
double never for a whole number; a name may also be given as an object with one member whose value
is null.
-/

namespace Vigil.Json

open Document (Error Found)

/-- What a JSON value is called when another was expected. -/
def found : Json → Found
  | .null => .null
  | .bool b => .bool b
  | .number (.whole n) => .integer n
  | .number (.real x) => .real x
  | .text s => .text s
  | .list _ => .sequence
  | .object _ => .map

/-- A value of the wrong type. -/
def wrongType {α : Type} (v : Json) (expected : String) : Except Error α :=
  .error (.invalidType (found v) expected)

/-- A truth value. -/
def asBool : Json → Except Error Bool
  | .bool b => .ok b
  | v => wrongType v "a boolean"

/-- A whole number of some bits. -/
def asUnsigned (bits : Nat) (expected : String) : Json → Except Error Nat
  | .number (.whole n) =>
    if 0 ≤ n ∧ n < Nat.pow 2 bits then .ok n.toNat
    else .error (.invalidValue (.integer n) expected)
  | v => wrongType v expected

/-- A double. -/
def asReal : Json → Except Error Float
  | .number (.whole n) => .ok (Float.ofInt n)
  | .number (.real x) => .ok x
  | v => wrongType v "f64"

/-- A number in single precision. -/
def asSingle : Json → Except Error Float
  | .number (.whole n) => .ok (Decimal.singleOfInt n)
  | .number (.real x) => .ok (Decimal.single x)
  | v => wrongType v "f32"

/-- A text. -/
def asText : Json → Except Error String
  | .text s => .ok s
  | v => wrongType v "a string"

/-- The items of a list. -/
def asItems : Json → Except Error (List Json)
  | .list items => .ok items
  | v => wrongType v "a sequence"

/-- The members of an object. -/
def asMembers : Json → Except Error (List (String × Json))
  | .object members => .ok members
  | v => wrongType v "a map"

/-- One of the given names. -/
def asVariant (names : List String) : Json → Except Error String
  | .text s => if names.contains s then .ok s else .error (.unknownVariant s names)
  | .object [(key, payload)] =>
    if names.contains key then
      match payload with
      | .null => .ok key
      | v => wrongType v "unit"
    else .error (.unknownVariant key names)
  | .object _ => .error (.invalidValue .map "map with a single key")
  | v => wrongType v "string or map"

/-- The fields of a record. -/
def asFields (expected : String) : Json → Except Error (List (String × Json) ⊕ List Json)
  | .object members => .ok (.inl members)
  | .list items => .ok (.inr items)
  | v => wrongType v expected

instance : Document Json where
  isNull
    | .null => true
    | _ => false
  bool := asBool
  unsigned := asUnsigned
  real := asReal
  single := asSingle
  text := asText
  items := asItems
  members := asMembers
  variant := asVariant
  fields := asFields
  surplusAllowed := false
  plain := id

end Vigil.Json
