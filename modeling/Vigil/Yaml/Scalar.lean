import Vigil.Decimal.Reading
import Vigil.Json.Tree
import Vigil.Yaml.Tag

/-!
# YAML: the values of scalars

A scalar without quotes is a number, a truth value or null if it is written like one, and a text
otherwise.  A tag of the common types decides what it is, and the scalar may fail to be that.
-/

namespace Vigil.Yaml

/-- A value, unless it is not of the type that its tag names. -/
abbrev Tagged := Option Json

/-- The words for numbers that are not finite. -/
def realWords : List String :=
  [".inf", ".Inf", ".INF", "+.inf", "+.Inf", "+.INF", "-.inf", "-.Inf", "-.INF", ".nan", ".NaN",
    ".NAN"]

/-- The whole number that digits in some base denote, with a sign before them. -/
def basedInt? (base : Nat) (s : List Char) : Option Int :=
  let (negative, ds) := Decimal.splitSign s
  let digit? (c : Char) : Option Nat := (Text.hexValue? c).filter (· < base)
  match ds.mapM digit? with
  | none | some [] => none
  | some vs =>
    let n : Int := (vs.foldl (fun a v => a * base + v) 0 : Nat)
    some (if negative then -n else n)

/-- The whole number that a scalar denotes by its first characters. -/
def markedInt? (s : List Char) : Option Int :=
  let read :=
    match s with
    | '0' :: 'x' :: ds => basedInt? 16 ds
    | '0' :: 'o' :: ds => basedInt? 8 ds
    | '+' :: ds => Decimal.readInt? ds
    | _ => none
  read.filter Decimal.isSigned64

/-- Is the scalar written like a number with a fraction or an exponent? -/
def isReal (s : String) : Bool :=
  realWords.contains s || (Decimal.readFloat? s.toList).isSome

/-- The number of a scalar; the words for numbers that are not finite cannot be read. -/
def real? (s : String) : Option Json :=
  if realWords.contains s then none
  else (Decimal.readFloat? s.toList).map fun x => .number (.real x)

/-- The value of a scalar without quotes and tag; none if it cannot be read. -/
def plainValue (s : String) : Option Json :=
  match markedInt? s.toList with
  | some n => some (.number (.whole n))
  | none =>
    match s with
    | "" | "~" | "null" => some .null
    | "true" => some (.bool true)
    | "false" => some (.bool false)
    | s =>
      match (Decimal.readInt? s.toList).filter Decimal.isSigned64 with
      | some n => some (.number (.whole n))
      | none => if isReal s then real? s else some (.text s)

/-- What the handle of the common types stands for. -/
def commonHandle : String := "tag:yaml.org,2002:"

/-- The value of a scalar without quotes that has a tag; none if it cannot be read. -/
def taggedValue (t : WrittenTag) (s : String) : Option Tagged :=
  if t.handle ≠ commonHandle then some (some (.text s))
  else
    match t.suffix with
    | "bool" =>
      some (if s == "true" then some (.bool true) else if s == "false" then some (.bool false)
        else none)
    | "int" =>
      some (((Decimal.readInt? s.toList).filter Decimal.isSigned64).map fun n =>
        .number (.whole n))
    | "float" => if isReal s then (real? s).map some else some none
    | "null" => some (if s == "~" || s == "null" then some .null else none)
    | _ => some (some (.text s))

/-- The value of a scalar; none if it cannot be read. -/
def scalarValue (plain : Bool) (t : Option WrittenTag) (s : String) : Option Tagged :=
  if !plain then some (some (.text s))
  else
    match t with
    | none => (plainValue s).map some
    | some t => taggedValue t s

end Vigil.Yaml
