import Vigil.Finding.Raw
import Vigil.Json.Parser

/-!
# Wrapper output

A wrapper prints its records as JSON: a list, or an object whose one member `findings` is a list.
Nothing but blanks stands for the empty list.  Each item becomes one raw record, whether or not it
can be decoded.
-/

namespace Vigil.Wrapper

open Json (Tree Failure)

/-- Why an output could not be read. -/
inductive Error where
  /-- The output is not JSON; the text is kept to tell the position. -/
  | malformed (failure : Failure) (text : List Char)
  /-- The output is neither a list nor an object with one list of findings. -/
  | shape
deriving DecidableEq, Repr

/-- The wording of an error. -/
def Error.message : Error → String
  | malformed failure text => s!"invalid wrapper output: {failure.message text}"
  | shape =>
    "invalid wrapper output: data did not match any variant of untagged enum WrapperOutput"

/-- The key of the list of records. -/
def findingsKey : String := "findings"

/-- The records of a value of one of the two shapes. -/
def records? : Json → Option (List Json)
  | .list items => some items
  | .object members =>
    match members.filter (·.1 == findingsKey) with
    | [(_, .list items)] => some items
    | _ => none
  | _ => none

/-- The records of a text without outer blanks. -/
def readRecords (text : List Char) : Except Error (List Json) :=
  match Json.value Json.Reading.exact Json.depthLimit text with
  | .error e => .error (.malformed e text)
  | .ok (v, rest) =>
    match records? v with
    | none => .error .shape
    | some items =>
      match Json.finish rest with
      | .error e => .error (.malformed e text)
      | .ok _ => .ok items

/-- The raw records of an output. -/
def parse (output : String) : Except Error (List (RawFinding Float)) :=
  match Text.trimChars output.toList with
  | [] => .ok []
  | text => (readRecords text).map fun items => items.map fun v => RawFinding.ofJson v.tidy

end Vigil.Wrapper
