import Vigil.Finding.Basic
import Vigil.Json.Document

/-!
# Raw records

An agent reports records in which every field may be missing.  A record that cannot be decoded is
kept as a placeholder with the reason, so that the positions in its batch stay what they are.
-/

namespace Vigil

/-- The fields of a record as an agent reported them. -/
structure RawFields (ν : Type) where
  findingType : Option String := none
  severity : Option String := none
  confidence : Option ν := none
  file : Option String := none
  line : Option UInt32 := none
  endLine : Option UInt32 := none
  function : Option String := none
  description : Option String := none
deriving DecidableEq, Repr, Inhabited

/-- A reported record, or the reason why there is none. -/
inductive RawFinding (ν : Type) where
  | record (fields : RawFields ν)
  | undecodable (reason : String)
deriving DecidableEq, Repr, Inhabited

namespace RawFinding

open Document

/-- How a record is decoded.  Two fields go by a second name. -/
def fields : Record Json (RawFields Float) :=
  RawFields.mk
    <$> Record.defaultedOptional "type" Document.text ["finding_type"]
    <*> Record.defaultedOptional "severity" Document.text
    <*> Record.defaultedOptional "confidence" Document.real
    <*> Record.defaultedOptional "file" Document.text
    <*> Record.defaultedOptional "line" Document.word32 ["start_line"]
    <*> Record.defaultedOptional "end_line" Document.word32
    <*> Record.defaultedOptional "function" Document.text
    <*> Record.defaultedOptional "description" Document.text

/-- The record that a JSON value describes, or a placeholder. -/
def ofJson (v : Json) : RawFinding Float :=
  match fields.decode "RawFinding" v with
  | .ok r => .record r
  | .error e => .undecodable s!"undecodable record: {e.message}"

end RawFinding

end Vigil
