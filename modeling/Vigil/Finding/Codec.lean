import Vigil.Finding.Correlate
import Vigil.Finding.Raw

/-!
# Findings as JSON

How locations, classifications, findings and correlation parameters are written as JSON values and
read from them.  What is written is read back unchanged, as long as its numbers are finite.
-/

namespace Vigil

open Document

/-! ## Building objects -/

namespace Json

/-- A member that is left out when there is no value. -/
def optionalMember (key : String) : Option Json → List (String × Json)
  | none => []
  | some v => [(key, v)]

/-- A value, or null. -/
def orNull : Option Json → Json
  | none => .null
  | some v => v

/-- A list of texts. -/
def texts (l : List String) : Json :=
  .list (l.map Tree.text)

end Json

/-! ## Severities and states -/

/-- A severity by its name. -/
def Severity.toJson (s : Severity) : Json := .text s.name

/-- A severity is read from its exact name. -/
def Severity.decoder {δ : Type} [Document δ] : Decoder δ Severity := oneOf table

/-- A state by its name. -/
def TriageStatus.toJson (s : TriageStatus) : Json := .text s.name

/-- A state is read from its exact name. -/
def TriageStatus.decoder {δ : Type} [Document δ] : Decoder δ TriageStatus := oneOf table

/-! ## Locations -/

namespace Location

/-- A location as an object; the function is left out if there is none. -/
def toJson (l : Location) : Json :=
  .object <|
    [("end_line", Json.word32 l.endLine), ("file", .text l.file)] ++
    Json.optionalMember "function" (l.function.map Json.Tree.text) ++
    [("start_line", Json.word32 l.startLine)]

/-- The fields of a location. -/
def fields : Record Json Location :=
  Location.mk
    <$> Record.required "file" Document.text
    <*> Record.required "start_line" Document.word32
    <*> Record.required "end_line" Document.word32
    <*> Record.defaultedOptional "function" Document.text

/-- Read a location. -/
def decoder : Decoder Json Location := fields.decode "Location"

end Location

/-! ## Classifications -/

namespace Classification

/-- A classification as an object; a missing model is null. -/
def toJson (c : Classification Float) : Json :=
  .object
    [("confidence", Json.float c.confidence), ("cost", Json.float c.cost),
      ("model", Json.orNull (c.model.map Json.Tree.text)), ("provider", .text c.provider),
      ("rationale", .text c.rationale), ("true_positive", .bool c.truePositive)]

/-- The fields of a classification. -/
def fields : Record Json (Classification Float) :=
  Classification.mk
    <$> Record.required "true_positive" Document.bool
    <*> Record.required "provider" Document.text
    <*> Record.optional "model" Document.text
    <*> Record.required "confidence" Document.real
    <*> Record.required "rationale" Document.text
    <*> Record.required "cost" Document.real

/-- Read a classification. -/
def decoder : Decoder Json (Classification Float) := fields.decode "Classification"

end Classification

/-! ## Findings -/

namespace Finding

/-- A finding as an object; what triage has not set is left out. -/
def toJson (f : Finding Float) : Json :=
  .object <|
    Json.optionalMember "adjusted_severity" (f.adjustedSeverity.map Severity.toJson) ++
    [("agents", Json.texts f.agents.toList)] ++
    Json.optionalMember "classification" (f.classification.map Classification.toJson) ++
    [("confidence", Json.float f.confidence), ("description", .text f.description),
      ("finding_type", .text f.findingType), ("id", .text f.id),
      ("location", f.location.toJson), ("severity", f.severity.toJson),
      ("triage_status", f.status.toJson)]

/-- The fields of a finding. -/
def fields : Record Json (Finding Float) :=
  Finding.mk
    <$> Record.required "id" Document.text
    <*> Record.required "finding_type" Document.text
    <*> Record.required "severity" Severity.decoder
    <*> Record.required "confidence" Document.real
    <*> Record.required "location" Location.decoder
    <*> Record.required "description" Document.text
    <*> Record.required "agents" (fun v => (listOf Document.text v).map OrderedSet.ofList)
    <*> Record.required "triage_status" TriageStatus.decoder
    <*> Record.defaultedOptional "adjusted_severity" Severity.decoder
    <*> Record.defaultedOptional "classification" Classification.decoder

/-- Read a finding. -/
def decoder : Decoder Json (Finding Float) := fields.decode "Finding"

end Finding

/-! ## Raw records -/

/-- The fields of a record as an object; what is missing is null. -/
def RawFields.toJson (r : RawFields Float) : Json :=
  .object
    [("confidence", Json.orNull (r.confidence.map Json.float)),
      ("description", Json.orNull (r.description.map Json.Tree.text)),
      ("end_line", Json.orNull (r.endLine.map Json.word32)),
      ("file", Json.orNull (r.file.map Json.Tree.text)),
      ("function", Json.orNull (r.function.map Json.Tree.text)),
      ("line", Json.orNull (r.line.map Json.word32)),
      ("severity", Json.orNull (r.severity.map Json.Tree.text)),
      ("type", Json.orNull (r.findingType.map Json.Tree.text))]

/-! ## Correlation -/

namespace CorrelationConfig

/-- The parameters of correlation as members of an object. -/
def members (c : CorrelationConfig Float) : List (String × Json) :=
  [("line_tolerance", Json.word32 c.lineTolerance), ("multi_agent_boost", Json.float c.multiAgentBoost),
    ("two_agent_boost", Json.float c.twoAgentBoost)]

/-- The fields of the parameters; each has a default. -/
def fields : Record Json (CorrelationConfig Float) :=
  CorrelationConfig.mk
    <$> Record.defaulted "line_tolerance" Document.word32 (standard (ν := Float)).lineTolerance
    <*> Record.defaulted "two_agent_boost" Document.real standard.twoAgentBoost
    <*> Record.defaulted "multi_agent_boost" Document.real standard.multiAgentBoost

/-- Read the parameters of correlation. -/
def decoder : Decoder Json (CorrelationConfig Float) := fields.decode "CorrelationConfig"

end CorrelationConfig

/-- The statistics as an object. -/
def CorrelationStats.toJson (s : CorrelationStats Float) : Json :=
  .object
    [("dedup_rate", Json.float s.dedupRate), ("input", Json.nat s.input),
      ("merged_groups", Json.nat s.mergedGroups), ("output", Json.nat s.output)]

end Vigil
