import Vigil.Agent.Registry
import Vigil.Json.Document

/-!
# Agents as JSON

How capabilities, descriptors, targets and selection criteria are written and read.
-/

namespace Vigil

open Document

/-- Read a capability. -/
def Capability.decoder {δ : Type} [Document δ] : Decoder δ Capability := oneOf table

/-- Read a cost class. -/
def CostClass.decoder {δ : Type} [Document δ] : Decoder δ CostClass := oneOf table

/-- Read a speed class. -/
def SpeedClass.decoder {δ : Type} [Document δ] : Decoder δ SpeedClass := oneOf table

/-- Capabilities by their names. -/
def Capability.listToJson (l : List Capability) : Json :=
  .list (l.map fun c => .text c.name)

namespace AgentDescriptor

/-- A descriptor as an object. -/
def toJson (d : AgentDescriptor) : Json :=
  .object
    [("available", .bool d.available),
      ("capabilities", Capability.listToJson d.capabilities.toList),
      ("cost", .text d.cost.name),
      ("languages", .list (d.languages.map Json.Tree.text)),
      ("name", .text d.name),
      ("speed", .text d.speed.name)]

/-- The fields of a descriptor. -/
def fields : Record Json AgentDescriptor :=
  AgentDescriptor.mk
    <$> Record.required "name" Document.text
    <*> Record.required "capabilities"
      (fun v => (listOf Capability.decoder v).map OrderedSet.ofList)
    <*> Record.required "cost" CostClass.decoder
    <*> Record.required "speed" SpeedClass.decoder
    <*> Record.required "languages" (listOf Document.text)
    <*> Record.required "available" Document.bool

/-- Read a descriptor. -/
def decoder : Decoder Json AgentDescriptor := fields.decode "AgentDescriptor"

end AgentDescriptor

/-- A target as an object; a missing language is null. -/
def AnalysisTarget.toJson (t : AnalysisTarget) : Json :=
  .object
    [("language", match t.language with
      | none => .null
      | some l => .text l),
      ("path", .text t.path)]

namespace SelectionCriteria

/-- The criteria as an object; what is not set is null. -/
def toJson (c : SelectionCriteria) : Json :=
  let orNull (v : Option Json) : Json := v.getD .null
  .object
    [("capabilities", Capability.listToJson c.capabilities),
      ("language", orNull (c.language.map Json.Tree.text)),
      ("max_agents", orNull (c.maxAgents.map Json.word64)),
      ("max_cost", orNull (c.maxCost.map fun x => .text x.name)),
      ("time_budget_secs", orNull (c.timeBudgetSecs.map Json.word64))]

/-- The fields of the criteria; each may be absent. -/
def fields {δ : Type} [Document δ] : Record δ SelectionCriteria :=
  SelectionCriteria.mk
    <$> Record.defaulted "capabilities" (listOf Capability.decoder) []
    <*> Record.defaultedOptional "max_cost" CostClass.decoder
    <*> Record.defaultedOptional "time_budget_secs" (Document.word64 "u64")
    <*> Record.defaultedOptional "language" Document.text
    <*> Record.defaultedOptional "max_agents" (Document.word64 "usize")

/-- Read selection criteria. -/
def decoder {δ : Type} [Document δ] : Decoder δ SelectionCriteria :=
  fields.decode "SelectionCriteria"

end SelectionCriteria

end Vigil
