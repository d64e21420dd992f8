import Vigil.Agent.Command
import Vigil.Run.Config
import Vigil.Triage.Config

/-!
# The configuration

All sections of the configuration.  Everything has a default, so that an empty document is a
configuration too.
-/

namespace Vigil

open Document

/-- How findings are correlated, and whether they are at all. -/
structure CorrelationSection where
  enabled : Bool := true
  parameters : CorrelationConfig Float := .standard
deriving DecidableEq, Repr

namespace CorrelationSection

/-- The section as an object; the parameters stand beside the switch. -/
def toJson (c : CorrelationSection) : Json :=
  .object (("enabled", .bool c.enabled) :: c.parameters.members)

/-- The fields of the section.  The parameters are read as they are written. -/
def fields {δ : Type} [Document δ] : Record δ CorrelationSection :=
  CorrelationSection.mk
    <$> Record.defaulted "enabled" Document.bool true
    <*> CorrelationConfig.fields.via Document.plain

/-- Read the section. -/
def decoder {δ : Type} [Document δ] : Decoder δ CorrelationSection :=
  fields.decodeByName "CorrelationSection"

end CorrelationSection

/-- The whole configuration. -/
structure Settings where
  orchestrator : OrchestratorConfig := {}
  selection : SelectionCriteria := {}
  correlation : CorrelationSection := {}
  triage : TriageConfig Float := .standard
  agents : List CommandAgent := []
deriving DecidableEq, Repr

namespace Settings

/-- The configuration as an object. -/
def toJson (s : Settings) : Json :=
  .object
    [("agents", .list (s.agents.map CommandAgent.toJson)),
      ("correlation", s.correlation.toJson), ("orchestrator", s.orchestrator.toJson),
      ("selection", s.selection.toJson), ("triage", s.triage.toJson)]

/-- The sections of the configuration. -/
def fields {δ : Type} [Document δ] : Record δ Settings :=
  Settings.mk
    <$> Record.defaulted "orchestrator" OrchestratorConfig.decoder {}
    <*> Record.defaulted "selection" SelectionCriteria.decoder {}
    <*> Record.defaulted "correlation" CorrelationSection.decoder {}
    <*> Record.defaulted "triage" TriageConfig.decoder .standard
    <*> Record.defaulted "agents" (listOf CommandAgent.decoder) []

/-- Read the configuration. -/
def decoder {δ : Type} [Document δ] : Decoder δ Settings := fields.decode "StingerConfig"

end Settings

end Vigil
