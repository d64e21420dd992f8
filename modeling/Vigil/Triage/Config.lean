import Vigil.Finding.Codec
import Vigil.Triage.Rules

/-!
# Configuration of triage

Which providers there are and what they may cost, and which rules apply without them.
-/

namespace Vigil

open Document

/-! ## Signatures -/

namespace FalsePositiveSignature

/-- A signature as an object. -/
def toJson (s : FalsePositiveSignature) : Json :=
  .object
    [("field", .text s.field.name),
      ("finding_type", Json.orNull (s.findingType.map Json.Tree.text)),
      ("pattern", .text s.pattern), ("reason", .text s.reason)]

/-- The fields of a signature. -/
def fields {δ : Type} [Document δ] : Record δ FalsePositiveSignature :=
  FalsePositiveSignature.mk
    <$> Record.defaultedOptional "finding_type" Document.text
    <*> Record.defaulted "field" (oneOf SignatureField.table) .any
    <*> Record.required "pattern" Document.text
    <*> Record.required "reason" Document.text

/-- Read a signature. -/
def decoder {δ : Type} [Document δ] : Decoder δ FalsePositiveSignature :=
  fields.decode "FalsePositiveSignature"

end FalsePositiveSignature

/-! ## Providers -/

/-- The kinds of services that a provider may use. -/
inductive ProviderKind where
  | openai | ollama
deriving DecidableEq, Repr, Inhabited

namespace ProviderKind

/-- All kinds with their names. -/
def table : List (String × ProviderKind) :=
  [("openai", openai), ("ollama", ollama)]

/-- The name of a kind. -/
def name : ProviderKind → String
  | openai => "openai"
  | ollama => "ollama"

end ProviderKind

/-- How a provider is configured. -/
structure ProviderConfig (ν : Type) where
  name : String
  kind : ProviderKind
  model : String
  baseUrl : Option String
  /-- The environment variable that holds the key. -/
  keyVariable : Option String
  priority : UInt32
  maxCostPerCall : ν
  costPerThousandTokens : ν
  timeoutSecs : UInt64
  enabled : Bool
deriving DecidableEq, Repr

namespace ProviderConfig

/-- A provider's configuration as an object. -/
def toJson (c : ProviderConfig Float) : Json :=
  .object
    [("api_key_env", Json.orNull (c.keyVariable.map Json.Tree.text)),
      ("base_url", Json.orNull (c.baseUrl.map Json.Tree.text)),
      ("cost_per_1k_tokens", Json.float c.costPerThousandTokens), ("enabled", .bool c.enabled),
      ("kind", .text c.kind.name), ("max_cost_per_call", Json.float c.maxCostPerCall),
      ("model", .text c.model), ("name", .text c.name), ("priority", Json.word32 c.priority),
      ("timeout_secs", Json.word64 c.timeoutSecs)]

/-- The fields of a provider's configuration. -/
def fields {δ : Type} [Document δ] : Record δ (ProviderConfig Float) :=
  ProviderConfig.mk
    <$> Record.required "name" Document.text
    <*> Record.required "kind" (oneOf ProviderKind.table)
    <*> Record.required "model" Document.text
    <*> Record.defaultedOptional "base_url" Document.text
    <*> Record.defaultedOptional "api_key_env" Document.text
    <*> Record.defaulted "priority" Document.word32 0
    <*> Record.defaulted "max_cost_per_call" Document.real (Quantity.decimal 5 2)
    <*> Record.defaulted "cost_per_1k_tokens" Document.real 0
    <*> Record.defaulted "timeout_secs" (Document.word64 "u64") 30
    <*> Record.defaulted "enabled" Document.bool true

/-- Read a provider's configuration. -/
def decoder {δ : Type} [Document δ] : Decoder δ (ProviderConfig Float) :=
  fields.decode "ProviderConfig"

end ProviderConfig

/-! ## Triage -/

/-- How triage is configured.  The temperature is in single precision. -/
structure TriageConfig (ν : Type) where
  aiEnabled : Bool
  /-- What one call of triage may spend. -/
  totalCostCeiling : ν
  maxTokens : UInt32
  temperature : Float
  /-- Without a provider, findings of lower confidence are dismissed. -/
  minRuleConfidence : ν
  /-- Signatures that are used after the built-in ones. -/
  signatures : List FalsePositiveSignature
  providers : List (ProviderConfig ν)
deriving DecidableEq, Repr

namespace TriageConfig

/-- What holds unless it is configured otherwise. -/
def standard {ν : Type} [Quantity ν] : TriageConfig ν where
  aiEnabled := true
  totalCostCeiling := 1
  maxTokens := 256
  temperature := 0.0
  minRuleConfidence := Quantity.decimal 2 1
  signatures := []
  providers := []

/-- The configuration of triage as an object. -/
def toJson (c : TriageConfig Float) : Json :=
  .object
    [("ai_enabled", .bool c.aiEnabled),
      ("false_positive_signatures", .list (c.signatures.map FalsePositiveSignature.toJson)),
      ("max_tokens", Json.word32 c.maxTokens),
      ("min_rule_confidence", Json.float c.minRuleConfidence),
      ("providers", .list (c.providers.map ProviderConfig.toJson)),
      ("temperature", Json.float c.temperature),
      ("total_cost_ceiling", Json.float c.totalCostCeiling)]

/-- The fields of the configuration of triage; each has a default. -/
def fields {δ : Type} [Document δ] : Record δ (TriageConfig Float) :=
  let d : TriageConfig Float := standard
  TriageConfig.mk
    <$> Record.defaulted "ai_enabled" Document.bool d.aiEnabled
    <*> Record.defaulted "total_cost_ceiling" Document.real d.totalCostCeiling
    <*> Record.defaulted "max_tokens" Document.word32 d.maxTokens
    <*> Record.defaulted "temperature" Document.single d.temperature
    <*> Record.defaulted "min_rule_confidence" Document.real d.minRuleConfidence
    <*> Record.defaulted "false_positive_signatures" (listOf FalsePositiveSignature.decoder) []
    <*> Record.defaulted "providers" (listOf ProviderConfig.decoder) []

/-- Read the configuration of triage. -/
def decoder {δ : Type} [Document δ] : Decoder δ (TriageConfig Float) :=
  fields.decode "TriageConfig"

end TriageConfig

end Vigil
