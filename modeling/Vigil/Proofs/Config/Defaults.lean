import Vigil.Config.Settings
import Vigil.Proofs.Config.Omission
import Vigil.Proofs.Double.Normal

/-!
# Configurations of which parts are left out

A configuration has sections, these have fields, and some of the fields hold records of their own:
signatures, providers and agents.  Most of this may be left out: a whole section, a field of it, or
a field of one record in a list.  Each record says here what it is if some of its keys are left out
(`without`) and which they may be (`optionalKeys`); the defaults are spelled out, and it is a result
that the records fall back to these.

* `decoder_prune`, of each record -- what remains of the object that a record is written as is read
  as the record with defaults for what is left out;
* `CorrelationSection.fields_eq` -- the parameters of a correlation stand beside its switch, and each
  of them falls back alone;
* `Settings.decoder_toJson_prune` -- **the main result**: a configuration is read back as it was
  written, and with just the defaults of what is left out if keys are left out anywhere.
-/

namespace Vigil

open Document
open Config (Omission)
open Config.Omission

variable {gone : Omission}

theorem mapIdx_self {α : Type} (l : List α) : l.mapIdx (fun _ a => a) = l :=
  List.mapIdx_eq_iff.2 fun _ => Option.map_id'.symm

/-! ## Names -/

theorem Capability.decoder_name (c : Capability) : decoder (.text c.name : Json) = .ok c := by
  cases c <;> rfl

theorem CostClass.decoder_name (c : CostClass) : decoder (.text c.name : Json) = .ok c := by
  cases c <;> rfl

theorem SpeedClass.decoder_name (c : SpeedClass) : decoder (.text c.name : Json) = .ok c := by
  cases c <;> rfl

theorem DispatchMode.oneOf_name (m : DispatchMode) : oneOf table (.text m.name : Json) = .ok m := by
  cases m <;> rfl

theorem ProviderKind.oneOf_name (k : ProviderKind) : oneOf table (.text k.name : Json) = .ok k := by
  cases k <;> rfl

theorem SignatureField.oneOf_name (f : SignatureField) :
    oneOf table (.text f.name : Json) = .ok f := by
  cases f <;> rfl

theorem Capability.listOf_listToJson (l : List Capability) :
    listOf decoder (listToJson l) = .ok l :=
  Json.listOf_map fun c _ => c.decoder_name

theorem Capability.isFlat_listToJson (l : List Capability) : IsFlat (listToJson l) :=
  isFlat_map (fun c : Capability => isFlat_text c.name) l

theorem isFlat_word64 (n : UInt64) : IsFlat (Json.word64 n) := isFlat_nat n.toNat

theorem isFlat_texts (l : List String) : IsFlat (Json.texts l) := isFlat_map isFlat_text l

/-! ## Runs -/

namespace OrchestratorConfig

/-- The configuration with defaults for what is left out: four agents at a time, a minute for each
of them, agents that work at the same time, and 128 messages of each topic. -/
def without (c : OrchestratorConfig) (gone : Omission) : OrchestratorConfig where
  maxConcurrency := if gone [] "max_concurrency" then 4 else c.maxConcurrency
  agentTimeoutSecs := if gone [] "agent_timeout_secs" then 60 else c.agentTimeoutSecs
  agentTimeouts := if gone [] "agent_timeouts" then [] else c.agentTimeouts
  dispatchMode := if gone [] "dispatch_mode" then .parallel else c.dispatchMode
  busHistory := if gone [] "bus_history" then 128 else c.busHistory

theorem isFieldwise_fields : (fields : Record Json _).IsFieldwise fun _ => Eq := by
  refine .seq (.seq (.seq (.seq (.map mk ?_) ?_) ?_) ?_) ?_
  all_goals exact Record.isFieldwise_defaulted fun _ _ => congrArg _

/-- All keys may be left out, but no limit of a single agent. -/
def optionalKeys : List Config.Step → List String
  | [] =>
    ["max_concurrency", "agent_timeout_secs", "agent_timeouts", "dispatch_mode", "bus_history"]
  | _ => []

theorem decoder_prune (c : OrchestratorConfig) (hgone : gone.IsWithin optionalKeys) :
    decoder (gone.prune c.toJson) = .ok (c.without gone) := by
  refine decode_prune isFieldwise_fields _ (by simp) ?_
  refine .seq (.seq (.seq (.seq (.map mk
    (builds_defaulted (isFlat_word64 _) (Json.word64_word64 _ _) rfl))
    (builds_defaulted (isFlat_word64 _) (Json.word64_word64 _ _) rfl))
    (builds_nested (v := .object (c.agentTimeouts.map fun m => (m.1, Json.word64 m.2)))
      (fun _ => ?timeouts) rfl))
    (builds_defaulted (isFlat_text _) c.dispatchMode.oneOf_name rfl))
    (builds_defaulted (isFlat_word64 _) (Json.word64_word64 _ _) rfl)
  case timeouts =>
    -- The limit of a single agent is no optional key, so nothing is missing of the object.
    have hkept (agent : String) : gone [.key "agent_timeouts"] agent = false :=
      hgone.kept List.not_mem_nil
    rw [prune_object hkept isFlat_word64]
    exact Json.mapOf_map (Json.word64_word64 _) _

end OrchestratorConfig

/-! ## Selection -/

namespace SelectionCriteria

/-- The criteria with what is left out not set. -/
def without (c : SelectionCriteria) (gone : Omission) : SelectionCriteria where
  capabilities := if gone [] "capabilities" then [] else c.capabilities
  maxCost := if gone [] "max_cost" then none else c.maxCost
  timeBudgetSecs := if gone [] "time_budget_secs" then none else c.timeBudgetSecs
  language := if gone [] "language" then none else c.language
  maxAgents := if gone [] "max_agents" then none else c.maxAgents

theorem isFieldwise_fields : (fields : Record Json _).IsFieldwise fun _ => Eq := by
  refine .seq (.seq (.seq (.seq (.map mk ?capabilities) ?_) ?_) ?_) ?_
  case capabilities => exact Record.isFieldwise_defaulted fun _ _ => congrArg _
  all_goals exact Record.isFieldwise_defaultedOptional fun _ _ => congrArg _

theorem decoder_prune (c : SelectionCriteria) :
    decoder (gone.prune c.toJson) = .ok (c.without gone) := by
  refine decode_prune isFieldwise_fields _ (by simp) ?_
  exact .seq (.seq (.seq (.seq (.map mk
    (builds_defaulted (Capability.isFlat_listToJson _) (Capability.listOf_listToJson _) rfl))
    (builds_optional (isFlat_getD (fun x : CostClass => isFlat_text x.name) _)
      (Json.nullable_getD (fun _ => rfl) CostClass.decoder_name _) rfl))
    (builds_optional (isFlat_getD isFlat_word64 _)
      (Json.nullable_getD (fun _ => rfl) (Json.word64_word64 _) _) rfl))
    (builds_optional (isFlat_getD isFlat_text _)
      (Json.nullable_getD (fun _ => rfl) Json.text_text _) rfl))
    (builds_optional (isFlat_getD isFlat_word64 _)
      (Json.nullable_getD (fun _ => rfl) (Json.word64_word64 _) _) rfl)

end SelectionCriteria

/-! ## Correlation -/

namespace CorrelationConfig

/-- The parameters with defaults for what is left out: three lines, and 0.15 or 0.25 for the
agreement of two or of more agents. -/
def without (c : CorrelationConfig Float) (gone : Omission) : CorrelationConfig Float where
  lineTolerance := if gone [] "line_tolerance" then 3 else c.lineTolerance
  twoAgentBoost := if gone [] "two_agent_boost" then 0.15 else c.twoAgentBoost
  multiAgentBoost := if gone [] "multi_agent_boost" then 0.25 else c.multiAgentBoost

theorem isFieldwise_fields : fields.IsFieldwise fun _ => Eq := by
  refine .seq (.seq (.map mk ?_) ?_) ?_
  all_goals exact Record.isFieldwise_defaulted fun _ _ => congrArg _

end CorrelationConfig

namespace CorrelationSection

/-- The section with defaults for what is left out: it is enabled. -/
def without (c : CorrelationSection) (gone : Omission) : CorrelationSection where
  enabled := if gone [] "enabled" then true else c.enabled
  parameters := c.parameters.without gone

/-- The parameters stand beside the switch, and are read as the other fields are. -/
theorem fields_eq : (fields : Record Json CorrelationSection) =
    mk <$> Record.defaulted "enabled" Document.bool true <*> CorrelationConfig.fields :=
  congrArg (mk <$> Record.defaulted "enabled" Document.bool true <*> ·) (Record.via_id _)

theorem isFieldwise_fields : (fields : Record Json _).IsFieldwise fun _ => Eq := by
  rw [fields_eq]
  exact .seq (.map mk (Record.isFieldwise_defaulted fun _ _ => congrArg _))
    CorrelationConfig.isFieldwise_fields

theorem decoder_prune (c : CorrelationSection)
    (htwo : c.parameters.twoAgentBoost.isFinite = true)
    (hmulti : c.parameters.multiAgentBoost.isFinite = true) :
    decoder (gone.prune c.toJson) = .ok (c.without gone) := by
  have hbuilds : (fields : Record Json _).Builds
      (gone.remaining (("enabled", .bool c.enabled) :: c.parameters.members)) (c.without gone) := by
    rw [fields_eq]
    exact .seq (.map mk (builds_defaulted (isFlat_bool _) (Json.bool_bool _) rfl))
      (.seq (.seq (.map CorrelationConfig.mk
        (builds_defaulted (isFlat_nat _) (Json.word32_word32 _) rfl))
        (builds_defaulted (isFlat_float _) (Json.real_float htwo) rfl))
        (builds_defaulted (isFlat_float _) (Json.real_float hmulti) rfl))
  have hkeys : ("enabled" :: c.parameters.members.map (·.1)).Nodup := by
    simp [CorrelationConfig.members]
  exact decode_prune isFieldwise_fields "CorrelationSection" hkeys hbuilds

end CorrelationSection

/-! ## Triage -/

namespace FalsePositiveSignature

/-- The signature with defaults for what is left out: it is for findings of any type, and looks at
any field. -/
def without (s : FalsePositiveSignature) (gone : Omission) : FalsePositiveSignature where
  findingType := if gone [] "finding_type" then none else s.findingType
  field := if gone [] "field" then .any else s.field
  pattern := s.pattern
  reason := s.reason

theorem isFieldwise_fields : (fields : Record Json _).IsFieldwise fun _ => Eq := by
  refine .seq (.seq (.seq (.map mk ?findingType) ?field) ?_) ?_
  case findingType => exact Record.isFieldwise_defaultedOptional fun _ _ => congrArg _
  case field => exact Record.isFieldwise_defaulted fun _ _ => congrArg _
  all_goals exact Record.isFieldwise_required fun _ _ => congrArg _

/-- A signature needs a pattern and a reason. -/
def optionalKeys : List Config.Step → List String
  | [] => ["finding_type", "field"]
  | _ => []

theorem decoder_prune (s : FalsePositiveSignature) (hgone : gone.IsWithin optionalKeys) :
    decoder (gone.prune s.toJson) = .ok (s.without gone) := by
  refine decode_prune isFieldwise_fields _ (by simp) ?_
  exact .seq (.seq (.seq (.map mk
    (builds_optional (isFlat_orNull_text _) (Json.nullable_orNull_text _) rfl))
    (builds_defaulted (isFlat_text _) s.field.oneOf_name rfl))
    (builds_required (isFlat_text _) (Json.text_text _) (hgone.kept (by decide)) rfl))
    (builds_required (isFlat_text _) (Json.text_text _) (hgone.kept (by decide)) rfl)

end FalsePositiveSignature

namespace ProviderConfig

/-- The configuration with defaults for what is left out: no address and no key, the first priority,
0.05 for each call, tokens that cost nothing, half a minute, and it is enabled. -/
def without (c : ProviderConfig Float) (gone : Omission) : ProviderConfig Float where
  name := c.name
  kind := c.kind
  model := c.model
  baseUrl := if gone [] "base_url" then none else c.baseUrl
  keyVariable := if gone [] "api_key_env" then none else c.keyVariable
  priority := if gone [] "priority" then 0 else c.priority
  maxCostPerCall := if gone [] "max_cost_per_call" then 0.05 else c.maxCostPerCall
  costPerThousandTokens := if gone [] "cost_per_1k_tokens" then 0 else c.costPerThousandTokens
  timeoutSecs := if gone [] "timeout_secs" then 30 else c.timeoutSecs
  enabled := if gone [] "enabled" then true else c.enabled

/-- Both costs are finite. -/
def IsFinite (c : ProviderConfig Float) : Prop :=
  c.maxCostPerCall.isFinite = true ∧ c.costPerThousandTokens.isFinite = true

theorem isFieldwise_fields : (fields : Record Json _).IsFieldwise fun _ => Eq := by
  refine .seq (.seq (.seq (.seq (.seq (.seq (.seq (.seq (.seq (.map mk ?name) ?kind) ?model)
    ?baseUrl) ?keyVariable) ?_) ?_) ?_) ?_) ?_
  case name | kind | model => exact Record.isFieldwise_required fun _ _ => congrArg _
  case baseUrl | keyVariable => exact Record.isFieldwise_defaultedOptional fun _ _ => congrArg _
  all_goals exact Record.isFieldwise_defaulted fun _ _ => congrArg _

/-- A provider needs a name, a kind and a model. -/
def optionalKeys : List Config.Step → List String
  | [] => ["base_url", "api_key_env", "priority", "max_cost_per_call", "cost_per_1k_tokens",
      "timeout_secs", "enabled"]
  | _ => []

theorem decoder_prune (c : ProviderConfig Float) (hfinite : c.IsFinite)
    (hgone : gone.IsWithin optionalKeys) :
    decoder (gone.prune c.toJson) = .ok (c.without gone) := by
  refine decode_prune isFieldwise_fields _ (by simp) ?_
  exact .seq (.seq (.seq (.seq (.seq (.seq (.seq (.seq (.seq (.map mk
    (builds_required (isFlat_text _) (Json.text_text _) (hgone.kept (by decide)) rfl))
    (builds_required (isFlat_text _) c.kind.oneOf_name (hgone.kept (by decide)) rfl))
    (builds_required (isFlat_text _) (Json.text_text _) (hgone.kept (by decide)) rfl))
    (builds_optional (isFlat_orNull_text _) (Json.nullable_orNull_text _) rfl))
    (builds_optional (isFlat_orNull_text _) (Json.nullable_orNull_text _) rfl))
    (builds_defaulted (isFlat_nat _) (Json.word32_word32 _) rfl))
    (builds_defaulted (isFlat_float _) (Json.real_float hfinite.1) rfl))
    (builds_defaulted (isFlat_float _) (Json.real_float hfinite.2) rfl))
    (builds_defaulted (isFlat_word64 _) (Json.word64_word64 _ _) rfl))
    (builds_defaulted (isFlat_bool _) (Json.bool_bool _) rfl)

end ProviderConfig

namespace TriageConfig

/-- The configuration with defaults for what is left out: providers are asked, for 1.0 in all, for
256 tokens and at no temperature; without one, the least confidence is 0.2; no signatures are added,
and there are no providers. -/
def without (c : TriageConfig Float) (gone : Omission) : TriageConfig Float where
  aiEnabled := if gone [] "ai_enabled" then true else c.aiEnabled
  totalCostCeiling := if gone [] "total_cost_ceiling" then 1.0 else c.totalCostCeiling
  maxTokens := if gone [] "max_tokens" then 256 else c.maxTokens
  temperature := if gone [] "temperature" then 0.0 else c.temperature
  minRuleConfidence := if gone [] "min_rule_confidence" then 0.2 else c.minRuleConfidence
  signatures :=
    if gone [] "false_positive_signatures" then []
    else c.signatures.mapIdx fun i s =>
      s.without ((gone.under (.key "false_positive_signatures")).under (.index i))
  providers :=
    if gone [] "providers" then []
    else c.providers.mapIdx fun i p => p.without ((gone.under (.key "providers")).under (.index i))

/-- All keys may be left out, and those that signatures and providers do not need. -/
def optionalKeys : List Config.Step → List String
  | [] => ["ai_enabled", "total_cost_ceiling", "max_tokens", "temperature", "min_rule_confidence",
      "false_positive_signatures", "providers"]
  | .key "false_positive_signatures" :: .index _ :: address =>
    FalsePositiveSignature.optionalKeys address
  | .key "providers" :: .index _ :: address => ProviderConfig.optionalKeys address
  | _ => []

/-- All numbers are finite. -/
structure IsFinite (c : TriageConfig Float) : Prop where
  totalCostCeiling : c.totalCostCeiling.isFinite = true
  temperature : c.temperature.isFinite = true
  minRuleConfidence : c.minRuleConfidence.isFinite = true
  providers : ∀ p ∈ c.providers, p.IsFinite

theorem isFieldwise_fields : (fields : Record Json _).IsFieldwise fun _ => Eq := by
  refine .seq (.seq (.seq (.seq (.seq (.seq (.map mk ?_) ?_) ?_) ?_) ?_) ?_) ?_
  all_goals exact Record.isFieldwise_defaulted fun _ _ => congrArg _

theorem single_temperature {x : Float} (hfinite : x.isFinite = true) (hsingle : Double.IsSingle x) :
    Document.single (Json.float x) = .ok x := by
  rw [Json.float_of_isFinite hfinite]
  exact congrArg Except.ok (Double.single_of_isSingle hsingle)

theorem decoder_prune (c : TriageConfig Float) (hfinite : c.IsFinite)
    (hsingle : Double.IsSingle c.temperature) (hgone : gone.IsWithin optionalKeys) :
    decoder (gone.prune c.toJson) = .ok (c.without gone) := by
  refine decode_prune isFieldwise_fields _ (by simp) ?_
  refine .seq (.seq (.seq (.seq (.seq (.seq (.map mk
    (builds_defaulted (isFlat_bool _) (Json.bool_bool _) rfl))
    (builds_defaulted (isFlat_float _) (Json.real_float hfinite.totalCostCeiling) rfl))
    (builds_defaulted (isFlat_nat _) (Json.word32_word32 _) rfl))
    (builds_defaulted (isFlat_float _) (single_temperature hfinite.temperature hsingle) rfl))
    (builds_defaulted (isFlat_float _) (Json.real_float hfinite.minRuleConfidence) rfl))
    (builds_nested (fun _ => listOf_prune ?signature) rfl))
    (builds_nested (fun _ => listOf_prune ?provider) rfl)
  case signature => exact fun i s _ => s.decoder_prune ((hgone.under _).under (.index i))
  case provider =>
    exact fun i p hp => p.decoder_prune (hfinite.providers p hp) ((hgone.under _).under (.index i))

theorem without_nothing (c : TriageConfig Float) : c.without nothing = c :=
  congrArg₂ (fun signatures providers => { c with signatures, providers })
    (mapIdx_self c.signatures) (mapIdx_self c.providers)

end TriageConfig

/-! ## Agents -/

namespace CommandAgent

/-- The configuration with defaults for what is left out: no arguments, no capabilities, an agent
that is free and of medium speed, and any language. -/
def without (c : CommandAgent) (gone : Omission) : CommandAgent where
  name := c.name
  command := c.command
  args := if gone [] "args" then [] else c.args
  capabilities := if gone [] "capabilities" then [] else c.capabilities
  cost := if gone [] "cost" then .free else c.cost
  speed := if gone [] "speed" then .medium else c.speed
  languages := if gone [] "languages" then [] else c.languages

/-- An agent needs a name and a command. -/
def optionalKeys : List Config.Step → List String
  | [] => ["args", "capabilities", "cost", "speed", "languages"]
  | _ => []

theorem isFieldwise_fields : (fields : Record Json _).IsFieldwise fun _ => Eq := by
  refine .seq (.seq (.seq (.seq (.seq (.seq (.map mk ?name) ?command) ?_) ?_) ?_) ?_) ?_
  case name | command => exact Record.isFieldwise_required fun _ _ => congrArg _
  all_goals exact Record.isFieldwise_defaulted fun _ _ => congrArg _

theorem decoder_prune (c : CommandAgent) (hgone : gone.IsWithin optionalKeys) :
    decoder (gone.prune c.toJson) = .ok (c.without gone) := by
  refine decode_prune isFieldwise_fields _ (by simp) ?_
  exact .seq (.seq (.seq (.seq (.seq (.seq (.map mk
    (builds_required (isFlat_text _) (Json.text_text _) (hgone.kept (by decide)) rfl))
    (builds_required (isFlat_text _) (Json.text_text _) (hgone.kept (by decide)) rfl))
    (builds_defaulted (isFlat_texts _) (Json.listOf_texts _) rfl))
    (builds_defaulted (Capability.isFlat_listToJson _) (Capability.listOf_listToJson _) rfl))
    (builds_defaulted (isFlat_text _) c.cost.decoder_name rfl))
    (builds_defaulted (isFlat_text _) c.speed.decoder_name rfl))
    (builds_defaulted (isFlat_texts _) (Json.listOf_texts _) rfl)

end CommandAgent

/-! ## The whole configuration -/

namespace Settings

/-- The configuration with defaults for what is left out, be it a whole section or a part of it. -/
def without (s : Settings) (gone : Omission) : Settings where
  orchestrator := s.orchestrator.without (gone.inside "orchestrator")
  selection := s.selection.without (gone.inside "selection")
  correlation := s.correlation.without (gone.inside "correlation")
  triage := s.triage.without (gone.inside "triage")
  agents :=
    if gone [] "agents" then []
    else s.agents.mapIdx fun i a => a.without ((gone.under (.key "agents")).under (.index i))

/-- All sections may be left out, and what they do not need. -/
def optionalKeys : List Config.Step → List String
  | [] => ["orchestrator", "selection", "correlation", "triage", "agents"]
  | .key "orchestrator" :: address => OrchestratorConfig.optionalKeys address
  | [.key "selection"] =>
    ["capabilities", "max_cost", "time_budget_secs", "language", "max_agents"]
  | [.key "correlation"] =>
    ["enabled", "line_tolerance", "two_agent_boost", "multi_agent_boost"]
  | .key "triage" :: address => TriageConfig.optionalKeys address
  | .key "agents" :: .index _ :: address => CommandAgent.optionalKeys address
  | _ => []

/-- All numbers are finite. -/
structure IsFinite (s : Settings) : Prop where
  twoAgentBoost : s.correlation.parameters.twoAgentBoost.isFinite = true
  multiAgentBoost : s.correlation.parameters.multiAgentBoost.isFinite = true
  triage : s.triage.IsFinite

theorem isFieldwise_fields : (fields : Record Json _).IsFieldwise fun _ => Eq := by
  refine .seq (.seq (.seq (.seq (.map mk ?_) ?_) ?_) ?_) ?_
  all_goals exact Record.isFieldwise_defaulted fun _ _ => congrArg _

theorem decoder_prune {s : Settings} (hfinite : s.IsFinite)
    (hsingle : Double.IsSingle s.triage.temperature) (hgone : gone.IsWithin optionalKeys) :
    decoder (gone.prune s.toJson) = .ok (s.without gone) := by
  refine decode_prune isFieldwise_fields _ (by simp) ?_
  refine .seq (.seq (.seq (.seq (.map mk
    (builds_section rfl (fun _ => s.orchestrator.decoder_prune (hgone.under _)) rfl))
    (builds_section rfl (fun _ => s.selection.decoder_prune) rfl))
    (builds_section rfl
      (fun _ => s.correlation.decoder_prune hfinite.twoAgentBoost hfinite.multiAgentBoost) rfl))
    (builds_section rfl
      (fun _ => s.triage.decoder_prune hfinite.triage hsingle (hgone.under _)) rfl))
    (builds_nested (fun _ => listOf_prune ?agent) rfl)
  exact fun i a _ => a.decoder_prune ((hgone.under _).under (.index i))

theorem without_nothing (s : Settings) : s.without nothing = s :=
  congrArg₂ (fun triage agents => { s with triage, agents })
    s.triage.without_nothing (mapIdx_self s.agents)

/-- **A configuration is read back as it was written**, and from what remains of it when keys are
left out, with exactly the defaults of what is left out.  All numbers are finite, and the temperature
is one that is stored in single precision. -/
theorem decoder_toJson_prune (s : Settings) (hfinite : s.IsFinite)
    (hsingle : Double.IsSingle s.triage.temperature) :
    decoder s.toJson = .ok s ∧
      ∀ gone : Omission, gone.IsWithin optionalKeys →
        decoder (gone.prune s.toJson) = .ok (s.without gone) := by
  refine ⟨?_, fun _ => decoder_prune hfinite hsingle⟩
  have hnothing : nothing.IsWithin optionalKeys := fun _ _ h => nomatch h
  have hwhole := decoder_prune hfinite hsingle hnothing
  rwa [prune_nothing, without_nothing] at hwhole

/-- A configuration that says something of everything. -/
def thorough : Settings where
  orchestrator := ⟨8, 120, [("fuzzer", 600), ("slither", 30)], .sequential, 16⟩
  selection := ⟨[.staticAnalysis, .linting], some .paid, some 900, none, some 3⟩
  correlation := ⟨false, 0, 0.5, 0.75⟩
  triage :=
    { aiEnabled := false, totalCostCeiling := 2.5, maxTokens := 4294967295, temperature := 0.25,
      minRuleConfidence := 0.0
      signatures := [⟨some "reentrancy", .function, "^guarded", "checked by hand"⟩]
      providers := [
        ⟨"local", .ollama, "llama", some "http://localhost:1", none, 1, 0.0, 0.0, 5, true⟩,
        ⟨"remote", .openai, "gpt", none, some "KEY", 2, 0.125, 0.5, 18446744073709551615, false⟩] }
  agents := [
    ⟨"slither", "slither", ["--json", "-"], [.staticAnalysis], .paid, .slow, ["solidity"]⟩,
    ⟨"fuzzer", "fuzz", ["\x7btarget\x7d"], [.dynamicFuzzing], .free, .fast, ["c", "rust"]⟩]

/-- Keys of every level: a section, fields of sections, and fields of records in lists. -/
def scattered : Omission :=
  ofList [([], "selection"), ([.key "orchestrator"], "dispatch_mode"),
    ([.key "correlation"], "two_agent_boost"), ([.key "triage"], "temperature"),
    ([.key "triage", .key "false_positive_signatures", .index 0], "field"),
    ([.key "triage", .key "providers", .index 1], "timeout_secs"),
    ([.key "agents", .index 0], "args"), ([.key "agents", .index 0], "cost")]

theorem decoder_toJson_prune_scattered :
    thorough.IsFinite ∧ Double.IsSingle thorough.triage.temperature ∧
      scattered.IsWithin optionalKeys ∧ decoder thorough.toJson = .ok thorough ∧
      decoder (scattered.prune thorough.toJson) = .ok
        { orchestrator := ⟨8, 120, [("fuzzer", 600), ("slither", 30)], .parallel, 16⟩
          selection := ⟨[], none, none, none, none⟩
          correlation := ⟨false, 0, 0.15, 0.75⟩
          triage :=
            { thorough.triage with
              temperature := 0.0
              signatures := [⟨some "reentrancy", .any, "^guarded", "checked by hand"⟩]
              providers := [
                ⟨"local", .ollama, "llama", some "http://localhost:1", none, 1, 0.0, 0.0, 5, true⟩,
                ⟨"remote", .openai, "gpt", none, some "KEY", 2, 0.125, 0.5, 30, false⟩] }
          agents := [
            ⟨"slither", "slither", [], [.staticAnalysis], .free, .slow, ["solidity"]⟩,
            ⟨"fuzzer", "fuzz", ["\x7btarget\x7d"], [.dynamicFuzzing], .free, .fast,
              ["c", "rust"]⟩] } := by
  have hscattered : scattered.IsWithin optionalKeys := isWithin_ofList (by decide)
  have hsingle : Double.IsSingle thorough.triage.temperature := by
    have hshape : Decimal.shape thorough.triage.temperature = .finite false (2 ^ 52) (-54) := by
      decide +kernel
    exact ⟨1, -2, by rw [Double.abs_exactValue hshape]; norm_num, by decide, by decide, by decide⟩
  have hproviders : ∀ p ∈ thorough.triage.providers, p.IsFinite :=
    List.forall_mem_cons.2 ⟨⟨by decide +kernel, by decide +kernel⟩,
      List.forall_mem_singleton.2 ⟨by decide +kernel, by decide +kernel⟩⟩
  have hfinite : thorough.IsFinite :=
    ⟨by decide +kernel, by decide +kernel,
      ⟨by decide +kernel, by decide +kernel, by decide +kernel, hproviders⟩⟩
  obtain ⟨hread, hprune⟩ := decoder_toJson_prune thorough hfinite hsingle
  exact ⟨hfinite, hsingle, hscattered, hread, hprune scattered hscattered⟩

end Settings

end Vigil
