import Vigil.Json.Document
import Vigil.Run.Permits

/-!
# Configuration of runs

How many agents work at the same time, how long each may take, and how many messages are kept.
-/

namespace Vigil

open Document

/-- How a run is configured. -/
structure OrchestratorConfig where
  maxConcurrency : UInt64 := 4
  agentTimeoutSecs : UInt64 := 60
  /-- The time limits of single agents. -/
  agentTimeouts : List (String × UInt64) := []
  dispatchMode : DispatchMode := .parallel
  /-- The number of messages that are kept for each topic. -/
  busHistory : UInt64 := 128
deriving DecidableEq, Repr, Inhabited

namespace OrchestratorConfig

/-- The time limit of an agent, in seconds. -/
def timeoutFor (c : OrchestratorConfig) (agent : String) : UInt64 :=
  (Json.lookup agent c.agentTimeouts).getD c.agentTimeoutSecs

/-- The number of permits for so many selected agents. -/
def capacity (c : OrchestratorConfig) (selected : Nat) : Nat :=
  c.dispatchMode.capacity selected c.maxConcurrency.toNat

/-- The configuration as an object. -/
def toJson (c : OrchestratorConfig) : Json :=
  .object
    [("agent_timeout_secs", Json.word64 c.agentTimeoutSecs),
      ("agent_timeouts", .object (c.agentTimeouts.map fun m => (m.1, Json.word64 m.2))),
      ("bus_history", Json.word64 c.busHistory), ("dispatch_mode", .text c.dispatchMode.name),
      ("max_concurrency", Json.word64 c.maxConcurrency)]

/-- The fields of the configuration; each has a default. -/
def fields {δ : Type} [Document δ] : Record δ OrchestratorConfig :=
  let d : OrchestratorConfig := {}
  OrchestratorConfig.mk
    <$> Record.defaulted "max_concurrency" (Document.word64 "usize") d.maxConcurrency
    <*> Record.defaulted "agent_timeout_secs" (Document.word64 "u64") d.agentTimeoutSecs
    <*> Record.defaulted "agent_timeouts" (mapOf (Document.word64 "u64")) d.agentTimeouts
    <*> Record.defaulted "dispatch_mode" (oneOf DispatchMode.table) d.dispatchMode
    <*> Record.defaulted "bus_history" (Document.word64 "usize") d.busHistory

/-- Read the configuration. -/
def decoder {δ : Type} [Document δ] : Decoder δ OrchestratorConfig :=
  fields.decode "OrchestratorConfig"

end OrchestratorConfig

end Vigil
