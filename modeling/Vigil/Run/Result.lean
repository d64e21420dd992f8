import Vigil.Agent.Descriptor
import Vigil.Finding.Codec
import Vigil.Run.Phase

/-!
# Results of agents

What a run keeps of the work of each agent.  An agent that was not available is skipped; it is not
counted among those that were dispatched.
-/

namespace Vigil

open Document

/-- The result of one agent. -/
structure AnalysisResult where
  agent : String
  status : AnalysisStatus
  durationMs : Nat
  rawFindingCount : Nat
  error : Option String := none
deriving DecidableEq, Repr, Inhabited

/-- The status that a failure gives. -/
def AgentError.status : AgentError → AnalysisStatus
  | unavailable _ => .skipped
  | timeout .. => .timeout
  | execution _ => .error
  | cancelled => .cancelled

namespace AnalysisResult

/-- A time in whole milliseconds, as far as 64 bits hold it. -/
def milliseconds (nanoseconds : Nat) : Nat :=
  nanoseconds / 1000000 % UInt64.size

/-- The result of an agent that reported so many records. -/
def success (agent : String) (nanoseconds rawFindingCount : Nat) : AnalysisResult :=
  ⟨agent, .success, milliseconds nanoseconds, rawFindingCount, none⟩

/-- The result of an agent that failed. -/
def failure (agent : String) (nanoseconds : Nat) (e : AgentError) : AnalysisResult :=
  ⟨agent, e.status, milliseconds nanoseconds, 0, some e.message⟩

/-- The result of an agent that was not dispatched. -/
def skipped (agent reason : String) : AnalysisResult :=
  ⟨agent, .skipped, 0, 0, some reason⟩

/-- Did the agent succeed? -/
def isSuccess (r : AnalysisResult) : Bool :=
  r.status == .success

/-! ## Form -/

/-- A result as an object; the error is left out if there is none. -/
def toJson (r : AnalysisResult) : Json :=
  .object <|
    [("agent", .text r.agent), ("duration_ms", Json.nat r.durationMs)] ++
    Json.optionalMember "error" (r.error.map Json.Tree.text) ++
    [("raw_finding_count", Json.nat r.rawFindingCount), ("status", .text r.status.name)]

/-- The fields of a result. -/
def fields {δ : Type} [Document δ] : Record δ AnalysisResult :=
  AnalysisResult.mk
    <$> Record.required "agent" Document.text
    <*> Record.required "status" (oneOf AnalysisStatus.table)
    <*> Record.required "duration_ms" (Document.unsigned 64 "u64")
    <*> Record.required "raw_finding_count" (Document.unsigned 64 "usize")
    <*> Record.defaultedOptional "error" Document.text

/-- Read a result. -/
def decoder {δ : Type} [Document δ] : Decoder δ AnalysisResult := fields.decode "AnalysisResult"

end AnalysisResult

/-! ## Failed runs -/

/-- Why a run has no outcome. -/
inductive RunError where
  | allAgentsFailed (results : List AnalysisResult)
  | noAgentsSelected (skipped : Nat)
  | invalidTransition (source target : RunPhase)
deriving DecidableEq, Repr

/-- The number of results of agents that were dispatched. -/
def dispatchedCount (results : List AnalysisResult) : Nat :=
  results.countP (·.status != .skipped)

/-- The wording for a failed run. -/
def RunError.message : RunError → String
  | allAgentsFailed results => s!"All {dispatchedCount results} dispatched agents failed"
  | noAgentsSelected skipped =>
    "No available agent matches the selection criteria " ++
      s!"({skipped} matched but unavailable)"
  | invalidTransition source target =>
    s!"Invalid run phase transition: {source.title} -> {target.title}"

end Vigil
