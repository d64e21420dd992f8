import Vigil.Agent.Codec
import Vigil.Run.Result
import Vigil.Text.Timestamp

/-!
# Runs

A run collects the results of the agents, the findings and the statistics.  It moves from phase to
phase only as the phases allow.
-/

namespace Vigil

/-- What a run counts. -/
structure RunStats (ν : Type) where
  selectedAgents : Nat
  successfulAgents : Nat
  failedAgents : Nat
  skippedAgents : Nat
  totalRawFindings : Nat
  normalizedFindings : Nat
  rejectedFindings : Nat
  correlatedFindings : Nat
  dedupRate : ν
  triageCost : ν
deriving DecidableEq, Repr

/-- Nothing counted yet. -/
def RunStats.zero {ν : Type} [Quantity ν] : RunStats ν :=
  ⟨0, 0, 0, 0, 0, 0, 0, 0, 0, 0⟩

/-- A run.  Times are in nanoseconds since the beginning of 1970. -/
structure Run (ν : Type) where
  id : RunId
  target : AnalysisTarget
  phase : RunPhase
  cancelled : Bool
  startedAt : Nat
  finishedAt : Option Nat
  results : List AnalysisResult
  findings : List (Finding ν)
  stats : RunStats ν

namespace Run

variable {ν : Type}

/-- A run that has not begun. -/
def idle [Quantity ν] (id : RunId) (target : AnalysisTarget) (now : Nat) : Run ν :=
  ⟨id, target, .idle, false, now, none, [], [], .zero⟩

/-- The first result of an agent. -/
def resultFor? (r : Run ν) (agent : String) : Option AnalysisResult :=
  r.results.find? (·.agent == agent)

/-- Has the run come to its end? -/
def isFinalized (r : Run ν) : Bool :=
  r.finishedAt.isSome

/-- Enter a phase, if it may follow the present one. -/
def transition (r : Run ν) (next : RunPhase) : Except RunError (Run ν) :=
  if r.phase.allows next then .ok { r with phase := next }
  else .error (.invalidTransition r.phase next)

/-- The run with the time of its end; the first one counts. -/
def finalize (r : Run ν) (now : Nat) : Run ν :=
  { r with finishedAt := r.finishedAt <|> some now }

end Run

/-! ## Form -/

/-- The statistics of a run as an object. -/
def RunStats.toJson (s : RunStats Float) : Json :=
  .object
    [("selected_agents", Json.nat s.selectedAgents),
      ("successful_agents", Json.nat s.successfulAgents),
      ("failed_agents", Json.nat s.failedAgents), ("skipped_agents", Json.nat s.skippedAgents),
      ("total_raw_findings", Json.nat s.totalRawFindings),
      ("normalized_findings", Json.nat s.normalizedFindings),
      ("rejected_findings", Json.nat s.rejectedFindings),
      ("correlated_findings", Json.nat s.correlatedFindings),
      ("dedup_rate", Json.float s.dedupRate), ("triage_cost", Json.float s.triageCost)]

/-- A run as an object. -/
def Run.toJson (r : Run Float) : Json :=
  .object
    [("id", .text r.id.text), ("target", r.target.toJson), ("phase", .text r.phase.name),
      ("cancelled", .bool r.cancelled), ("started_at", .text (Text.timestamp r.startedAt)),
      ("finished_at", Json.orNull (r.finishedAt.map fun t => .text (Text.timestamp t))),
      ("results", .list (r.results.map AnalysisResult.toJson)),
      ("findings", .list (r.findings.map Finding.toJson)), ("stats", r.stats.toJson)]

end Vigil
