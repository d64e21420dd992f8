import Vigil.Agent.Registry
import Vigil.Finding.Correlate
import Vigil.Finding.Normalize
import Vigil.Run.Basic
import Vigil.Run.Config
import Vigil.Run.Dispatch
import Vigil.Triage.Engine

/-!
# Runs of the whole pipeline

A run selects agents, dispatches them, normalizes what they report, and passes the findings through
correlation and triage as far as these are attached.  It fails only if no agent is selected or none
succeeds.  Along the way it publishes messages and records audit events; both are returned in
order, so that a run is a function of the agents and of the world.
-/

namespace Vigil

/-- The registry and the stages of a pipeline.  `work` says how the work of an agent on a target
goes. -/
structure Orchestrator (α σ ν : Type) where
  registry : Registry α
  config : OrchestratorConfig
  correlation : Option (CorrelationConfig ν) := none
  triage : Option (TriageEngine σ ν) := none
  work : α → AnalysisTarget → Work ν

namespace Orchestrator

variable {α σ ν : Type} [Quantity ν]

/-- The producer of messages about the run as a whole. -/
def producer : String := "orchestrator"

/-- Why an unavailable agent is skipped. -/
def notInstalled : String := "not installed"

/-! ## What became of one agent -/

/-- The findings and rejections of a task. -/
def normalized (o : Outcome ν) : Normalized ν :=
  match o.result with
  | .ok raw => normalize o.agent raw
  | .error _ => ⟨[], []⟩

/-- The records that a task reported. -/
def rawRecords (o : Outcome ν) : List (RawFinding ν) :=
  match o.result with
  | .ok raw => raw
  | .error _ => []

/-- The result of a task. -/
def resultOf (o : Outcome ν) : AnalysisResult :=
  match o.result with
  | .ok raw => .success o.agent o.duration raw.length
  | .error e => .failure o.agent o.duration e

/-- The events of a task: its rejected records, or its failure. -/
def eventsOf (o : Outcome ν) : List (AuditEvent ν) :=
  match o.result with
  | .ok _ => (normalized o).rejected.map fun r => .malformedFinding r.agent r.index r.reason.message
  | .error e => [.agentFailed o.agent e.status e.message]

/-- The message with the findings of a task, if there are any. -/
def batchOf (o : Outcome ν) : List (Message ν) :=
  let findings := (normalized o).findings
  if findings.isEmpty then [] else [.findings Topic.findingsRaw o.agent findings]

/-! ## The state of a run -/

/-- A run on its way: what it has published and recorded, and the world. -/
structure Journey (σ ν : Type) where
  run : Run ν
  messages : List (Message ν)
  events : List (AuditEvent ν)
  world : σ

namespace Journey

/-- Publish messages. -/
def publish (j : Journey σ ν) (env : Surroundings σ ν) (ms : List (Message ν)) : Journey σ ν :=
  { j with messages := j.messages ++ ms, world := env.observeAll ms j.world }

/-- Tell about the progress of the run. -/
def tell (j : Journey σ ν) (env : Surroundings σ ν) (e : ProgressEvent) : Journey σ ν :=
  j.publish env [.progress producer j.run.id e]

/-- Record events. -/
def record (j : Journey σ ν) (events : List (AuditEvent ν)) : Journey σ ν :=
  { j with events := j.events ++ events }

/-- Change the run. -/
def update (j : Journey σ ν) (f : Run ν → Run ν) : Journey σ ν :=
  { j with run := f j.run }

/-- Tell that the run has come to its end. -/
def complete (j : Journey σ ν) (env : Surroundings σ ν) (now : Nat) : Journey σ ν :=
  let j := j.update (·.finalize now)
  j.tell env (.runCompleted j.run.phase j.run.findings.length)

end Journey

/-- What a run comes to. -/
structure Finished (σ ν : Type) where
  answer : Except RunError (Run ν)
  journey : Journey σ ν

/-- Enter a phase, tell about it and continue; a phase that may not follow ends the run. -/
def advance (env : Surroundings σ ν) (phase : RunPhase) (j : Journey σ ν)
    (continued : Journey σ ν → Finished σ ν) : Finished σ ν :=
  match j.run.transition phase with
  | .error e => ⟨.error e, j⟩
  | .ok run => continued ({ j with run }.tell env (.phaseChanged phase))

/-- End the run without an outcome. -/
def abort (env : Surroundings σ ν) (now : Nat) (e : RunError) (j : Journey σ ν) : Finished σ ν :=
  advance env .aborted j fun j => ⟨.error e, j.complete env now⟩

/-! ## The stages -/

namespace Journey

/-- Correlate the findings of the run and publish them. -/
def withCorrelation (j : Journey σ ν) (env : Surroundings σ ν) (c : CorrelationConfig ν) :
    Journey σ ν :=
  let correlated := correlate c j.run.findings
  let rate := (correlationStats c j.run.findings).dedupRate
  (j.publish env [.findings Topic.findingsCorrelated producer correlated]).update fun r =>
    { r with findings := correlated, stats := { r.stats with dedupRate := rate } }

/-- What triage makes of the findings of the run.  A cancelled run uses no providers. -/
def triage (j : Journey σ ν) (e : TriageEngine σ ν) : TriageEngine.Outcome σ ν :=
  if j.run.cancelled then e.triageByRules j.run.findings j.world
  else e.triage j.run.findings j.world

/-- Triage the findings of the run and publish them. -/
def withTriage (j : Journey σ ν) (env : Surroundings σ ν) (e : TriageEngine σ ν) : Journey σ ν :=
  let o := j.triage e
  ((({ j with world := o.world }).record o.events).publish env
    [.findings Topic.findingsTriaged producer o.findings]).update fun r =>
      { r with findings := o.findings, stats := { r.stats with triageCost := o.summary.cost } }

end Journey

/-- The run after correlation, if it is attached. -/
def correlating (env : Surroundings σ ν) (stage : Option (CorrelationConfig ν)) (j : Journey σ ν)
    (continued : Journey σ ν → Finished σ ν) : Finished σ ν :=
  match stage with
  | none => continued j
  | some c => advance env .correlating j fun j => continued (j.withCorrelation env c)

/-- The run after triage, if it is attached. -/
def triaging (env : Surroundings σ ν) (stage : Option (TriageEngine σ ν)) (j : Journey σ ν)
    (continued : Journey σ ν → Finished σ ν) : Finished σ ν :=
  match stage with
  | none => continued j
  | some e => advance env .triaging j fun j => continued (j.withTriage env e)

/-- The run with the number of its correlated findings. -/
def countCorrelated (r : Run ν) : Run ν :=
  { r with stats := { r.stats with correlatedFindings := r.findings.length } }

/-- The run with the results of the dispatched agents. -/
def withOutcomes (outcomes : List (Outcome ν)) (r : Run ν) : Run ν :=
  { r with
    results := r.results ++ outcomes.map resultOf
    stats := { r.stats with
      successfulAgents := outcomes.countP (·.isSuccess)
      failedAgents := outcomes.countP (!·.isSuccess)
      totalRawFindings := (outcomes.flatMap rawRecords).length
      normalizedFindings := (outcomes.flatMap fun o => (normalized o).findings).length
      rejectedFindings := (outcomes.flatMap fun o => (normalized o).rejected).length } }

/-- The run with the findings of all agents, one agent after the other. -/
def withFindings (outcomes : List (Outcome ν)) (r : Run ν) : Run ν :=
  { r with findings := outcomes.flatMap fun o => (normalized o).findings }

/-- Record and publish what the agents reported. -/
def Journey.withOutcomes (j : Journey σ ν) (env : Surroundings σ ν) (outcomes : List (Outcome ν)) :
    Journey σ ν :=
  ((j.record (outcomes.flatMap eventsOf)).publish env (outcomes.flatMap batchOf)).update
    (Orchestrator.withOutcomes outcomes)

/-- The rest of a run after its tasks are over. -/
def collect (o : Orchestrator α σ ν) (env : Surroundings σ ν) (now : Nat)
    (outcomes : List (Outcome ν)) (j : Journey σ ν) : Finished σ ν :=
  let j := j.withOutcomes env outcomes
  if outcomes.any (·.isSuccess) then
    advance env .aggregated j fun j =>
      correlating env o.correlation (j.update (withFindings outcomes)) fun j =>
        triaging env o.triage (j.update countCorrelated) fun j =>
          advance env .done j fun j =>
            let j := j.complete env now
            ⟨.ok j.run, j⟩
  else abort env now (.allAgentsFailed j.run.results) j

/-! ## The run -/

/-- Build the selected agents, in order. -/
def instantiateAll : List AgentDescriptor → Registry α →
    List (AgentDescriptor × Option (Instance α)) × Registry α
  | [], r => ([], r)
  | d :: ds, r =>
    let (i, r) := r.instantiate d.name
    let (rest, r) := instantiateAll ds r
    ((d, i) :: rest, r)

/-- The task for a selected agent. -/
def taskFor (o : Orchestrator α σ ν) (target : AnalysisTarget)
    (p : AgentDescriptor × Option (Instance α)) : Task ν where
  agent := p.1.name
  work := p.2.map fun i => o.work i.agent target
  timeoutSecs := o.config.timeoutFor p.1.name

/-- The tasks of a run. -/
def tasks (o : Orchestrator α σ ν) (target : AnalysisTarget) (criteria : SelectionCriteria) :
    List (Task ν) :=
  (instantiateAll (o.registry.select target criteria).agents o.registry).1.map (o.taskFor target)

/-- The run with what the selection skipped. -/
def withSelection (s : Selection) (r : Run ν) : Run ν :=
  { r with
    results := r.results ++ s.unavailable.map fun d => .skipped d.name notInstalled
    stats := { r.stats with
      selectedAgents := s.agents.length
      skippedAgents := s.unavailable.length } }

/-- Record what the selection skipped and tell that the run starts. -/
def Journey.withSelection (j : Journey σ ν) (env : Surroundings σ ν) (target : AnalysisTarget)
    (s : Selection) : Journey σ ν :=
  let j := (j.record (s.unavailable.map fun d => .agentSkipped d.name notInstalled)).update
    (Orchestrator.withSelection s)
  j.tell env (.runStarted target.path (s.agents.map (·.name)))

/-- The run after the dispatch of its tasks. -/
def Journey.withReport (j : Journey σ ν) (report : Dispatch.Report σ ν) : Journey σ ν :=
  { j with
    messages := j.messages ++ report.messages
    world := report.world
    run := { j.run with cancelled := report.cancelled } }

/-- Where and when a run takes place: its identity, the time of its start, and the time at which it
is cancelled from outside, if it is. -/
structure Occasion where
  id : RunId
  start : Nat := 0
  cancelAt : Option Nat := none

/-- Carry out a run.  The registry is returned too, since agents may have been built. -/
def run (o : Orchestrator α σ ν) (env : Surroundings σ ν) (occasion : Occasion)
    (target : AnalysisTarget) (criteria : SelectionCriteria) (w : σ) :
    Finished σ ν × Registry α :=
  let s := o.registry.select target criteria
  let start : Journey σ ν := ⟨Run.idle occasion.id target occasion.start, [], [], w⟩
  let finished := advance env .selecting start fun j =>
    let j := j.withSelection env target s
    if s.agents.isEmpty then
      abort env occasion.start (.noAgentsSelected s.unavailable.length) j
    else
      advance env .dispatching j fun j =>
        advance env .collecting j fun j =>
          let report := Dispatch.dispatch env occasion.id (o.config.capacity s.agents.length)
            occasion.cancelAt occasion.start (o.tasks target criteria) j.world
          o.collect env report.now report.outcomes (j.withReport report)
  (finished, (instantiateAll s.agents o.registry).2)

end Orchestrator

end Vigil
