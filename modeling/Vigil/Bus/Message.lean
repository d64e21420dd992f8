import Vigil.Finding.Codec
import Vigil.Run.Phase

/-!
# Messages

A message tells the subscribers of a topic about the progress of a run or brings them findings.
-/

namespace Vigil

/-- A step in the progress of a run. -/
inductive ProgressEvent where
  | runStarted (target : String) (agents : List String)
  | phaseChanged (phase : RunPhase)
  | agentStarted (agent : String)
  | agentFinished (agent : String) (status : AnalysisStatus) (durationMs rawFindings : Nat)
  | runCompleted (phase : RunPhase) (findings : Nat)
deriving DecidableEq, Repr

/-- The agent that a step concerns, if it concerns one. -/
def ProgressEvent.agent? : ProgressEvent → Option String
  | agentStarted agent => some agent
  | agentFinished agent .. => some agent
  | _ => none

/-- What a message carries. -/
inductive Payload (ν : Type) where
  | progress (run : RunId) (event : ProgressEvent)
  | findings (batch : List (Finding ν))
deriving DecidableEq, Repr

namespace Payload

variable {ν : Type}

/-- The progress that is carried. -/
def progress? : Payload ν → Option (RunId × ProgressEvent)
  | .progress run event => some (run, event)
  | .findings _ => none

/-- The findings that are carried. -/
def findings? : Payload ν → Option (List (Finding ν))
  | .progress .. => none
  | .findings batch => some batch

end Payload

/-! ## Topics -/

namespace Topic

/-- Where the progress of runs is told. -/
def runProgress : String := "run.progress"

/-- Where each agent's normalized findings are published. -/
def findingsRaw : String := "findings.raw"

/-- Where the correlated findings of a run are published. -/
def findingsCorrelated : String := "findings.correlated"

/-- Where the findings of a run are published after triage. -/
def findingsTriaged : String := "findings.triaged"

/-- The three topics for findings. -/
def forFindings : List String := [findingsRaw, findingsCorrelated, findingsTriaged]

end Topic

/-- A message on a topic. -/
structure Message (ν : Type) where
  topic : String
  producer : String
  payload : Payload ν
deriving DecidableEq, Repr

namespace Message

variable {ν : Type}

/-- A message about the progress of a run. -/
def progress (producer : String) (run : RunId) (event : ProgressEvent) : Message ν :=
  ⟨Topic.runProgress, producer, .progress run event⟩

/-- A message with findings. -/
def findings (topic producer : String) (batch : List (Finding ν)) : Message ν :=
  ⟨topic, producer, .findings batch⟩

end Message

/-! ## Form -/

/-- The kind of a step, and the members that it adds to its object. -/
def ProgressEvent.members : ProgressEvent → List (String × Json)
  | runStarted target agents =>
    [("agents", Json.texts agents), ("target", .text target), ("type", .text "run_started")]
  | phaseChanged phase => [("phase", .text phase.name), ("type", .text "phase_changed")]
  | agentStarted agent => [("agent", .text agent), ("type", .text "agent_started")]
  | agentFinished agent status durationMs rawFindings =>
    [("agent", .text agent), ("duration_ms", Json.nat durationMs),
      ("raw_findings", Json.nat rawFindings), ("status", .text status.name),
      ("type", .text "agent_finished")]
  | runCompleted phase findings =>
    [("findings", Json.nat findings), ("phase", .text phase.name), ("type", .text "run_completed")]

/-- A step of a run as an object. -/
def ProgressEvent.toJson (run : RunId) (e : ProgressEvent) : Json :=
  .object (("run_id", .text run.text) :: e.members)

/-- What a message carries, with its kind. -/
def Payload.toJson : Payload Float → Json
  | .progress run event => .object [("data", event.toJson run), ("kind", .text "progress")]
  | .findings batch =>
    .object [("data", .list (batch.map Finding.toJson)), ("kind", .text "findings")]

/-- A message as an object. -/
def Message.toJson (m : Message Float) : Json :=
  .object
    [("payload", m.payload.toJson), ("producer", .text m.producer), ("topic", .text m.topic)]

end Vigil
