import Vigil.Finding.Codec
import Vigil.Run.Phase

/-!
# The audit log

Everything that a run had to do without, and every decision of triage, is recorded as an event.  The
log only ever grows at its end: an entry holds an event, the run it belongs to, if any, and its
position.
-/

namespace Vigil

/-! ## Events -/

/-- Something worth recording. -/
inductive AuditEvent (ν : Type) where
  | agentSkipped (agent reason : String)
  | agentFailed (agent : String) (status : AnalysisStatus) (error : String)
  | malformedFinding (agent : String) (index : Nat) (reason : String)
  | providerFailed (findingId provider error : String)
  | costCeilingExceeded (findingId provider : String) (estimated limit : ν)
  | classified (findingId : String) (classification : Classification ν) (status : TriageStatus)
  | humanReviewRequired (findingId : String) (severity : Severity)
deriving DecidableEq, Repr

namespace AuditEvent

variable {ν : Type}

/-- The name of the kind of an event. -/
def kind : AuditEvent ν → String
  | agentSkipped .. => "agent_skipped"
  | agentFailed .. => "agent_failed"
  | malformedFinding .. => "malformed_finding"
  | providerFailed .. => "provider_failed"
  | costCeilingExceeded .. => "cost_ceiling_exceeded"
  | classified .. => "classified"
  | humanReviewRequired .. => "human_review_required"

/-- Does the event record an attempt of a provider that came to nothing? -/
def isAttempt : AuditEvent ν → Bool
  | providerFailed .. | costCeilingExceeded .. => true
  | _ => false

end AuditEvent

/-! ## The log -/

/-- An event in the log. -/
structure AuditEntry (ν : Type) where
  seq : Nat
  run : Option RunId
  event : AuditEvent ν
deriving DecidableEq, Repr

/-- The recorded events, oldest first. -/
structure AuditLog (ν : Type) where
  entries : List (AuditEntry ν) := []
deriving Repr

namespace AuditLog

variable {ν : Type}

/-- The number of entries. -/
def size (log : AuditLog ν) : Nat :=
  log.entries.length

/-- Is nothing recorded? -/
def isEmpty (log : AuditLog ν) : Bool :=
  log.entries.isEmpty

/-- Record an event. -/
def record (log : AuditLog ν) (run : Option RunId) (event : AuditEvent ν) : AuditLog ν :=
  ⟨log.entries ++ [⟨log.size, run, event⟩]⟩

/-- Record several events, in order. -/
def recordAll (log : AuditLog ν) (run : Option RunId) (events : List (AuditEvent ν)) :
    AuditLog ν :=
  events.foldl (fun log e => log.record run e) log

/-- The entries of one run. -/
def entriesFor (log : AuditLog ν) (run : RunId) : List (AuditEntry ν) :=
  log.entries.filter fun e => e.run = some run

/-- The events of one run. -/
def eventsFor (log : AuditLog ν) (run : RunId) : List (AuditEvent ν) :=
  (log.entriesFor run).map (·.event)

/-- Are the entries numbered from zero in the order of the log? -/
def IsNumbered (log : AuditLog ν) : Prop :=
  log.entries.map (·.seq) = List.range log.size

/-! ## Laws -/

@[simp]
theorem entries_record (log : AuditLog ν) (run : Option RunId) (event : AuditEvent ν) :
    (log.record run event).entries = log.entries ++ [⟨log.size, run, event⟩] := rfl

@[simp]
theorem size_record (log : AuditLog ν) (run : Option RunId) (event : AuditEvent ν) :
    (log.record run event).size = log.size + 1 := by
  simp [size]

/-- The log grows at its end by the events, numbered on from its size. -/
theorem entries_recordAll (log : AuditLog ν) (run : Option RunId) (events : List (AuditEvent ν)) :
    (log.recordAll run events).entries =
      log.entries ++ events.mapIdx fun i event => ⟨log.size + i, run, event⟩ := by
  induction events generalizing log with
  | nil => simp [recordAll]
  | cons event rest ih =>
    have hrest := ih (log.record run event)
    rw [recordAll] at hrest ⊢
    rw [List.foldl_cons, hrest, entries_record, size_record, List.mapIdx_cons, List.append_assoc,
      List.singleton_append]
    simp only [Nat.add_zero, Nat.add_assoc, Nat.add_comm 1]

@[simp]
theorem eventsFor_record_self (log : AuditLog ν) (run : RunId) (event : AuditEvent ν) :
    (log.record (some run) event).eventsFor run = log.eventsFor run ++ [event] := by
  simp [eventsFor, entriesFor]

theorem eventsFor_record_of_ne {run other : RunId} (h : other ≠ run) (log : AuditLog ν)
    (event : AuditEvent ν) :
    (log.record (some other) event).eventsFor run = log.eventsFor run := by
  simp [eventsFor, entriesFor, h]

/-- What is recorded for a run follows what was recorded for it before. -/
theorem eventsFor_recordAll (log : AuditLog ν) (run : RunId) (events : List (AuditEvent ν)) :
    (log.recordAll (some run) events).eventsFor run = log.eventsFor run ++ events := by
  induction events generalizing log with
  | nil => simp [recordAll]
  | cons event rest ih =>
    have hrest := ih (log.record (some run) event)
    rw [recordAll] at hrest ⊢
    rw [List.foldl_cons, hrest, eventsFor_record_self, List.append_assoc, List.singleton_append]

theorem eventsFor_recordAll_of_ne {run other : RunId} (h : other ≠ run) (log : AuditLog ν)
    (events : List (AuditEvent ν)) :
    (log.recordAll (some other) events).eventsFor run = log.eventsFor run := by
  induction events generalizing log with
  | nil => rfl
  | cons event rest ih =>
    have hrest := ih (log.record (some other) event)
    rw [eventsFor_record_of_ne h] at hrest
    exact hrest

/-- Recording leaves the earlier entries as they are. -/
theorem prefix_recordAll (log : AuditLog ν) (run : Option RunId) (events : List (AuditEvent ν)) :
    log.entries <+: (log.recordAll run events).entries := by
  rw [entries_recordAll]
  exact List.prefix_append _ _

theorem isNumbered_empty : ({} : AuditLog ν).IsNumbered := rfl

theorem IsNumbered.record {log : AuditLog ν} (h : log.IsNumbered) (run : Option RunId)
    (event : AuditEvent ν) : (log.record run event).IsNumbered := by
  rw [IsNumbered] at h ⊢
  rw [entries_record, List.map_append, h, size_record, List.range_succ]
  rfl

theorem IsNumbered.recordAll {log : AuditLog ν} (h : log.IsNumbered) (run : Option RunId)
    (events : List (AuditEvent ν)) : (log.recordAll run events).IsNumbered := by
  induction events generalizing log with
  | nil => exact h
  | cons event rest ih => exact ih (h.record run event)

end AuditLog

/-! ## Form -/

/-- The members that an event adds to an entry. -/
def AuditEvent.members : AuditEvent Float → List (String × Json)
  | agentSkipped agent reason => [("agent", .text agent), ("reason", .text reason)]
  | agentFailed agent status error =>
    [("agent", .text agent), ("error", .text error), ("status", .text status.name)]
  | malformedFinding agent index reason =>
    [("agent", .text agent), ("index", Json.nat index), ("reason", .text reason)]
  | providerFailed findingId provider error =>
    [("error", .text error), ("finding_id", .text findingId), ("provider", .text provider)]
  | costCeilingExceeded findingId provider estimated limit =>
    [("estimated", Json.float estimated), ("finding_id", .text findingId),
      ("limit", Json.float limit), ("provider", .text provider)]
  | classified findingId c status =>
    [("confidence", Json.float c.confidence), ("cost", Json.float c.cost),
      ("finding_id", .text findingId), ("model", Json.orNull (c.model.map Json.Tree.text)),
      ("provider", .text c.provider), ("rationale", .text c.rationale),
      ("status", .text status.name), ("true_positive", .bool c.truePositive)]
  | humanReviewRequired findingId severity =>
    [("finding_id", .text findingId), ("severity", .text severity.name)]

/-- An entry as an object, with further members in the place of its run. -/
def AuditEntry.toJsonWith (run : List (String × Json)) (e : AuditEntry Float) : Json :=
  .object (("event", .text e.event.kind) :: ("seq", Json.nat e.seq) :: run ++ e.event.members)

/-- An entry as an object; the run is left out if there is none. -/
def AuditEntry.toJson (e : AuditEntry Float) : Json :=
  e.toJsonWith (Json.optionalMember "run_id" (e.run.map fun r => .text r.text))

end Vigil
