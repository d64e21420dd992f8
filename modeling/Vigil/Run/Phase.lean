import Vigil.Json.Printer

/-!
# Phases of a run

A run goes through its phases in one direction; correlation and triage may be left out.  It ends
done or aborted, and it may be aborted from every phase before.
-/

namespace Vigil

/-- A phase of a run. -/
inductive RunPhase where
  | idle | selecting | dispatching | collecting | aggregated | correlating | triaging | done | aborted
deriving DecidableEq, Repr, Inhabited

namespace RunPhase

/-- All phases with their names. -/
def table : List (String × RunPhase) :=
  [("idle", idle), ("selecting", selecting), ("dispatching", dispatching),
    ("collecting", collecting), ("aggregated", aggregated), ("correlating", correlating),
    ("triaging", triaging), ("done", done), ("aborted", aborted)]

/-- The name of a phase. -/
def name : RunPhase → String
  | idle => "idle"
  | selecting => "selecting"
  | dispatching => "dispatching"
  | collecting => "collecting"
  | aggregated => "aggregated"
  | correlating => "correlating"
  | triaging => "triaging"
  | done => "done"
  | aborted => "aborted"

/-- The name of a phase in a message. -/
def title : RunPhase → String
  | idle => "Idle"
  | selecting => "Selecting"
  | dispatching => "Dispatching"
  | collecting => "Collecting"
  | aggregated => "Aggregated"
  | correlating => "Correlating"
  | triaging => "Triaging"
  | done => "Done"
  | aborted => "Aborted"

/-- Is this the end of a run? -/
def isTerminal (p : RunPhase) : Bool :=
  p == done || p == aborted

/-- The phases that may follow a phase, apart from the abort. -/
def successors : RunPhase → List RunPhase
  | idle => [selecting]
  | selecting => [dispatching]
  | dispatching => [collecting]
  | collecting => [aggregated]
  | aggregated => [correlating, triaging, done]
  | correlating => [triaging, done]
  | triaging => [done]
  | done | aborted => []

/-- May the second phase follow the first? -/
def allows (p next : RunPhase) : Bool :=
  (next == aborted && !p.isTerminal) || p.successors.contains next

theorem not_allows_of_isTerminal {p : RunPhase} (h : p.isTerminal = true) (next : RunPhase) :
    p.allows next = false := by
  revert h
  cases p <;> cases next <;> decide

theorem allows_aborted_iff {p : RunPhase} : p.allows aborted = true ↔ p.isTerminal = false := by
  cases p <;> decide

end RunPhase

/-! ## Outcomes of agents -/

/-- How the analysis of one agent ended. -/
inductive AnalysisStatus where
  | success | timeout | error | skipped | cancelled
deriving DecidableEq, Repr, Inhabited

namespace AnalysisStatus

/-- All outcomes with their names. -/
def table : List (String × AnalysisStatus) :=
  [("success", success), ("timeout", timeout), ("error", error), ("skipped", skipped),
    ("cancelled", cancelled)]

/-- The name of an outcome. -/
def name : AnalysisStatus → String
  | success => "success"
  | timeout => "timeout"
  | error => "error"
  | skipped => "skipped"
  | cancelled => "cancelled"

end AnalysisStatus

/-!
## Identities of runs

A run is named by sixteen random bytes, six bits of which are fixed.  They are written in base
sixteen, in five groups.
-/

/-- The identity of a run. -/
structure RunId where
  text : String
deriving DecidableEq, Repr, Inhabited

namespace RunId

/-- The bytes of an identity, made from random ones: the version is four, the variant is two. -/
def fixBits (bytes : List Nat) : List Nat :=
  (bytes.modify 6 fun b => 64 + b % 16).modify 8 fun b => 128 + b % 64

/-- A byte in base sixteen. -/
def byteText (b : Nat) : List Char :=
  [Json.hexDigit (b / 16), Json.hexDigit (b % 16)]

/-- The identity made from sixteen random bytes. -/
def ofBytes (bytes : List Nat) : RunId :=
  let group (start n : Nat) : List Char := (((fixBits bytes).drop start).take n).flatMap byteText
  ⟨String.ofList (group 0 4 ++ '-' :: group 4 2 ++ '-' :: group 6 2 ++ '-' :: group 8 2 ++
    '-' :: group 10 6)⟩

end RunId

end Vigil
