import Vigil.OrderedSet
import Vigil.Text.Lowercase

/-!
# Agent descriptors

A descriptor says what an agent can do, what it costs, how fast it is, which languages it reads
and whether it was found to be available.  Languages are kept in lower case; an agent that names
none reads all of them.  The analysis of an agent can fail in four ways.
-/

namespace Vigil

/-! ## Capabilities -/

/-- A kind of analysis. -/
inductive Capability where
  | staticAnalysis | dynamicFuzzing | symbolicExecution | formalVerification | aiAnalysis | linting
deriving DecidableEq, Repr, Inhabited

namespace Capability

/-- The position of a capability. -/
def rank : Capability → Nat
  | staticAnalysis => 0
  | dynamicFuzzing => 1
  | symbolicExecution => 2
  | formalVerification => 3
  | aiAnalysis => 4
  | linting => 5

theorem rank_injective (a b : Capability) (h : a.rank = b.rank) : a = b := by
  revert h
  cases a <;> cases b <;> decide

instance : Ranked Capability := ⟨rank, rank_injective⟩

instance : LE Capability := Ranked.toLE

instance : LT Capability := Ranked.toLT

instance : Std.IsLinearOrder Capability := Ranked.isLinearOrder

instance : Std.LawfulOrderLT Capability := Ranked.lawfulOrderLT

instance : DecidableLT Capability := fun a b => inferInstanceAs (Decidable (a.rank < b.rank))

/-- The name of a capability. -/
def name : Capability → String
  | staticAnalysis => "static-analysis"
  | dynamicFuzzing => "dynamic-fuzzing"
  | symbolicExecution => "symbolic-execution"
  | formalVerification => "formal-verification"
  | aiAnalysis => "ai-analysis"
  | linting => "linting"

/-- All capabilities with their names. -/
def table : List (String × Capability) :=
  [("static-analysis", staticAnalysis), ("dynamic-fuzzing", dynamicFuzzing),
    ("symbolic-execution", symbolicExecution), ("formal-verification", formalVerification),
    ("ai-analysis", aiAnalysis), ("linting", linting)]

end Capability

/-! ## Cost and speed -/

/-- Does an agent cost money? -/
inductive CostClass where
  | free | paid
deriving DecidableEq, Repr, Inhabited

namespace CostClass

/-- The position of a cost class, the cheaper first. -/
def rank : CostClass → Nat
  | free => 0
  | paid => 1

/-- The name of a cost class. -/
def name : CostClass → String
  | free => "free"
  | paid => "paid"

/-- All cost classes with their names. -/
def table : List (String × CostClass) :=
  [("free", free), ("paid", paid)]

end CostClass

/-- How long an agent takes: seconds, minutes or longer. -/
inductive SpeedClass where
  | fast | medium | slow
deriving DecidableEq, Repr, Inhabited

namespace SpeedClass

/-- The position of a speed class, the faster first. -/
def rank : SpeedClass → Nat
  | fast => 0
  | medium => 1
  | slow => 2

/-- The name of a speed class. -/
def name : SpeedClass → String
  | fast => "fast"
  | medium => "medium"
  | slow => "slow"

/-- All speed classes with their names. -/
def table : List (String × SpeedClass) :=
  [("fast", fast), ("medium", medium), ("slow", slow)]

/-- The slowest class that fits into a time budget, given in nanoseconds: below ten seconds, below
ten minutes, or longer. -/
def ceilingFor (nanoseconds : Nat) : SpeedClass :=
  if nanoseconds < 10000000000 then fast
  else if nanoseconds < 600000000000 then medium
  else slow

end SpeedClass

/-! ## Descriptors -/

/-- What is known about an agent. -/
structure AgentDescriptor where
  name : String
  capabilities : OrderedSet Capability := OrderedSet.empty
  cost : CostClass := .free
  speed : SpeedClass := .medium
  languages : List String := []
  available : Bool := true
deriving DecidableEq, Repr, Inhabited

namespace AgentDescriptor

/-- The descriptor with one more language, which is put into lower case. -/
def withLanguage (d : AgentDescriptor) (language : String) : AgentDescriptor :=
  { d with languages := d.languages ++ [Text.lowercase language] }

/-- The descriptor with one more capability. -/
def withCapability (d : AgentDescriptor) (c : Capability) : AgentDescriptor :=
  { d with capabilities := d.capabilities.insert c }

/-- Does the agent read this language?  Case does not matter for the 26 plain letters. -/
def supportsLanguage (d : AgentDescriptor) (language : String) : Bool :=
  d.languages.isEmpty || d.languages.any (Text.eqPlainCase · language)

theorem supportsLanguage_of_nil {d : AgentDescriptor} (h : d.languages = []) (l : String) :
    d.supportsLanguage l = true := by
  simp [supportsLanguage, h]

end AgentDescriptor

/-!
## Filtering agents

A filter holds for a descriptor if each of its conditions does; what is not set is no condition.
-/

/-- Conditions on a descriptor. -/
structure AgentFilter where
  language : Option String := none
  capabilities : List Capability := []
  maxCost : Option CostClass := none
  maxSpeed : Option SpeedClass := none
  availableOnly : Bool := false
deriving DecidableEq, Repr, Inhabited

/-- Does the descriptor meet the conditions?  One of the capabilities is enough. -/
def AgentFilter.accepts (f : AgentFilter) (d : AgentDescriptor) : Bool :=
  (!f.availableOnly || d.available) &&
  f.language.all d.supportsLanguage &&
  (f.capabilities.isEmpty || f.capabilities.any d.capabilities.contains) &&
  f.maxCost.all (fun c => d.cost.rank ≤ c.rank) &&
  f.maxSpeed.all (fun s => d.speed.rank ≤ s.rank)

/-- The order in which agents are listed: the faster first, then by name. -/
def AgentDescriptor.listedBefore (a b : AgentDescriptor) : Bool :=
  a.speed.rank < b.speed.rank || (a.speed.rank == b.speed.rank && !decide (b.name < a.name))

/-! ## Failures -/

/-- Why an agent gave no findings. -/
inductive AgentError where
  | unavailable (reason : String)
  | timeout (agent : String) (afterMs : Nat)
  | execution (reason : String)
  | cancelled
deriving DecidableEq, Repr, Inhabited

/-- The wording of an agent's failure. -/
def AgentError.message : AgentError → String
  | unavailable reason => s!"Agent unavailable: {reason}"
  | timeout agent ms => s!"Agent '{agent}' timed out after {ms}ms"
  | execution reason => s!"Agent execution failed: {reason}"
  | cancelled => "Agent cancelled"

end Vigil
