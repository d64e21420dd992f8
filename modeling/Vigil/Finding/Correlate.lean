import Vigil.Finding.Basic

/-!
# Correlation

Findings of one type that overlap within a tolerance are the same issue.  Correlation sorts the
findings, walks through them once, and merges each maximal chain of overlapping findings into one,
which is the more confident the more agents agree on it.
-/

namespace Vigil

variable {ν : Type}

/-- How close findings must be to be one issue, and how much agreement adds to the confidence. -/
structure CorrelationConfig (ν : Type) where
  lineTolerance : UInt32
  twoAgentBoost : ν
  multiAgentBoost : ν
deriving DecidableEq, Repr

/-- What correlation did to a list of findings. -/
structure CorrelationStats (ν : Type) where
  input : Nat
  output : Nat
  mergedGroups : Nat
  dedupRate : ν
deriving DecidableEq, Repr

/-- The parameters used where nothing else is configured. -/
def CorrelationConfig.standard [Quantity ν] : CorrelationConfig ν :=
  ⟨3, Quantity.decimal 15 2, Quantity.decimal 25 2⟩

/-- What the agreement of a number of agents adds. -/
def CorrelationConfig.boost [Quantity ν] (c : CorrelationConfig ν) : Nat → ν
  | 0 | 1 => 0
  | 2 => c.twoAgentBoost
  | _ => c.multiAgentBoost

namespace Correlate

/-! ## Order -/

/-- The order in which findings are walked through: by type, file, lines and id. -/
def order (a b : Finding ν) : Ordering :=
  (compare a.findingType b.findingType).then <|
  (compare a.location.file b.location.file).then <|
  (compare a.location.startLine b.location.startLine).then <|
  (compare a.location.endLine b.location.endLine).then <|
  compare a.id b.id

/-- The findings in order. -/
def sort (findings : List (Finding ν)) : List (Finding ν) :=
  findings.mergeSort fun a b => (order a b).isLE

/-! ## Chains -/

/-- The type and the lines that a chain of findings covers so far. -/
structure Reach where
  findingType : String
  location : Location

/-- What a single finding covers. -/
def Reach.of (f : Finding ν) : Reach :=
  ⟨f.findingType, Location.between f.location.file f.location.startLine f.location.endLine⟩

/-- Does the finding continue the chain? -/
def Reach.joins (r : Reach) (tolerance : UInt32) (f : Finding ν) : Bool :=
  r.findingType == f.findingType && r.location.overlaps f.location tolerance

/-- What the chain covers with one more finding. -/
def Reach.extend (r : Reach) (f : Finding ν) : Reach :=
  { r with location := { r.location with endLine := max r.location.endLine f.location.endLine } }

/-- Split ordered findings into chains, where `chain` is the one being built. -/
def chainsFrom (tolerance : UInt32) (reach : Reach) (chain : List (Finding ν)) :
    List (Finding ν) → List (List (Finding ν))
  | [] => [chain]
  | f :: rest =>
    if reach.joins tolerance f then
      chainsFrom tolerance (reach.extend f) (chain ++ [f]) rest
    else chain :: chainsFrom tolerance (Reach.of f) [f] rest

/-- Split ordered findings into chains. -/
def chains (tolerance : UInt32) : List (Finding ν) → List (List (Finding ν))
  | [] => []
  | f :: rest => chainsFrom tolerance (Reach.of f) [f] rest

/-! ## Merging -/

variable [Quantity ν]

/-- Does `a` lead `b`?  The more confident finding leads; of equally confident ones that with the
lesser id. -/
def leads (a b : Finding ν) : Bool :=
  !Quantity.precedes a.confidence b.confidence ||
    (Quantity.precedes b.confidence a.confidence && decide (a.id < b.id))

/-- The finding that leads all others. -/
def leader (f : Finding ν) (rest : List (Finding ν)) : Finding ν :=
  rest.foldl (fun a b => if leads a b then a else b) f

/-- The least of some texts. -/
def leastText? : List String → Option String
  | [] => none
  | a :: rest => some (rest.foldl (fun x y => if y < x then y else x) a)

/-- The greatest of some severities. -/
def greatestSeverity? : List Severity → Option Severity
  | [] => none
  | a :: rest => some (rest.foldl max a)

/-- One finding for a chain: the leader's, with the agents, lines and severities of all. -/
def merge (c : CorrelationConfig ν) (f : Finding ν) (rest : List (Finding ν)) : Finding ν :=
  let all := f :: rest
  let agents := all.foldl (fun s g => s.union g.agents) OrderedSet.empty
  let lead := leader f rest
  { lead with
    id := rest.foldl (fun x g => if g.id < x then g.id else x) f.id
    agents := agents
    confidence := Quantity.least (lead.confidence * (1 + c.boost agents.size)) 1
    severity := rest.foldl (fun s g => max s g.severity) f.severity
    location := { lead.location with
      startLine := rest.foldl (fun n g => min n g.location.startLine) f.location.startLine
      endLine := rest.foldl (fun n g => max n g.location.endLine) f.location.endLine
      function := leastText? (all.filterMap (·.location.function)) }
    adjustedSeverity := greatestSeverity? (all.filterMap (·.adjustedSeverity)) }

/-- One finding for a chain; a chain of one is left as it is. -/
def mergeChain (c : CorrelationConfig ν) : List (Finding ν) → List (Finding ν)
  | [] => []
  | [f] => [f]
  | f :: g :: rest => [merge c f (g :: rest)]

/-- The share of findings that were merged away; zero if there were none. -/
def dedupRate (input output : Nat) : ν :=
  if input = 0 then 0 else 1 - Quantity.ofNat output / Quantity.ofNat input

end Correlate

open Correlate

variable [Quantity ν]

/-- Merge the findings that are the same issue. -/
def correlate (c : CorrelationConfig ν) (findings : List (Finding ν)) : List (Finding ν) :=
  (chains c.lineTolerance (sort findings)).flatMap (mergeChain c)

/-- What `correlate` does to some findings. -/
def correlationStats (c : CorrelationConfig ν) (findings : List (Finding ν)) :
    CorrelationStats ν :=
  let cs := chains c.lineTolerance (sort findings)
  let output := (cs.flatMap (mergeChain c)).length
  ⟨findings.length, output, cs.countP (fun g => 1 < g.length), dedupRate findings.length output⟩

/-! ## Chains lose nothing -/

omit [Quantity ν] in
theorem flatten_chainsFrom (t : UInt32) (r : Reach) (chain rest : List (Finding ν)) :
    (chainsFrom t r chain rest).flatten = chain ++ rest := by
  induction rest generalizing r chain with
  | nil => simp [chainsFrom]
  | cons f rest ih =>
    simp only [chainsFrom]
    split <;> simp [ih]

omit [Quantity ν] in
theorem flatten_chains (t : UInt32) (l : List (Finding ν)) : (chains t l).flatten = l := by
  cases l with
  | nil => rfl
  | cons f rest => simp [chains, flatten_chainsFrom]

end Vigil
