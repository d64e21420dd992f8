import Vigil.Finding.Raw

/-!
# Normalization

Normalization checks the records of one agent and turns each acceptable one into a pending
finding.  A record that fails is rejected with a reason and does not affect the others.  The id of
a finding names its agent, type, file and lines; of several findings of a batch with the same id,
all but the first carry an ordinal.
-/

namespace Vigil

variable {ν : Type}

/-- Why a record was rejected. -/
inductive RejectReason where
  | undecodable (reason : String)
  | missing (field : String)
  | unknownSeverity (form : String)
  | notFinite (number : String)
deriving DecidableEq, Repr

/-- The wording of a reason. -/
def RejectReason.message : RejectReason → String
  | undecodable reason => reason
  | missing field => s!"missing field '{field}'"
  | unknownSeverity form => Severity.unknownMessage form
  | notFinite number => s!"confidence is not finite: {number}"

/-- A rejected record: the agent that reported it and its position in the batch. -/
structure Rejection where
  agent : String
  index : Nat
  reason : RejectReason
deriving DecidableEq, Repr

/-- The wording for a malformed record. -/
def malformedMessage (agent : String) (index : Nat) (reason : String) : String :=
  s!"Malformed finding #{index} from '{agent}': {reason}"

/-- The wording of a rejection. -/
def Rejection.message (r : Rejection) : String :=
  malformedMessage r.agent r.index r.reason.message

/-- The result of normalizing a batch. -/
structure Normalized (ν : Type) where
  findings : List (Finding ν)
  rejected : List Rejection
deriving Repr

namespace Normalize

variable [Quantity ν]

/-! ## One record -/

/-- The confidence of a finding that was reported without one. -/
def defaultConfidence : ν := Quantity.decimal 5 1

/-- A text without outer blanks, unless nothing remains. -/
def trimmed? (s : Option String) : Option String :=
  (s.map Text.trim).filter (· != "")

/-- A field that must hold more than blanks. -/
def requiredText (name : String) (s : Option String) : Except RejectReason String :=
  match trimmed? s with
  | some t => .ok t
  | none => .error (.missing name)

/-- The first line, which a record must give. -/
def lineOf (n : Option UInt32) : Except RejectReason UInt32 :=
  match n with
  | some line => .ok line
  | none => .error (.missing "line")

/-- The severity named by a record; medium if it names none. -/
def severityOf (s : Option String) : Except RejectReason Severity :=
  match s with
  | none => .ok .medium
  | some t =>
    match Severity.parse t with
    | .ok d => .ok d
    | .error form => .error (.unknownSeverity form)

/-- The confidence of a record, brought between zero and one. -/
def confidenceOf (c : Option ν) : Except RejectReason ν :=
  match c with
  | none => .ok defaultConfidence
  | some x =>
    if Quantity.isFinite x then .ok (Quantity.clampUnit x)
    else .error (.notFinite (Quantity.plain x))

/-- The location of a record; the two lines may be given in either order. -/
def locationOf (file : String) (line : UInt32) (endLine : Option UInt32)
    (function : Option String) : Location :=
  { Location.between file line (endLine.getD line) with function := trimmed? function }

/-- The id of a finding, as long as no other finding of its batch has it. -/
def baseId (agent findingType : String) (l : Location) : String :=
  s!"{agent}:{findingType}:{l.file}:{l.startLine.toNat}-{l.endLine.toNat}"

/-- The finding that a record describes. -/
def record (agent : String) (r : RawFields ν) : Except RejectReason (Finding ν) := do
  let type ← requiredText "type" r.findingType
  let file ← requiredText "file" r.file
  let line ← lineOf r.line
  let severity ← severityOf r.severity
  let confidence ← confidenceOf r.confidence
  let findingType := Text.lowercase type
  let location := locationOf file line r.endLine r.function
  .ok {
    id := baseId agent findingType location
    findingType, severity, confidence, location
    description := r.description.getD ""
    agents := OrderedSet.singleton agent
    status := .pending }

/-- The finding that a reported record describes. -/
def one (agent : String) : RawFinding ν → Except RejectReason (Finding ν)
  | .undecodable reason => .error (.undecodable reason)
  | .record r => record agent r

/-! ## A batch -/

/-- The id of the `n`-th finding with one id. -/
def ordinalId (id : String) (n : Nat) : String :=
  if n ≤ 1 then id else s!"{id}#{n}"

/-- Give the findings their ordinals; `seen` holds the ids of those before them. -/
def numberIds (seen : List String) : List (Finding ν) → List (Finding ν)
  | [] => []
  | f :: rest =>
    { f with id := ordinalId f.id (seen.count f.id + 1) } :: numberIds (f.id :: seen) rest

/-- The findings among some results. -/
def accepted : List (Except RejectReason (Finding ν)) → List (Finding ν)
  | [] => []
  | .ok f :: rest => f :: accepted rest
  | .error _ :: rest => accepted rest

/-- The rejections among some results, the first of which has position `i`. -/
def rejections (agent : String) (i : Nat) :
    List (Except RejectReason (Finding ν)) → List Rejection
  | [] => []
  | .ok _ :: rest => rejections agent (i + 1) rest
  | .error reason :: rest => ⟨agent, i, reason⟩ :: rejections agent (i + 1) rest

end Normalize

/-- Normalize the records that one agent reported. -/
def normalize [Quantity ν] (agent : String) (batch : List (RawFinding ν)) : Normalized ν :=
  let results := batch.map (Normalize.one agent)
  ⟨Normalize.numberIds [] (Normalize.accepted results), Normalize.rejections agent 0 results⟩

/-! ## Sizes -/

theorem length_numberIds (seen : List String) (l : List (Finding ν)) :
    (Normalize.numberIds seen l).length = l.length := by
  induction l generalizing seen with
  | nil => rfl
  | cons f rest ih => simp [Normalize.numberIds, ih]

theorem length_accepted_add_rejections (agent : String) (i : Nat)
    (l : List (Except RejectReason (Finding ν))) :
    (Normalize.accepted l).length + (Normalize.rejections agent i l).length = l.length := by
  induction l generalizing i with
  | nil => rfl
  | cons r rest ih =>
    cases r with
    | ok f =>
      have := ih (i + 1)
      simp only [Normalize.accepted, Normalize.rejections, List.length_cons]
      omega
    | error e =>
      have := ih (i + 1)
      simp only [Normalize.accepted, Normalize.rejections, List.length_cons]
      omega

end Vigil
