import Vigil.Finding.Location
import Vigil.Finding.Severity
import Vigil.Quantity

/-!
# Findings

A finding is an issue reported by one or more agents.  It starts out pending; triage gives it a
classification and a status, and what must be reviewed by a human stays flagged until a human has
decided.
-/

namespace Vigil

/-- What triage has made of a finding. -/
inductive TriageStatus where
  | pending | confirmed | falsePositive | needsHumanReview
deriving DecidableEq, Repr, Inhabited

namespace TriageStatus

/-- All states with their names. -/
def table : List (String × TriageStatus) :=
  [("pending", pending), ("confirmed", confirmed), ("false_positive", falsePositive),
    ("needs_human_review", needsHumanReview)]

/-- The name of a state. -/
def name : TriageStatus → String
  | pending => "pending"
  | confirmed => "confirmed"
  | falsePositive => "false_positive"
  | needsHumanReview => "needs_human_review"

end TriageStatus

/-- A classifier's judgement of a finding. -/
structure Classification (ν : Type) where
  truePositive : Bool
  provider : String
  model : Option String
  confidence : ν
  rationale : String
  cost : ν
deriving DecidableEq, Repr, Inhabited

/-- An issue in the analysed code, with everything known about it. -/
structure Finding (ν : Type) where
  id : String
  findingType : String
  severity : Severity
  confidence : ν
  location : Location
  description : String
  agents : OrderedSet String
  status : TriageStatus
  adjustedSeverity : Option Severity := none
  classification : Option (Classification ν) := none
deriving DecidableEq, Repr

namespace Finding

variable {ν : Type}

/-- The severity that counts: the adjusted one, if there is one. -/
def effectiveSeverity (f : Finding ν) : Severity :=
  f.adjustedSeverity.getD f.severity

/-- Is the finding waiting for a human? -/
def needsReview (f : Finding ν) : Bool :=
  f.status == .needsHumanReview

/-- Has the finding been through triage? -/
def isTriaged (f : Finding ν) : Bool :=
  f.status != .pending

/-- A human's decision.  It counts only for a finding that is waiting for one. -/
def resolveReview (f : Finding ν) (confirmed : Bool) : Finding ν :=
  if f.status = .needsHumanReview then
    { f with status := if confirmed then .confirmed else .falsePositive }
  else f

/-! ## Laws -/

theorem resolveReview_of_ne {f : Finding ν} (h : f.status ≠ .needsHumanReview) (b : Bool) :
    f.resolveReview b = f := by
  simp [resolveReview, h]

theorem status_resolveReview {f : Finding ν} (h : f.status = .needsHumanReview) (b : Bool) :
    (f.resolveReview b).status = if b then .confirmed else .falsePositive := by
  simp [resolveReview, h]

end Finding

end Vigil
