import Vigil.OrderedSet
import Vigil.Text.Blank
import Vigil.Text.Lowercase

/-!
# Severity

The five degrees of severity, from informational to critical.  High and critical findings must be
reviewed by a human.  `Severity.parse` also accepts the usual other names of each degree.
-/

namespace Vigil

/-- How severe a finding is. -/
inductive Severity where
  | informational | low | medium | high | critical
deriving DecidableEq, Repr, Inhabited

namespace Severity

/-- The position of a degree, from informational upwards. -/
def rank : Severity → Nat
  | informational => 0
  | low => 1
  | medium => 2
  | high => 3
  | critical => 4

theorem rank_injective (a b : Severity) (h : a.rank = b.rank) : a = b := by
  revert h
  cases a <;> cases b <;> decide

instance : Ranked Severity := ⟨rank, rank_injective⟩

instance : LE Severity := Ranked.toLE

instance : LT Severity := Ranked.toLT

instance : Std.IsLinearOrder Severity := Ranked.isLinearOrder

instance : Std.LawfulOrderLT Severity := Ranked.lawfulOrderLT

instance : DecidableLE Severity := fun a b => inferInstanceAs (Decidable (a.rank ≤ b.rank))

instance : DecidableLT Severity := fun a b => inferInstanceAs (Decidable (a.rank < b.rank))

theorem le_iff {a b : Severity} : a ≤ b ↔ a.rank ≤ b.rank := Iff.rfl

/-- The more severe of two degrees. -/
instance : Max Severity := ⟨fun a b => if a ≤ b then b else a⟩

/-- Must a finding of this severity be reviewed by a human? -/
def requiresReview (s : Severity) : Bool :=
  decide (high ≤ s)

/-! ## Names -/

/-- The name of a degree. -/
def name : Severity → String
  | informational => "informational"
  | low => "low"
  | medium => "medium"
  | high => "high"
  | critical => "critical"

/-- All degrees with their names. -/
def table : List (String × Severity) :=
  [("informational", informational), ("low", low), ("medium", medium), ("high", high),
    ("critical", critical)]

/-- Every name under which a degree is recognised. -/
def recognised : List (String × Severity) :=
  [("critical", critical), ("crit", critical), ("high", high), ("error", high),
    ("medium", medium), ("moderate", medium), ("warning", medium), ("low", low),
    ("informational", informational), ("info", informational), ("note", informational)]

/-- The form in which a name is looked up: without outer blanks and in lower case. -/
def lookupForm (s : String) : String :=
  Text.lowercase (Text.trim s)

/-- The degree with a recognised name, if it is one. -/
def ofName? (s : String) : Option Severity :=
  (recognised.find? (·.1 == s)).map (·.2)

/-- The degree a text names, regardless of case and outer blanks; otherwise the form that was
looked up in vain. -/
def parse (s : String) : Except String Severity :=
  match ofName? (lookupForm s) with
  | some d => .ok d
  | none => .error (lookupForm s)

/-- The wording for a text that names no degree. -/
def unknownMessage (form : String) : String :=
  s!"unknown severity '{form}'"

theorem ofName?_name (s : Severity) : ofName? s.name = some s := by
  cases s <;> decide

theorem requiresReview_iff {s : Severity} : s.requiresReview = true ↔ s = high ∨ s = critical := by
  cases s <;> decide

end Severity

end Vigil
