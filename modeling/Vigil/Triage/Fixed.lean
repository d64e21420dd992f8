import Vigil.Triage.Provider

/-!
# Providers with fixed answers

Providers whose answers are known beforehand, in a world that only counts how often each provider
of a chain has been called.
-/

namespace Vigil

/-- How often each provider has been called; providers are numbered from zero. -/
structure CallCounts where
  counts : List Nat := []
deriving DecidableEq, Repr, Inhabited

namespace CallCounts

/-- How often a provider has been called. -/
def count (c : CallCounts) (i : Nat) : Nat :=
  c.counts.getD i 0

/-- Count one more call of a provider. -/
def tick (c : CallCounts) (i : Nat) : CallCounts :=
  let padded := c.counts ++ List.replicate (i + 1 - c.counts.length) 0
  ⟨padded.modify i (· + 1)⟩

end CallCounts

namespace Provider

variable {ν : Type}

/-- A provider whose answer to a request depends on how often it was called before. -/
def counted (i : Nat) (name model : String) (cost : ν)
    (answer : Nat → Except (ProviderError ν) (Response ν)) : Provider CallCounts ν where
  name := name
  model := model
  estimate _ _ := cost
  classify _ w := (answer (w.count i), w.tick i)

/-- The response with some content that a fixed provider gives. -/
def fixedResponse [Quantity ν] (name : String) (cost : ν) (content : String) : Response ν :=
  ⟨content, Quantity.decimal 9 1, name, "mock", cost⟩

/-- A provider that always gives the same content. -/
def always [Quantity ν] (i : Nat) (name : String) (cost : ν) (content : String) :
    Provider CallCounts ν :=
  counted i name "mock" cost fun _ => .ok (fixedResponse name cost content)

/-- The content by which a provider confirms every finding. -/
def confirmingContent : String :=
  "\x7b\"verdict\": \"true_positive\", \"confidence\": 0.9, \"rationale\": \"mock confirmed\"\x7d"

/-- The content by which a provider dismisses every finding and suggests a low severity. -/
def dismissingContent : String :=
  "\x7b\"verdict\": \"false_positive\", \"severity\": \"low\", \"confidence\": 0.8, " ++
  "\"rationale\": \"mock dismissed\"\x7d"

/-- A provider that never answers. -/
def failing [Quantity ν] (i : Nat) (name : String) : Provider CallCounts ν :=
  counted i name "none" 0 fun _ => .error (.unavailable s!"{name} is down")

/-- A provider that gives the listed answers in turn and then repeats the last one. -/
def scripted (i : Nat) (name model : String) (cost : ν)
    (answers : List (Except (ProviderError ν) (Response ν))) : Provider CallCounts ν :=
  counted i name model cost fun n =>
    answers.getD (min n (answers.length - 1)) (.error (.unavailable s!"{name} is down"))

end Provider

end Vigil
