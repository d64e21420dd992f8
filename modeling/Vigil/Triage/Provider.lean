import Vigil.Triage.Request

/-!
# Providers

A provider classifies findings on request and says beforehand what a request will cost.  It is a
machine over the states `σ` of the world outside: its answers may change from call to call.  A
handle gives a provider its place in the chain and limits what a call may cost; `Handle.attempt`
calls the provider only if the estimate is within that limit and within what is left of the
budget.
-/

namespace Vigil

/-- An answer of a provider. -/
structure Response (ν : Type) where
  content : String
  confidence : ν
  provider : String
  model : String
  cost : ν
deriving DecidableEq, Repr

/-- Why a provider gave no answer. -/
inductive ProviderError (ν : Type) where
  | unavailable (reason : String)
  | costCeilingExceeded (estimated limit : ν)
  | request (reason : String)
  | invalidResponse (reason : String)
deriving DecidableEq, Repr

/-- The wording of a provider's failure. -/
def ProviderError.message {ν : Type} [Quantity ν] : ProviderError ν → String
  | unavailable reason => s!"Provider unavailable: {reason}"
  | costCeilingExceeded estimated limit =>
    let (e, l) := (Quantity.fixed 4 estimated, Quantity.fixed 4 limit)
    s!"Cost ceiling exceeded: estimated {e} > limit {l}"
  | request reason => s!"Provider request failed: {reason}"
  | invalidResponse reason => s!"Invalid provider response: {reason}"

/-- A classifier of findings. -/
structure Provider (σ ν : Type) where
  name : String
  model : String
  /-- What a request will cost. -/
  estimate : Request → σ → ν
  /-- Answer a request. -/
  classify : Request → σ → Except (ProviderError ν) (Response ν) × σ

/-- A provider in a chain; handles of lower priority are tried first. -/
structure Handle (σ ν : Type) where
  provider : Provider σ ν
  priority : UInt32
  maxCostPerCall : ν
  enabled : Bool := true

/-- What an attempt to classify came to. -/
inductive Attempt (ν : Type) where
  | classified (response : Response ν)
  | costExceeded (estimated limit : ν)
  | failed (error : ProviderError ν)
deriving DecidableEq, Repr

/-- What a provider's answer comes to. -/
def Attempt.ofAnswer {ν : Type} : Except (ProviderError ν) (Response ν) → Attempt ν
  | .ok r => .classified r
  | .error (.costCeilingExceeded estimated limit) => .costExceeded estimated limit
  | .error e => .failed e

namespace Handle

variable {σ ν : Type} [Quantity ν]

/-- What a call may cost when so much is left of the budget. -/
def limit (h : Handle σ ν) (remaining : ν) : ν :=
  Quantity.least h.maxCostPerCall (Quantity.greatest remaining 0)

/-- Is a request refused because of its cost? -/
def refuses (h : Handle σ ν) (r : Request) (remaining : ν) (w : σ) : Bool :=
  Quantity.below (h.limit remaining) (h.provider.estimate r w)

/-- Try a request. -/
def attempt (h : Handle σ ν) (r : Request) (remaining : ν) (w : σ) : Attempt ν × σ :=
  if h.refuses r remaining w then
    (.costExceeded (h.provider.estimate r w) (h.limit remaining), w)
  else
    let (answer, w) := h.provider.classify r w
    (.ofAnswer answer, w)

/-! ## Laws -/

theorem attempt_of_refuses {h : Handle σ ν} {r : Request} {remaining : ν} {w : σ}
    (hr : h.refuses r remaining w = true) :
    h.attempt r remaining w =
      (.costExceeded (h.provider.estimate r w) (h.limit remaining), w) := by
  simp [attempt, hr]

theorem attempt_of_not_refuses {h : Handle σ ν} {r : Request} {remaining : ν} {w : σ}
    (hr : h.refuses r remaining w = false) :
    h.attempt r remaining w =
      (.ofAnswer (h.provider.classify r w).1, (h.provider.classify r w).2) := by
  simp [attempt, hr]

end Handle

end Vigil
