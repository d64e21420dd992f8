import Vigil.Triage.Engine
import Vigil.Triage.Service

/-!
# A configured engine

The engine with the providers that its configuration lists.
-/

namespace Vigil.TriageEngine

variable {σ ν : Type} [Quantity ν]

/-- The engine that is configured, in an environment and on a network. -/
def ofConfig (c : TriageConfig ν) (environment : String → Option String) (network : Network σ) :
    TriageEngine σ ν :=
  (of c).addProviders (c.providers.map fun p => p.handle environment network)

end Vigil.TriageEngine
