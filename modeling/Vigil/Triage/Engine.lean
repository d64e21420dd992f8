import Vigil.Audit.Log
import Vigil.Triage.Config
import Vigil.Triage.Provider
import Vigil.Triage.Verdict

/-!
# Triage

The engine judges every pending finding.  Its providers are consulted in their order until one
gives a verdict that can be read; if none does, or if the engine is not to use them, the rules
decide.  What one provider could not do is recorded before the next is consulted.  A finding whose
severity is high or critical, before or after the judgement, waits for a human whatever the
verdict; findings that are not pending are left as they are.

What providers bill is charged against a ceiling.  Only a cost that is finite and positive is
charged.

A call of triage returns the events it records, in order, so that a call is a function of the
findings and of the world.
-/

namespace Vigil

/-! ## Budgets -/

/-- A ceiling and what has been spent. -/
structure Budget (ν : Type) where
  ceiling : ν
  spent : ν
deriving DecidableEq, Repr

namespace Budget

variable {ν : Type} [Quantity ν]

/-- A budget of which nothing has been spent. -/
def full (ceiling : ν) : Budget ν :=
  ⟨ceiling, 0⟩

/-- What is left. -/
def remaining (b : Budget ν) : ν :=
  Quantity.greatest (b.ceiling - b.spent) 0

/-- Is a cost charged at all? -/
def counts (cost : ν) : Bool :=
  Quantity.isFinite cost && Quantity.below 0 cost

/-- The budget after a cost. -/
def charge (b : Budget ν) (cost : ν) : Budget ν :=
  if counts cost then { b with spent := b.spent + cost } else b

theorem ceiling_charge (b : Budget ν) (cost : ν) : (b.charge cost).ceiling = b.ceiling := by
  unfold charge
  split <;> rfl

theorem charge_of_not_counts {b : Budget ν} {cost : ν} (h : counts cost = false) :
    b.charge cost = b := by
  simp [charge, h]

end Budget

/-! ## Engines -/

/-- The name under which the rules classify. -/
def rulesProvider : String := "rules"

/-- No provider gave a verdict. -/
structure TriageError where
  attempted : Nat
deriving DecidableEq, Repr

/-- The wording for a chain without a verdict. -/
def TriageError.message (e : TriageError) : String :=
  s!"All {e.attempted} enabled providers exhausted"

/-- The rules and providers of triage. -/
structure TriageEngine (σ ν : Type) where
  config : TriageConfig ν
  rules : RuleClassifier ν
  providers : List (Handle σ ν)

/-- What a call of triage counts. -/
structure TriageSummary (ν : Type) where
  byProviders : Nat
  byRules : Nat
  humanReview : Nat
  cost : ν
deriving DecidableEq, Repr

namespace TriageEngine

variable {σ ν : Type}

/-! ## The chain -/

/-- Put a handle behind all handles whose priority is not greater. -/
def insertHandle (h : Handle σ ν) : List (Handle σ ν) → List (Handle σ ν)
  | [] => [h]
  | g :: rest => if h.priority < g.priority then h :: g :: rest else g :: insertHandle h rest

/-- The handles by ascending priority; those of equal priority stay in their order. -/
def byPriority (hs : List (Handle σ ν)) : List (Handle σ ν) :=
  hs.foldl (fun sorted h => insertHandle h sorted) []

/-- The engine with one more provider, and its chain by priority again. -/
def addProvider (e : TriageEngine σ ν) (h : Handle σ ν) : TriageEngine σ ν :=
  { e with providers := byPriority (e.providers ++ [h]) }

/-- The engine with more providers. -/
def addProviders (e : TriageEngine σ ν) (hs : List (Handle σ ν)) : TriageEngine σ ν :=
  hs.foldl addProvider e

/-- The names of the providers, in the order in which they are consulted. -/
def providerNames (e : TriageEngine σ ν) : List String :=
  e.providers.map (·.provider.name)

/-- An engine without providers. -/
def of (config : TriageConfig ν) : TriageEngine σ ν where
  config := config
  rules := RuleClassifier.of (FalsePositiveSignature.builtIn ++ config.signatures)
    config.minRuleConfidence
  providers := []

variable [Quantity ν]

/-! ## Consulting the providers -/

/-- What the consultation of a chain came to: a classification with a suggested severity, if a
provider gave a verdict; what is left of the budget; the events; and the world afterwards. -/
structure Consultation (σ ν : Type) where
  decision : Option (Classification ν × Option Severity)
  budget : Budget ν
  events : List (AuditEvent ν)
  world : σ

/-- A consultation that began with another event. -/
def Consultation.after (event : AuditEvent ν) (c : Consultation σ ν) : Consultation σ ν :=
  { c with events := event :: c.events }

/-- The classification that a response and its verdict make. -/
def classificationOf (r : Response ν) (v : Verdict ν) : Classification ν where
  truePositive := v.truePositive
  provider := r.provider
  model := some r.model
  confidence := v.confidence.getD r.confidence
  rationale := v.rationale
  cost := r.cost

/-- The event of a provider's failure. -/
def failure (findingId : String) (h : Handle σ ν) (e : ProviderError ν) : AuditEvent ν :=
  .providerFailed findingId h.provider.name e.message

/-- Consult the enabled providers of a chain until one gives a verdict. -/
def consult (findingId : String) (request : Request) :
    List (Handle σ ν) → Budget ν → σ → Consultation σ ν
  | [], b, w => ⟨none, b, [], w⟩
  | h :: rest, b, w =>
    if h.enabled then
      match h.attempt request b.remaining w with
      | (.classified r, w) =>
        let b := b.charge r.cost
        match Verdict.parse r.content with
        | .ok v => ⟨some (classificationOf r v, v.severity), b, [], w⟩
        | .error reason =>
          (consult findingId request rest b w).after
            (failure findingId h (.invalidResponse reason))
      | (.costExceeded estimated limit, w) =>
        (consult findingId request rest b w).after
          (.costCeilingExceeded findingId h.provider.name estimated limit)
      | (.failed e, w) => (consult findingId request rest b w).after (failure findingId h e)
    else consult findingId request rest b w

/-! ## Judging a finding -/

/-- The classification by the rules. -/
def classificationByRules (rules : RuleClassifier ν) (f : Finding ν) : Classification ν :=
  let v := rules.classify f
  ⟨v.truePositive, rulesProvider, none, v.confidence, v.rationale, 0⟩

/-- The finding with a new severity, if one is suggested that differs from the reported one. -/
def adjust (f : Finding ν) (suggested : Option Severity) : Finding ν :=
  match suggested with
  | none => f
  | some s => if s = f.severity then f else { f with adjustedSeverity := some s }

/-- The greater of the reported and the adjusted severity. -/
def reviewSeverity (f : Finding ν) : Severity :=
  max f.severity f.effectiveSeverity

/-- The status that a classification gives to a finding. -/
def statusFor (f : Finding ν) (c : Classification ν) : TriageStatus :=
  if (reviewSeverity f).requiresReview then .needsHumanReview
  else if c.truePositive then .confirmed
  else .falsePositive

/-- The finding after its judgement. -/
def settle (f : Finding ν) (c : Classification ν) (suggested : Option Severity) : Finding ν :=
  let g := adjust f suggested
  { g with status := statusFor g c, classification := some c }

/-- The events of a judgement. -/
def verdictEvents (g : Finding ν) (c : Classification ν) : List (AuditEvent ν) :=
  (if g.needsReview then [.humanReviewRequired g.id (reviewSeverity g)] else []) ++
    [.classified g.id c g.status]

/-- The request about a finding. -/
def requestFor (e : TriageEngine σ ν) (f : Finding ν) : Request :=
  Request.about f e.config.maxTokens e.config.temperature

/-- Consult the providers about a finding, if they are to be used. -/
def consultation (e : TriageEngine σ ν) (useProviders : Bool) (f : Finding ν) (b : Budget ν)
    (w : σ) : Consultation σ ν :=
  if useProviders then consult f.id (e.requestFor f) e.providers b w else ⟨none, b, [], w⟩

/-- A call of triage: the findings, the counts, the events and the world afterwards. -/
structure Outcome (σ ν : Type) where
  findings : List (Finding ν)
  byProviders : Nat
  byRules : Nat
  humanReview : Nat
  budget : Budget ν
  events : List (AuditEvent ν)
  world : σ

/-- The counts and the cost of a call. -/
def Outcome.summary (o : Outcome σ ν) : TriageSummary ν :=
  ⟨o.byProviders, o.byRules, o.humanReview, o.budget.spent⟩

/-- An outcome with a finding in front that was left as it is. -/
def Outcome.keep (f : Finding ν) (o : Outcome σ ν) : Outcome σ ν :=
  { o with findings := f :: o.findings }

/-- An outcome with a finding in front that was judged, by a provider or not. -/
def Outcome.judged (g : Finding ν) (byProvider : Bool) (events : List (AuditEvent ν))
    (o : Outcome σ ν) : Outcome σ ν where
  findings := g :: o.findings
  byProviders := o.byProviders + if byProvider then 1 else 0
  byRules := o.byRules + if byProvider then 0 else 1
  humanReview := o.humanReview + if g.needsReview then 1 else 0
  budget := o.budget
  events := events ++ o.events
  world := o.world

/-- Judge the pending findings of a list. -/
def judge (e : TriageEngine σ ν) (useProviders : Bool) :
    List (Finding ν) → Budget ν → σ → Outcome σ ν
  | [], b, w => ⟨[], 0, 0, 0, b, [], w⟩
  | f :: rest, b, w =>
    if f.isTriaged then (judge e useProviders rest b w).keep f
    else
      let c := e.consultation useProviders f b w
      let (classification, suggested) :=
        c.decision.getD (classificationByRules e.rules f, none)
      let g := settle f classification suggested
      (judge e useProviders rest c.budget c.world).judged g c.decision.isSome
        (c.events ++ verdictEvents g classification)

/-- Judge findings with a full budget. -/
def triageWith (e : TriageEngine σ ν) (useProviders : Bool) (findings : List (Finding ν)) (w : σ) :
    Outcome σ ν :=
  e.judge useProviders findings (Budget.full e.config.totalCostCeiling) w

/-- Triage findings, with the help of the providers if they are enabled. -/
def triage (e : TriageEngine σ ν) (findings : List (Finding ν)) (w : σ) : Outcome σ ν :=
  e.triageWith e.config.aiEnabled findings w

/-- Triage findings by the rules alone. -/
def triageByRules (e : TriageEngine σ ν) (findings : List (Finding ν)) (w : σ) : Outcome σ ν :=
  e.triageWith false findings w

/-! ## Laws -/

theorem length_judge (e : TriageEngine σ ν) (useProviders : Bool) (l : List (Finding ν))
    (b : Budget ν) (w : σ) : (e.judge useProviders l b w).findings.length = l.length := by
  induction l generalizing b w with
  | nil => rfl
  | cons f rest ih =>
    simp only [judge]
    split
    · simp [Outcome.keep, ih]
    · simp [Outcome.judged, ih]

theorem world_triageByRules (e : TriageEngine σ ν) (l : List (Finding ν)) (w : σ) :
    (e.triageByRules l w).world = w := by
  suffices ∀ b, (e.judge false l b w).world = w from this _
  intro b
  induction l generalizing b with
  | nil => rfl
  | cons f rest ih =>
    simp only [judge]
    split
    · simp [Outcome.keep, ih]
    · simp [Outcome.judged, consultation, ih]

end TriageEngine

/-! ## Form -/

/-- The counts of a call as an object. -/
def TriageSummary.toJson (s : TriageSummary Float) : Json :=
  .object
    [("ai_classified", Json.nat s.byProviders), ("cost", Json.float s.cost),
      ("human_review", Json.nat s.humanReview), ("rule_classified", Json.nat s.byRules)]

end Vigil
