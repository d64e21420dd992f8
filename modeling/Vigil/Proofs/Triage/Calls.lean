import Vigil.Triage.Engine

/-!
# The calls that triage makes

A provider is a machine over the world outside, so only the world could tell when it was called.
`recorded` puts a list beside the world in which every provider writes down its own calls: which
request it was asked, and in which world.  Nothing in triage looks at that list, so it goes on as
before (`triageWith_recorded`), and at its end the list holds its calls in order.

What a call preserves, triage preserves: `consult_preserves` for one finding, and from it
`judge_preserves` for all of them.
-/

namespace Vigil

variable {σ τ ν : Type}

/-- A call of a provider, with the world in which it was made. -/
structure Call (σ ν : Type) where
  provider : Provider σ ν
  request : Request
  world : σ

namespace Call

/-- What the provider said that the call would cost. -/
def estimate (c : Call σ ν) : ν :=
  c.provider.estimate c.request c.world

/-- The response that the call has brought, if it has brought one. -/
def response? (c : Call σ ν) : Option (Response ν) :=
  (c.provider.classify c.request c.world).1.toOption

end Call

/-- The provider that writes down its calls. -/
def Provider.recorded (p : Provider σ ν) : Provider (σ × List (Call σ ν)) ν where
  name := p.name
  model := p.model
  estimate := fun r w => p.estimate r w.1
  classify := fun r w =>
    ((p.classify r w.1).1, (p.classify r w.1).2, w.2 ++ [⟨p, r, w.1⟩])

/-- The handle whose provider writes down its calls. -/
def Handle.recorded (h : Handle σ ν) : Handle (σ × List (Call σ ν)) ν :=
  { h with provider := h.provider.recorded }

/-- The budget after an answer: a response is charged, a failure is not. -/
def Budget.chargeAnswer [Quantity ν] (b : Budget ν) :
    Except (ProviderError ν) (Response ν) → Budget ν
  | .ok r => b.charge r.cost
  | .error _ => b

namespace TriageEngine

/-- The engine whose providers write down their calls. -/
def recorded (e : TriageEngine σ ν) : TriageEngine (σ × List (Call σ ν)) ν where
  config := e.config
  rules := e.rules
  providers := e.providers.map Handle.recorded

/-- The consultation, seen in another world. -/
def Consultation.mapWorld (f : σ → τ) (c : Consultation σ ν) : Consultation τ ν :=
  ⟨c.decision, c.budget, c.events, f c.world⟩

/-- The outcome, seen in another world. -/
def Outcome.mapWorld (f : σ → τ) (o : Outcome σ ν) : Outcome τ ν :=
  ⟨o.findings, o.byProviders, o.byRules, o.humanReview, o.budget, o.events, f o.world⟩

variable [Quantity ν]

/-! ## Consulting a chain -/

-- How verdicts are read does not matter here, and unfolding it would take long.
attribute [local irreducible] Verdict.parse in
theorem consult_cons (id : String) (r : Request) (h : Handle σ ν) (rest : List (Handle σ ν))
    (b : Budget ν) (w : σ) :
    consult id r (h :: rest) b w =
      if h.enabled then
        match h.attempt r b.remaining w with
        | (.classified response, w) =>
          match Verdict.parse response.content with
          | .ok v => ⟨some (classificationOf response v, v.severity), b.charge response.cost, [], w⟩
          | .error reason =>
            (consult id r rest (b.charge response.cost) w).after
              (failure id h (.invalidResponse reason))
        | (.costExceeded estimated limit, w) =>
          (consult id r rest b w).after (.costCeilingExceeded id h.provider.name estimated limit)
        | (.failed e, w) => (consult id r rest b w).after (failure id h e)
      else consult id r rest b w := rfl

/-! ## Recording changes nothing -/

/-- An attempt on the recorded handle is refused like the original one, and is written down if it is
not. -/
theorem attempt_recorded (h : Handle σ ν) (r : Request) (remaining : ν)
    (w : σ × List (Call σ ν)) :
    ∃ calls, h.recorded.attempt r remaining w =
      ((h.attempt r remaining w.1).1, (h.attempt r remaining w.1).2, calls) := by
  have hrefuses : h.recorded.refuses r remaining w = h.refuses r remaining w.1 := rfl
  rcases hr : h.refuses r remaining w.1 with _ | _
  · rw [Handle.attempt_of_not_refuses hr, Handle.attempt_of_not_refuses (hrefuses.trans hr)]
    exact ⟨w.2 ++ [⟨h.provider, r, w.1⟩], rfl⟩
  · rw [Handle.attempt_of_refuses hr, Handle.attempt_of_refuses (hrefuses.trans hr)]
    exact ⟨w.2, rfl⟩

theorem consult_recorded (id : String) (r : Request) (hs : List (Handle σ ν)) (b : Budget ν)
    (w : σ × List (Call σ ν)) :
    (consult id r (hs.map Handle.recorded) b w).mapWorld Prod.fst = consult id r hs b w.1 := by
  induction hs generalizing b w with
  | nil => rfl
  | cons h rest ih =>
    have hafter (event : AuditEvent ν) (b : Budget ν) (w : σ × List (Call σ ν)) :
        ((consult id r (rest.map Handle.recorded) b w).after event).mapWorld Prod.fst =
          (consult id r rest b w.1).after event :=
      congrArg (·.after event) (ih b w)
    obtain ⟨calls, hattempt⟩ := attempt_recorded h r b.remaining w
    have henabled : h.recorded.enabled = h.enabled := rfl
    rw [List.map_cons, consult_cons, consult_cons, henabled, hattempt]
    split
    · -- Both attempts came to the same; only the world of the recorded one is richer.
      rcases h.attempt r b.remaining w.1 with ⟨response | ⟨estimated, limit⟩ | error, w'⟩
      · dsimp only
        split
        · rfl
        · exact hafter _ _ _
      · exact hafter _ _ _
      · exact hafter _ _ _
    · exact ih b w

theorem consultation_recorded (e : TriageEngine σ ν) (useProviders : Bool) (f : Finding ν)
    (b : Budget ν) (w : σ × List (Call σ ν)) :
    (e.recorded.consultation useProviders f b w).mapWorld Prod.fst =
      e.consultation useProviders f b w.1 := by
  cases useProviders with
  | false => rfl
  | true => exact consult_recorded f.id (e.requestFor f) e.providers b w

theorem judge_recorded (e : TriageEngine σ ν) (useProviders : Bool) (l : List (Finding ν))
    (b : Budget ν) (w : σ × List (Call σ ν)) :
    (e.recorded.judge useProviders l b w).mapWorld Prod.fst = e.judge useProviders l b w.1 := by
  induction l generalizing b w with
  | nil => rfl
  | cons f rest ih =>
    rw [judge, judge]
    split
    · exact congrArg (Outcome.keep f) (ih b w)
    · rw [← consultation_recorded]
      exact congrArg (Outcome.judged _ _ _) (ih _ _)

theorem triageWith_recorded (e : TriageEngine σ ν) (useProviders : Bool) (l : List (Finding ν))
    (w : σ × List (Call σ ν)) :
    (e.recorded.triageWith useProviders l w).mapWorld Prod.fst = e.triageWith useProviders l w.1 :=
  e.judge_recorded useProviders l _ w

/-- The calls that triage makes, in order: those that its providers write down while it does what it
does without (`triageWith_recorded`). -/
def calls (e : TriageEngine σ ν) (l : List (Finding ν)) (w : σ) : List (Call σ ν) :=
  (e.recorded.triage l (w, [])).world.2

/-! ## What a call preserves -/

section Preserves

variable {I : Budget ν → σ → Prop}

/-- **What every call preserves, a consultation preserves.** -/
theorem consult_preserves {r : Request} {hs : List (Handle σ ν)}
    (hcall : ∀ h ∈ hs, h.enabled = true → ∀ b w, h.refuses r b.remaining w = false → I b w →
      I (b.chargeAnswer (h.provider.classify r w).1) (h.provider.classify r w).2)
    (id : String) {b : Budget ν} {w : σ} (hI : I b w) :
    I (consult id r hs b w).budget (consult id r hs b w).world := by
  induction hs generalizing b w with
  | nil => exact hI
  | cons h rest ih =>
    have ih := @ih fun h hh => hcall h (List.mem_cons_of_mem _ hh)
    rw [consult_cons]
    cases henabled : h.enabled with
    | false => exact ih hI
    | true =>
      rw [if_pos rfl]
      cases hr : h.refuses r b.remaining w with
      | true =>
        rw [Handle.attempt_of_refuses hr]
        exact ih hI
      | false =>
        rw [Handle.attempt_of_not_refuses hr]
        have hI' := hcall h List.mem_cons_self henabled b w hr hI
        generalize h.provider.classify r w = answered at hI' ⊢
        obtain ⟨error | response, w'⟩ := answered
        · -- A failure charges nothing, whatever it says about costs.
          cases error <;> exact ih hI'
        · dsimp only [Attempt.ofAnswer]
          split
          · exact hI'
          · exact ih hI'

/-- **What every call preserves, triage preserves.** -/
theorem judge_preserves {e : TriageEngine σ ν}
    (hcall : ∀ r, ∀ h ∈ e.providers, h.enabled = true → ∀ b w,
      h.refuses r b.remaining w = false → I b w →
      I (b.chargeAnswer (h.provider.classify r w).1) (h.provider.classify r w).2)
    (useProviders : Bool) (l : List (Finding ν)) {b : Budget ν} {w : σ} (hI : I b w) :
    I (e.judge useProviders l b w).budget (e.judge useProviders l b w).world := by
  induction l generalizing b w with
  | nil => exact hI
  | cons f rest ih =>
    rw [judge]
    by_cases hf : f.isTriaged = true
    · rw [if_pos hf]
      exact ih hI
    · rw [if_neg hf]
      have hconsulted : I (e.consultation useProviders f b w).budget
          (e.consultation useProviders f b w).world := by
        cases useProviders with
        | false => exact hI
        | true => exact consult_preserves (hcall _) f.id hI
      exact ih hconsulted

end Preserves

end TriageEngine

end Vigil
