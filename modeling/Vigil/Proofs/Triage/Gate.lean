import Vigil.Proofs.Double
import Vigil.Proofs.Triage.Trail
import Vigil.Triage.Service

/-!
# The gate before a provider

A provider is not called if its estimate is above what the call may cost or above what is left of
the budget.  Nothing is above what is no number, and neither is an estimate that is no number above
anything: such an estimate passes the gate, whatever the limits are.

* `Handle.callsOf` -- the calls that an attempt makes;
* `Handle.Passes` -- an estimate fits both limits, or it is no number;
* `Handle.attempt_gate` -- **the main result**: an attempt calls its provider, once, if the estimate
  fits or is no number, and otherwise reports the limit and calls nothing;
* `CompletionService.callsOf_of_isNaN_price` -- a service whose price is no number is always called;
* `TriageEngine.passes_of_calls` -- each call of triage has passed the gate at its moment.
-/

namespace Vigil

variable {σ ν : Type}

namespace Handle

/-! ## Attempts and calls -/

section Calls

variable [Quantity ν] {h : Handle σ ν} {r : Request} {remaining : ν} {w : σ}

/-- The calls that an attempt makes, as its provider writes them down. -/
def callsOf (h : Handle σ ν) (r : Request) (remaining : ν) (w : σ) : List (Call σ ν) :=
  (h.recorded.attempt r remaining (w, [])).2.2

theorem callsOf_of_refuses (hr : h.refuses r remaining w = true) :
    h.callsOf r remaining w = [] := by
  have hr' : h.recorded.refuses r remaining (w, []) = true := hr
  rw [callsOf, attempt_of_refuses hr']

theorem callsOf_of_not_refuses (hr : h.refuses r remaining w = false) :
    h.callsOf r remaining w = [⟨h.provider, r, w⟩] := by
  have hr' : h.recorded.refuses r remaining (w, []) = false := hr
  rw [callsOf, attempt_of_not_refuses hr']
  rfl

end Calls

/-! ## The limits -/

/-- An estimate is at most what a call may cost and at most what is left. -/
structure Fits (h : Handle σ Float) (remaining estimate : Float) : Prop where
  le_maximum : estimate ≤ h.maxCostPerCall
  le_remaining : estimate ≤ remaining

/-- An estimate passes the gate: it fits, or it is no number at all. -/
def Passes (h : Handle σ Float) (remaining estimate : Float) : Prop :=
  h.Fits remaining estimate ∨ estimate.isNaN = true

variable {h : Handle σ Float} {r : Request} {remaining estimate : Float} {w : σ}

instance : Decidable (h.Fits remaining estimate) :=
  decidable_of_iff (estimate ≤ h.maxCostPerCall ∧ estimate ≤ remaining)
    ⟨fun hle => ⟨hle.1, hle.2⟩, fun hfits => ⟨hfits.le_maximum, hfits.le_remaining⟩⟩

instance : Decidable (h.Passes remaining estimate) :=
  inferInstanceAs (Decidable (_ ∨ _))

/-- Of a rest that is not negative the limit takes account as it is. -/
theorem limit_eq_least (hremaining : 0.0 ≤ remaining) :
    h.limit remaining = Quantity.least h.maxCostPerCall remaining := by
  have hgreatest : Quantity.greatest remaining 0.0 = remaining := Double.greatest_of_le hremaining
  exact congrArg (Quantity.least h.maxCostPerCall) hgreatest

/-- What is at most the limit fits. -/
theorem le_limit_iff (hmaximum : h.maxCostPerCall.isNaN = false) (hremaining : 0.0 ≤ remaining) :
    estimate ≤ h.limit remaining ↔ h.Fits remaining estimate := by
  have hnumber : remaining.isNaN = false := (Double.le_iff.1 hremaining).1.2
  rw [limit_eq_least hremaining, Double.le_least_iff hmaximum hnumber]
  exact ⟨fun hle => ⟨hle.1, hle.2⟩, fun hfits => ⟨hfits.le_maximum, hfits.le_remaining⟩⟩

theorem isNaN_limit (hmaximum : h.maxCostPerCall.isNaN = false) (hremaining : 0.0 ≤ remaining) :
    (h.limit remaining).isNaN = false := by
  rw [limit_eq_least hremaining]
  exact Double.isNaN_least hmaximum (Double.le_iff.1 hremaining).1.2

/-! ## The gate -/

/-- An estimate that is no number is not refused, whatever the limits are. -/
theorem refuses_of_isNaN (h : Handle σ Float) (remaining : Float)
    (hestimate : (h.provider.estimate r w).isNaN = true) : h.refuses r remaining w = false := by
  refine decide_eq_false fun hbelow => ?_
  rw [(Double.lt_iff.1 hbelow).1.2] at hestimate
  cases hestimate

/-- What is not refused passes the gate. -/
theorem refuses_eq_false_iff (hmaximum : h.maxCostPerCall.isNaN = false)
    (hremaining : 0.0 ≤ remaining) :
    h.refuses r remaining w = false ↔ h.Passes remaining (h.provider.estimate r w) := by
  have hlimit := isNaN_limit hmaximum hremaining
  rw [Passes]
  cases hestimate : (h.provider.estimate r w).isNaN with
  | true => exact iff_of_true (h.refuses_of_isNaN remaining hestimate) (.inr rfl)
  | false =>
    rw [← le_limit_iff hmaximum hremaining, or_iff_left Bool.false_ne_true,
      ← Double.not_lt_iff hestimate hlimit]
    exact decide_eq_false_iff_not

/-- **The gate before a provider.**  Where a call has a limit and the rest of the budget is not
negative, an attempt makes one call if the estimate of its provider fits both or is no number, and
comes to the answer; otherwise it makes no call, leaves the world as it is, and comes to the
estimate and the limit that it exceeds. -/
theorem attempt_gate (h : Handle σ Float) (r : Request) {remaining : Float} (w : σ)
    (hmaximum : h.maxCostPerCall.isNaN = false) (hremaining : 0.0 ≤ remaining) :
    let estimate := h.provider.estimate r w
    (h.Passes remaining estimate →
      h.callsOf r remaining w = [⟨h.provider, r, w⟩] ∧
        h.attempt r remaining w =
          (.ofAnswer (h.provider.classify r w).1, (h.provider.classify r w).2)) ∧
    (¬h.Passes remaining estimate →
      h.callsOf r remaining w = [] ∧
        h.attempt r remaining w = (.costExceeded estimate (h.limit remaining), w)) := by
  intro estimate
  rw [← refuses_eq_false_iff hmaximum hremaining]
  refine ⟨fun hr => ⟨callsOf_of_not_refuses hr, attempt_of_not_refuses hr⟩, fun hr => ?_⟩
  rw [Bool.not_eq_false] at hr
  exact ⟨callsOf_of_refuses hr, attempt_of_refuses hr⟩

/-- A provider that gives the same estimate for everything. -/
def quoting (estimate : Float) : Handle Unit Float where
  provider := {
    name := "m"
    model := "mock"
    estimate := fun _ _ => estimate
    classify := fun _ w => (.ok ⟨"x", 0.7, "m", "mock", 0.05⟩, w) }
  priority := 100
  maxCostPerCall := 0.1

theorem attempt_gate_quoting :
    ((quoting 0.05).maxCostPerCall.isNaN = false ∧ (0.0 : Float) ≤ 0.5) ∧
      (quoting 0.05).callsOf default 0.5 () = [⟨(quoting 0.05).provider, default, ()⟩] ∧
      (quoting 0.2).callsOf default 0.5 () = [] ∧
      (quoting (0.0 / 0.0)).callsOf default 0.5 () =
        [⟨(quoting (0.0 / 0.0)).provider, default, ()⟩] :=
  ⟨⟨by decide +kernel, by decide +kernel⟩,
    ((attempt_gate (quoting 0.05) default () (by decide +kernel) (by decide +kernel)).1
      (.inl ⟨by decide +kernel, by decide +kernel⟩)).1,
    ((attempt_gate (quoting 0.2) default () (by decide +kernel) (by decide +kernel)).2
      (by decide +kernel)).1,
    ((attempt_gate (quoting (0.0 / 0.0)) default () (by decide +kernel) (by decide +kernel)).1
      (.inr (by decide +kernel))).1⟩

/-- Not every call that an attempt makes fits: an estimate that is no number does not. -/
theorem exists_call_not_fits :
    ¬∀ (h : Handle Unit Float) (r : Request) (remaining : Float) (w : Unit),
      h.maxCostPerCall.isFinite = true → 0.0 ≤ h.maxCostPerCall →
      remaining.isFinite = true → 0.0 ≤ remaining →
      h.callsOf r remaining w ≠ [] → h.Fits remaining (h.provider.estimate r w) := by
  intro hall
  have hmaximum : (quoting (0.0 / 0.0)).maxCostPerCall.isFinite = true := by decide +kernel
  have hcalled : (quoting (0.0 / 0.0)).callsOf default 0.5 () ≠ [] := by
    rw [callsOf_of_not_refuses (refuses_of_isNaN _ _ (by decide +kernel))]
    exact List.cons_ne_nil _ _
  have hfits := hall (quoting (0.0 / 0.0)) default 0.5 () hmaximum (by decide +kernel)
    (by decide +kernel) (by decide +kernel) hcalled
  exact absurd hfits.le_remaining (by decide +kernel)

end Handle

/-! ## Prices that are no numbers -/

namespace CompletionService

/-- A price that is no number makes an estimate that is none. -/
theorem isNaN_estimate {s : CompletionService Float}
    (hprice : s.costPerThousandTokens.isNaN = true) (r : Request) :
    (s.estimate r).isNaN = true :=
  Double.isNaN_mul _ hprice

/-- **A service whose price is no number is called whatever is left of the budget.** -/
theorem callsOf_of_isNaN_price {s : CompletionService Float}
    (hprice : s.costPerThousandTokens.isNaN = true) {network : Network σ} {h : Handle σ Float}
    (hprovider : h.provider = s.provider network) (r : Request) (remaining : Float) (w : σ) :
    h.callsOf r remaining w = [⟨s.provider network, r, w⟩] := by
  have hestimate : (h.provider.estimate r w).isNaN = true := by
    rw [hprovider]
    exact isNaN_estimate hprice r
  rw [Handle.callsOf_of_not_refuses (h.refuses_of_isNaN remaining hestimate), hprovider]

end CompletionService

/-! ## The calls of triage -/

namespace TriageEngine

/-- What is left of a budget is never negative, and always a number. -/
theorem zero_le_remaining (b : Budget Float) : 0.0 ≤ b.remaining :=
  Double.le_greatest _ (by decide)

/-- **Each call of triage has passed the gate** with what the calls before it have left of the
budget. -/
theorem passes_of_calls (e : TriageEngine σ Float) (l : List (Finding Float)) (w : σ)
    (hmaximum : ∀ h ∈ e.providers, h.maxCostPerCall.isNaN = false)
    {before later : List (Call σ Float)} {c : Call σ Float}
    (hsplit : e.calls l w = before ++ c :: later) :
    ∃ h ∈ e.providers, h.enabled = true ∧ h.provider = c.provider ∧
      h.Passes ((e.start w).after before).budget.remaining c.estimate := by
  obtain ⟨h, hh, henabled, hr, hcall⟩ := (e.ledger_triage l w).madeAt hsplit
  rw [Handle.refuses_eq_false_iff (hmaximum h hh) (zero_le_remaining _)] at hr
  rw [hcall]
  exact ⟨h, hh, henabled, rfl, hr⟩

end TriageEngine

end Vigil
