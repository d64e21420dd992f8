import Mathlib.Algebra.Order.BigOperators.Group.List
import Mathlib.Tactic.Linarith
import Vigil.Proofs.Exact
import Vigil.Proofs.Triage.Calls

/-!
# What a call of triage spends

The budget is looked at before a provider is called and charged afterwards, so a call may cost more
than is left only by as much as its provider has underestimated it.  Read over exact numbers:

* `spent_charge` and `estimate_le_of_not_refuses` -- what is charged, and what may be called at all;
* `isSettled_call` -- one call keeps the account of the budget: it is charged by what all responses
  have billed, and exceeds the ceiling by no more than all underestimates together;
* `triage_spending` -- **the main result**: so it is with all the calls of a call of triage.
-/

namespace Vigil

variable {σ : Type}

/-! ## Bills -/

/-- A number for each response to a call, in order. -/
def forResponses (f : Call σ ℚ → Response ℚ → ℚ) (calls : List (Call σ ℚ)) : List ℚ :=
  calls.filterMap fun c => c.response?.map (f c)

theorem forResponses_concat_of_none (f : Call σ ℚ → Response ℚ → ℚ) (calls : List (Call σ ℚ))
    {c : Call σ ℚ} (hc : c.response? = none) :
    forResponses f (calls ++ [c]) = forResponses f calls := by
  simp [forResponses, hc]

theorem forResponses_concat_of_some (f : Call σ ℚ → Response ℚ → ℚ) (calls : List (Call σ ℚ))
    {c : Call σ ℚ} {r : Response ℚ} (hc : c.response? = some r) :
    forResponses f (calls ++ [c]) = forResponses f calls ++ [f c r] := by
  simp [forResponses, hc]

/-- What the responses to calls have cost. -/
def costs (calls : List (Call σ ℚ)) : List ℚ :=
  forResponses (fun _ r => r.cost) calls

/-- By how much the responses to calls have cost more than was estimated. -/
def overruns (calls : List (Call σ ℚ)) : List ℚ :=
  forResponses (fun c r => max 0 (r.cost - c.estimate)) calls

theorem sum_overruns_nonneg (calls : List (Call σ ℚ)) : 0 ≤ (overruns calls).sum := by
  refine List.sum_nonneg fun x hx => ?_
  obtain ⟨c, -, hc⟩ := List.mem_filterMap.1 hx
  obtain ⟨r, -, rfl⟩ := Option.map_eq_some_iff.1 hc
  exact le_max_left _ _

/-- Where no response has cost more than was estimated there are no overruns. -/
theorem sum_overruns_eq_zero {calls : List (Call σ ℚ)}
    (h : ∀ c ∈ calls, ∀ r, c.response? = some r → r.cost ≤ c.estimate) :
    (overruns calls).sum = 0 := by
  refine List.sum_eq_zero fun x hx => ?_
  obtain ⟨c, hc, hx⟩ := List.mem_filterMap.1 hx
  obtain ⟨r, hr, rfl⟩ := Option.map_eq_some_iff.1 hx
  exact max_eq_left (sub_nonpos.2 (h c hc r hr))

/-! ## The budget -/

theorem spent_charge (b : Budget ℚ) (cost : ℚ) : (b.charge cost).spent = b.spent + max cost 0 := by
  have hcounts : Budget.counts cost = true ↔ 0 < cost := by
    rw [Budget.counts, Quantity.isFinite_eq_true, Bool.true_and, Quantity.below_eq_true_iff]
  unfold Budget.charge
  by_cases hcost : 0 < cost
  · rw [if_pos (hcounts.2 hcost), max_eq_left hcost.le]
  · rw [if_neg (mt hcounts.1 hcost), max_eq_right (not_lt.1 hcost), add_zero]

theorem remaining_eq (b : Budget ℚ) : b.remaining = max (b.ceiling - b.spent) 0 := rfl

/-- What is called was not estimated to cost more than is left. -/
theorem estimate_le_of_not_refuses {h : Handle σ ℚ} {r : Request} {b : Budget ℚ} {w : σ}
    (hr : h.refuses r b.remaining w = false) :
    h.provider.estimate r w ≤ max (b.ceiling - b.spent) 0 := by
  have hlimit : h.provider.estimate r w ≤ h.limit b.remaining := Quantity.below_eq_false_iff.1 hr
  rw [Handle.limit, Quantity.least_eq_min, Quantity.greatest_eq_max, remaining_eq] at hlimit
  exact hlimit.trans ((min_le_right _ _).trans (max_le le_rfl (le_max_right _ _)))

/-- One more bill: the ceiling is exceeded only by overruns, if it was before. -/
theorem add_bill_le {ceiling spent excess cost estimate : ℚ} (hexcess : 0 ≤ excess)
    (hspent : spent ≤ max ceiling 0 + excess) (hestimate : estimate ≤ max (ceiling - spent) 0) :
    spent + max cost 0 ≤ max ceiling 0 + (excess + max 0 (cost - estimate)) := by
  have hnonneg : 0 ≤ max 0 (cost - estimate) := le_max_left _ _
  have hbill : cost ≤ estimate + max 0 (cost - estimate) := by
    linarith [le_max_right 0 (cost - estimate)]
  have hceiling : ceiling ≤ max ceiling 0 := le_max_left _ _
  rcases le_total cost 0 with hcost | hcost
  · rw [max_eq_right hcost]
    linarith
  · rw [max_eq_left hcost]
    rcases le_total (ceiling - spent) 0 with hleft | hleft
    · rw [max_eq_right hleft] at hestimate
      linarith
    · rw [max_eq_left hleft] at hestimate
      linarith

/-! ## The account -/

/-- The budget has been charged with what the calls have billed, and with no more than the ceiling
and their overruns. -/
structure IsSettled (ceiling : ℚ) (b : Budget ℚ) (calls : List (Call σ ℚ)) : Prop where
  ceiling_eq : b.ceiling = ceiling
  spent_eq : b.spent = ((costs calls).filter (0 < ·)).sum
  spent_le : b.spent ≤ max ceiling 0 + (overruns calls).sum

theorem isSettled_full (ceiling : ℚ) :
    IsSettled ceiling (Budget.full ceiling) ([] : List (Call σ ℚ)) where
  ceiling_eq := rfl
  spent_eq := rfl
  spent_le := by
    have hnothing : (Budget.full ceiling).spent = 0 := rfl
    rw [hnothing]
    exact add_nonneg (le_max_right _ _) (sum_overruns_nonneg _)

/-- **A call keeps the account**, whether it is answered or not. -/
theorem isSettled_call {ceiling : ℚ} {b : Budget ℚ} {calls : List (Call σ ℚ)} {h : Handle σ ℚ}
    {r : Request} {w : σ} (hr : h.refuses r b.remaining w = false)
    (hsettled : IsSettled ceiling b calls) :
    IsSettled ceiling (b.chargeAnswer (h.provider.classify r w).1)
      (calls ++ [⟨h.provider, r, w⟩]) := by
  have hresponse : (⟨h.provider, r, w⟩ : Call σ ℚ).response? =
      (h.provider.classify r w).1.toOption := rfl
  rcases hanswer : (h.provider.classify r w).1 with error | response
  · -- Without a response there is no bill.
    rw [hanswer] at hresponse
    refine ⟨hsettled.ceiling_eq, ?_, ?_⟩
    · rw [costs, forResponses_concat_of_none _ _ hresponse]
      exact hsettled.spent_eq
    · rw [overruns, forResponses_concat_of_none _ _ hresponse]
      exact hsettled.spent_le
  · rw [hanswer] at hresponse
    have hestimate := estimate_le_of_not_refuses hr
    rw [hsettled.ceiling_eq] at hestimate
    refine ⟨?_, ?_, ?_⟩
    · rw [Budget.chargeAnswer, Budget.ceiling_charge]
      exact hsettled.ceiling_eq
    · have hpositive : max response.cost 0 = ([response.cost].filter (0 < ·)).sum := by
        by_cases hcost : 0 < response.cost
        · simp [hcost, hcost.le]
        · simp [hcost, not_lt.1 hcost]
      rw [Budget.chargeAnswer, spent_charge, hsettled.spent_eq, hpositive, costs, costs,
        forResponses_concat_of_some _ _ hresponse, List.filter_append, List.sum_append]
    · rw [Budget.chargeAnswer, spent_charge, overruns, forResponses_concat_of_some _ _ hresponse,
        List.sum_append, List.sum_singleton]
      exact add_bill_le (sum_overruns_nonneg calls) hsettled.spent_le hestimate

namespace TriageEngine

theorem isSettled_triage (e : TriageEngine σ ℚ) (l : List (Finding ℚ)) (w : σ) :
    IsSettled e.config.totalCostCeiling (e.triage l w).budget (e.calls l w) := by
  have hbudget : (e.triage l w).budget = (e.recorded.triage l (w, [])).budget :=
    congrArg Outcome.budget (e.triageWith_recorded e.config.aiEnabled l (w, [])).symm
  rw [hbudget]
  refine judge_preserves (e := e.recorded) (w := (w, []))
    (I := fun b w => IsSettled e.config.totalCostCeiling b w.2) ?_ e.config.aiEnabled l
    (isSettled_full _)
  intro r h hh _ b w hr hsettled
  obtain ⟨g, -, rfl⟩ := List.mem_map.1 hh
  exact isSettled_call (h := g) hr hsettled

/-- **The ceiling on spending holds.**  The cost of a call of triage is the sum of the positive
costs of all responses that its providers have given, and it exceeds the ceiling by no more than
the responses have cost more than was estimated; so it does not exceed a ceiling that is not
negative if no response has. -/
theorem triage_spending (e : TriageEngine σ ℚ) (l : List (Finding ℚ)) (w : σ) :
    (e.triage l w).summary.cost = ((costs (e.calls l w)).filter (0 < ·)).sum ∧
      (e.triage l w).summary.cost ≤
        max e.config.totalCostCeiling 0 + (overruns (e.calls l w)).sum ∧
      (0 ≤ e.config.totalCostCeiling →
        (∀ c ∈ e.calls l w, ∀ r, c.response? = some r → r.cost ≤ c.estimate) →
        (e.triage l w).summary.cost ≤ e.config.totalCostCeiling) := by
  have hsettled := e.isSettled_triage l w
  refine ⟨hsettled.spent_eq, hsettled.spent_le, fun hceiling hbills => ?_⟩
  have hspent := hsettled.spent_le
  rw [sum_overruns_eq_zero hbills, add_zero, max_eq_left hceiling] at hspent
  exact hspent

end TriageEngine

end Vigil
