import Vigil.Proofs.Exact
import Vigil.Proofs.Triage.Trail

/-!
# Triage without a verdict

A provider that gives no verdict leaves nothing behind but an event, the costs of what it answered
and a changed world.  If none of the calls of triage brings a verdict, the rules judge every
finding, just as they do without providers.

* `Consulted.eq_none_of_no_verdict` -- a chain whose calls bring no verdict decides nothing;
* `filter_events_consultation` -- and whatever a chain comes to, it records attempts only;
* `SameJudgements` -- what two calls of triage have in common if the rules decide in both;
* `triage_of_no_verdict` -- **the main result**: failing providers are as good as none.
-/

namespace Vigil

variable {σ τ ν : Type}

/-- The verdict that a call has brought, if it has brought one that can be read. -/
def Call.verdict? [Quantity ν] (c : Call σ ν) : Option (Verdict ν) :=
  c.response?.bind fun r => (Verdict.parse r.content : Except String (Verdict ν)).toOption

namespace TriageEngine

variable [Quantity ν]

/-! ## Chains that decide nothing -/

section Consulted

variable {id : String} {r : Request} {m : Moment σ ν} {hs : List (Handle σ ν)}
  {decision : Option (Classification ν × Option Severity)} {events : List (AuditEvent ν)}
  {calls : List (Call σ ν)}

theorem Consulted.eq_none_of_no_verdict (h : Consulted id r m hs decision events calls)
    (hcalls : ∀ c ∈ calls, c.verdict? = none) : decision = none := by
  cases h with
  | undecided htried => rfl
  | decided hchain htried hr ha hv =>
    have hlast := hcalls _ (List.mem_append_right _ List.mem_cons_self)
    simp [Call.verdict?, Call.response?, ha, hv, Except.toOption] at hlast

theorem Fruitless.isAttempt {h : Handle σ ν} {event : AuditEvent ν} {call : Option (Call σ ν)}
    (htry : Fruitless id r m h event call) : event.isAttempt = true := by
  cases htry <;> rfl

theorem Tried.isAttempt (h : Tried id r m hs events calls) :
    ∀ event ∈ events, event.isAttempt = true := by
  induction h with
  | nil m => exact fun event hevent => absurd hevent List.not_mem_nil
  | cons htry hrest ih => exact List.forall_mem_cons.2 ⟨htry.isAttempt, ih⟩

/-- Whatever a chain comes to, it records attempts only. -/
theorem Consulted.filter_events (h : Consulted id r m hs decision events calls) :
    events.filter (!·.isAttempt) = [] := by
  refine List.filter_eq_nil_iff.2 fun event hevent => ?_
  have hattempt : event.isAttempt = true := by
    cases h with
    | undecided htried => exact htried.isAttempt event hevent
    | decided hchain htried hr ha hv => exact htried.isAttempt event hevent
  rw [hattempt]
  decide

end Consulted

omit [Quantity ν] in
/-- The events of a judgement are no attempts. -/
theorem filter_verdictEvents (g : Finding ν) (c : Classification ν) :
    (verdictEvents g c).filter (!·.isAttempt) = verdictEvents g c := by
  rw [verdictEvents]
  split <;> rfl

/-! ## Two calls of triage -/

/-- The rules have decided in both calls, and the calls have come to the same; only the first may
have tried providers, and paid for it. -/
structure SameJudgements (o : Outcome σ ν) (p : Outcome τ ν) : Prop where
  findings : o.findings = p.findings
  byProviders : o.summary.byProviders = 0 ∧ p.summary.byProviders = 0
  byRules : o.summary.byRules = p.summary.byRules
  humanReview : o.summary.humanReview = p.summary.humanReview
  events : o.events.filter (!·.isAttempt) = p.events

omit [Quantity ν] in
theorem SameJudgements.keep {o : Outcome σ ν} {p : Outcome τ ν} (h : SameJudgements o p)
    (f : Finding ν) : SameJudgements (o.keep f) (p.keep f) where
  findings := congrArg (f :: ·) h.findings
  byProviders := h.byProviders
  byRules := h.byRules
  humanReview := h.humanReview
  events := h.events

omit [Quantity ν] in
/-- One more finding that the rules judge in both calls, in the first one after some attempts. -/
theorem SameJudgements.judged {o : Outcome σ ν} {p : Outcome τ ν} (h : SameJudgements o p)
    (g : Finding ν) (c : Classification ν) {attempts : List (AuditEvent ν)}
    (hattempts : attempts.filter (!·.isAttempt) = []) :
    SameJudgements (o.judged g false (attempts ++ verdictEvents g c))
      (p.judged g false (verdictEvents g c)) where
  findings := congrArg (g :: ·) h.findings
  byProviders := h.byProviders
  byRules := congrArg (· + 1) h.byRules
  humanReview := congrArg (· + if g.needsReview then 1 else 0) h.humanReview
  events := by
    rw [Outcome.judged, Outcome.judged, List.filter_append, List.filter_append, hattempts,
      filter_verdictEvents, List.nil_append, h.events]

/-- **What the rules decide, failing providers do not change**: from whatever budgets and worlds the
two calls begin, they judge alike if the calls that the first one makes bring no verdict. -/
theorem sameJudgements_judge (e : TriageEngine σ ν) (useProviders : Bool) (l : List (Finding ν))
    (b b' : Budget ν) (w w' : σ) (before calls : List (Call σ ν))
    (hworld : (e.recorded.judge useProviders l b (w, before)).world.2 = before ++ calls)
    (hcalls : ∀ c ∈ calls, c.verdict? = none) :
    SameJudgements (e.recorded.judge useProviders l b (w, before)) (e.judge false l b' w') := by
  induction l generalizing b b' w before calls with
  | nil => exact ⟨rfl, ⟨rfl, rfl⟩, rfl, rfl, rfl⟩
  | cons f rest ih =>
    by_cases hf : f.status = .pending
    · rw [judge_cons_of_pending hf] at hworld ⊢
      rw [judge_cons_of_pending hf]
      have hshows := e.shows_consultation useProviders f b w before
      generalize e.recorded.consultation useProviders f b (w, before) = c at hworld hshows ⊢
      obtain ⟨decision, budget, attempts, world⟩ := c
      obtain ⟨first, rfl, rfl, hconsulted⟩ := hshows
      -- The calls are those about this finding and those about the others.
      obtain ⟨others, hothers, -⟩ := e.trail_judge useProviders rest
        (Moment.after ⟨b, w⟩ first).budget (Moment.after ⟨b, w⟩ first).world (before ++ first)
      have hsplit : before ++ calls = before ++ (first ++ others) := by
        rw [← hworld, ← List.append_assoc]
        exact hothers
      rw [List.append_cancel_left hsplit] at hcalls
      have hnone := hconsulted.eq_none_of_no_verdict fun c hc =>
        hcalls c (List.mem_append_left _ hc)
      dsimp only at hnone
      subst hnone
      exact (ih _ b' _ _ others hothers fun c hc => hcalls c (List.mem_append_right _ hc)).judged
        _ _ hconsulted.filter_events
    · rw [judge_cons_of_not_pending hf] at hworld ⊢
      rw [judge_cons_of_not_pending hf]
      exact (ih b b' w before calls hworld hcalls).keep f

/-! ## The engine without providers -/

/-- The same engine, told not to use its providers. -/
def withoutProviders (e : TriageEngine σ ν) : TriageEngine σ ν :=
  { e with config := { e.config with aiEnabled := false } }

/-- Without providers, only the rules of an engine count. -/
theorem judge_false_eq_of_rules {e e' : TriageEngine σ ν} (h : e.rules = e'.rules)
    (l : List (Finding ν)) (b : Budget ν) (w : σ) : e.judge false l b w = e'.judge false l b w := by
  induction l with
  | nil => rfl
  | cons f rest ih =>
    by_cases hf : f.status = .pending
    · rw [judge_cons_of_pending hf, judge_cons_of_pending hf]
      simp only [consultation, Bool.false_eq_true, if_false, ih, h]
    · rw [judge_cons_of_not_pending hf, judge_cons_of_not_pending hf, ih]

theorem triage_withoutProviders (e : TriageEngine σ ν) (l : List (Finding ν)) (w : σ) :
    e.withoutProviders.triage l w = e.triageByRules l w := by
  have hrules : e.withoutProviders.rules = e.rules := rfl
  exact judge_false_eq_of_rules hrules l _ w

/-- **Failing providers are as good as none.**  If no call of triage brings a verdict -- those whose
estimate is refused are not made at all -- then triage gives back the findings, the counts and, but
for the attempts, the events of triage by the rules alone, and so does the same engine that is told
not to use its providers. -/
theorem triage_of_no_verdict (e : TriageEngine σ ν) (l : List (Finding ν)) (w : σ)
    (h : ∀ c ∈ e.calls l w, c.verdict? = none) :
    SameJudgements (e.triage l w) (e.triageByRules l w) ∧
      SameJudgements (e.triage l w) (e.withoutProviders.triage l w) := by
  rw [triage_withoutProviders, and_self]
  have hsame := e.sameJudgements_judge e.config.aiEnabled l
    (Budget.full e.config.totalCostCeiling) (Budget.full e.config.totalCostCeiling) w w []
    (e.calls l w) (List.nil_append _).symm h
  have hrecorded : (e.recorded.triage l (w, [])).mapWorld Prod.fst = e.triage l w :=
    e.triageWith_recorded e.config.aiEnabled l (w, [])
  rw [← hrecorded]
  exact ⟨hsame.findings, hsame.byProviders, hsame.byRules, hsame.humanReview, hsame.events⟩

/-! ## A chain of three failures -/

/-- A provider that is too expensive. -/
def costly : Provider Nat ℚ where
  name := "costly"
  model := "none"
  estimate := fun _ _ => 2
  classify := fun _ w => (.error (.request "not to be reached"), w)

/-- A provider that cannot be reached. -/
def offline : Provider Nat ℚ where
  name := "offline"
  model := "none"
  estimate := fun _ _ => 0
  classify := fun _ w => (.error (.unavailable "no connection"), w + 1)

/-- A provider that answers, and wants to be paid, but gives no verdict. -/
def vague : Provider Nat ℚ where
  name := "vague"
  model := "none"
  estimate := fun _ _ => 0
  classify := fun _ w => (.ok ⟨"perhaps", 1, "vague", "none", 1⟩, w + 1)

/-- A triage that asks the three, one after the other. -/
def hopelessEngine : TriageEngine Nat ℚ :=
  (TriageEngine.of .standard).addProviders
    [⟨costly, 0, 1, true⟩, ⟨offline, 1, 1, true⟩, ⟨vague, 2, 1, true⟩]

/-- A finding to be judged. -/
def leak : Finding ℚ where
  id := "leak-1"
  findingType := "leak"
  severity := .medium
  confidence := 1
  location := { file := "m.c", startLine := 10, endLine := 10 }
  description := "a leak"
  agents := OrderedSet.singleton "lint"
  status := .pending

/-- Two of the three are called, none gives a verdict, and the rules judge the leak. -/
theorem triage_of_no_verdict_hopelessEngine :
    (hopelessEngine.calls [leak] 0).map (·.provider.name) = ["offline", "vague"] ∧
      SameJudgements (hopelessEngine.triage [leak] 0) (hopelessEngine.triageByRules [leak] 0) ∧
      SameJudgements (hopelessEngine.triage [leak] 0)
        (hopelessEngine.withoutProviders.triage [leak] 0) := by
  have hcalls : ∀ c ∈ hopelessEngine.calls [leak] 0, c.verdict? = none := by
    decide +kernel
  exact ⟨by decide +kernel, triage_of_no_verdict _ _ _ hcalls⟩

end TriageEngine

end Vigil
