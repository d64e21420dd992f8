import Vigil.Proofs.Correlate.Order
import Vigil.Proofs.Related
import Vigil.Triage.Engine

/-!
# Triage and the review by humans

Providers may answer anything, and differently each time.  Whatever they say enters a finding in one
place only, `settle`, with a classification and perhaps a suggested severity; so it is enough to
look at `settle` with any classification and any suggestion.

* `SameReport` -- what the agents reported of a finding, which triage leaves as it is;
* `MustBeReviewed` -- the reported or the adjusted severity is high or critical;
* `judged_settle` -- whatever the verdict, a finding that must be reviewed is flagged for review,
  and any other has the status that belongs to its classification;
* `triage_cannot_bypass_review` -- **the main result**: so it is for every finding of every call of
  triage, with the help of any providers or by the rules alone.
-/

namespace Vigil

variable {σ ν : Type}

namespace Finding

/-! ## What triage may and may not change -/

/-- The findings agree in all that agents report. -/
structure SameReport (f g : Finding ν) : Prop where
  id : g.id = f.id
  findingType : g.findingType = f.findingType
  severity : g.severity = f.severity
  confidence : g.confidence = f.confidence
  location : g.location = f.location
  description : g.description = f.description
  agents : g.agents = f.agents

theorem SameReport.refl (f : Finding ν) : SameReport f f :=
  ⟨rfl, rfl, rfl, rfl, rfl, rfl, rfl⟩

theorem SameReport.trans {f g h : Finding ν} (hfg : SameReport f g) (hgh : SameReport g h) :
    SameReport f h where
  id := hgh.id.trans hfg.id
  findingType := hgh.findingType.trans hfg.findingType
  severity := hgh.severity.trans hfg.severity
  confidence := hgh.confidence.trans hfg.confidence
  location := hgh.location.trans hfg.location
  description := hgh.description.trans hfg.description
  agents := hgh.agents.trans hfg.agents

theorem SameReport.isWithin {f g : Finding ν} (h : SameReport f g) : f.IsWithin g where
  kind := ⟨h.findingType.symm, by rw [h.location]⟩
  start_le := by
    rw [h.location]
    exact Std.le_refl _
  le_end := by
    rw [h.location]
    exact Std.le_refl _

/-- The reported severity is high or critical, or the adjusted one is. -/
def MustBeReviewed (f : Finding ν) : Prop :=
  (f.severity = .high ∨ f.severity = .critical) ∨
    f.adjustedSeverity = some .high ∨ f.adjustedSeverity = some .critical

/-- The finding `g` is what the judgement of `f` has come to. -/
structure Judged (f g : Finding ν) : Prop where
  report : SameReport f g
  flagged : g.MustBeReviewed → g.status = .needsHumanReview
  classified : ∃ c, g.classification = some c ∧
    (¬ g.MustBeReviewed → g.status = if c.truePositive then .confirmed else .falsePositive)

theorem Judged.not_pending {f g : Finding ν} (h : Judged f g) : g.status ≠ .pending := by
  obtain ⟨c, -, hc⟩ := h.classified
  by_cases hg : g.MustBeReviewed
  · rw [h.flagged hg]
    decide
  · rw [hc hg]
    split <;> decide

/-- What triage may make of a finding: it judges a pending one and leaves any other as it is. -/
structure Triaged (f g : Finding ν) : Prop where
  not_pending : g.status ≠ .pending
  judged : f.status = .pending → Judged f g
  kept : f.status ≠ .pending → g = f

theorem Triaged.sameReport {f g : Finding ν} (h : Triaged f g) : SameReport f g := by
  by_cases hf : f.status = .pending
  · exact (h.judged hf).report
  · rw [h.kept hf]
    exact SameReport.refl f

end Finding

namespace TriageEngine

open Finding

/-! ## One judgement -/

theorem sameReport_adjust (f : Finding ν) (suggested : Option Severity) :
    SameReport f (adjust f suggested) := by
  unfold adjust
  split
  · exact SameReport.refl f
  · split
    · exact SameReport.refl f
    · exact ⟨rfl, rfl, rfl, rfl, rfl, rfl, rfl⟩

/-- The severity that decides is high or critical exactly if one of the two severities is. -/
theorem requiresReview_reviewSeverity_iff {f : Finding ν} :
    (reviewSeverity f).requiresReview = true ↔ f.MustBeReviewed := by
  rw [reviewSeverity, effectiveSeverity, MustBeReviewed]
  cases f.severity <;> rcases f.adjustedSeverity with _ | s <;> (try cases s) <;> decide

theorem statusFor_of_mustBeReviewed {f : Finding ν} (h : f.MustBeReviewed)
    (c : Classification ν) : statusFor f c = .needsHumanReview :=
  if_pos (requiresReview_reviewSeverity_iff.2 h)

theorem statusFor_of_not_mustBeReviewed {f : Finding ν} (h : ¬ f.MustBeReviewed)
    (c : Classification ν) :
    statusFor f c = if c.truePositive then .confirmed else .falsePositive :=
  if_neg fun hreview => h (requiresReview_reviewSeverity_iff.1 hreview)

/-- **No verdict and no suggested severity clears the flag.** -/
theorem judged_settle (f : Finding ν) (c : Classification ν) (suggested : Option Severity) :
    Judged f (settle f c suggested) where
  report := (sameReport_adjust f suggested).trans ⟨rfl, rfl, rfl, rfl, rfl, rfl, rfl⟩
  flagged := fun h => statusFor_of_mustBeReviewed (f := adjust f suggested) h c
  classified := ⟨c, rfl, fun h => statusFor_of_not_mustBeReviewed (f := adjust f suggested) h c⟩

theorem triaged_settle {f : Finding ν} (hf : f.status = .pending) (c : Classification ν)
    (suggested : Option Severity) : Triaged f (settle f c suggested) where
  not_pending := (judged_settle f c suggested).not_pending
  judged := fun _ => judged_settle f c suggested
  kept := fun h => absurd hf h

/-! ## All judgements of a call -/

variable [Quantity ν]

/-- What a call makes of each finding, whatever is left of the budget and whatever the providers
have answered before. -/
theorem forall₂_triaged_judge (e : TriageEngine σ ν) (useProviders : Bool) (l : List (Finding ν))
    (b : Budget ν) (w : σ) : List.Forall₂ Triaged l (e.judge useProviders l b w).findings := by
  induction l generalizing b w with
  | nil => exact List.Forall₂.nil
  | cons f rest ih =>
    rw [judge]
    by_cases hf : f.isTriaged = true
    · rw [if_pos hf]
      have hpending : f.status ≠ .pending := by simpa [isTriaged] using hf
      exact List.Forall₂.cons ⟨hpending, fun h => absurd h hpending, fun _ => rfl⟩ (ih b w)
    · rw [if_neg hf]
      have hpending : f.status = .pending := by simpa [isTriaged] using hf
      exact List.Forall₂.cons (triaged_settle hpending ..) (ih ..)

/-- **Mandatory human review cannot be bypassed.**  A call of triage gives one finding for each, in
the same order; none is pending; and each that was pending is classified, agrees with what was
reported, and waits for a human if its severity was or has become high or critical. -/
theorem triage_cannot_bypass_review (e : TriageEngine σ ν) (l : List (Finding ν)) (w : σ) :
    List.Forall₂ Triaged l (e.triage l w).findings ∧
      List.Forall₂ Triaged l (e.triageByRules l w).findings :=
  ⟨forall₂_triaged_judge e _ l _ w, forall₂_triaged_judge e _ l _ w⟩

end TriageEngine

end Vigil
