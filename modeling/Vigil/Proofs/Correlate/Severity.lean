import Vigil.Proofs.Correlate.Idempotent

/-!
# Severity across a correlation

A result has two severities, the greatest of its members' own and the greatest of those that triage
has adjusted, and the adjusted one counts if there is any.  So one adjusted member decides about all
members, also about those that were never adjusted.

* `StandsFor.effectiveSeverity_ge_iff` -- the severity that counts is that of no member downgraded,
  exactly if the adjusted severities reach those of the members without one (`IsCovered`);
* `correlate_downgrades_iff` -- **the main result**, for every result of a correlation, with what
  holds in any case: neither severity by itself is lowered;
* `not_effectiveSeverity_le_unevenLeaks` -- a correlation that makes a finding of high severity
  count as low.
-/

namespace Vigil.Correlate

variable {ν : Type} [Quantity ν] {c : CorrelationConfig ν} {g : List (Finding ν)} {m : Finding ν}

/-- No member without an adjusted severity is more severe than all adjusted ones, if there are
any. -/
def IsCovered (g : List (Finding ν)) : Prop :=
  ∀ x ∈ g, x.adjustedSeverity = none →
    (∀ y ∈ g, y.adjustedSeverity = none) ∨
      ∃ y ∈ g, ∃ s, y.adjustedSeverity = some s ∧ x.severity ≤ s

/-! ## The two severities by themselves -/

theorem StandsFor.adjustedSeverity_eq_none_iff (h : StandsFor c g m) :
    m.adjustedSeverity = none ↔ ∀ x ∈ g, x.adjustedSeverity = none := by
  rcases h with rfl | ⟨-, h⟩
  · simp only [List.mem_singleton, forall_eq]
  · exact h.adjustedSeverity_eq_none

/-- The adjusted severity of a result is the greatest one. -/
theorem StandsFor.isGreatest_adjustedSeverity (h : StandsFor c g m) {s : Severity}
    (hs : m.adjustedSeverity = some s) :
    IsGreatest {s | ∃ x ∈ g, x.adjustedSeverity = some s} s := by
  rcases h with rfl | ⟨-, h⟩
  · refine ⟨⟨m, List.mem_singleton.2 rfl, hs⟩, ?_⟩
    rintro s' ⟨x, hx, hs'⟩
    rw [List.mem_singleton.1 hx, hs] at hs'
    exact Std.le_of_eq (Option.some.inj hs').symm
  · exact h.adjustedSeverity_eq_some s hs

/-- The adjusted severity of a member is not lowered. -/
theorem StandsFor.exists_adjustedSeverity_ge (h : StandsFor c g m) {x : Finding ν} (hx : x ∈ g)
    {s : Severity} (hs : x.adjustedSeverity = some s) :
    ∃ s', m.adjustedSeverity = some s' ∧ s ≤ s' := by
  cases hm : m.adjustedSeverity with
  | none =>
    rw [h.adjustedSeverity_eq_none_iff.1 hm x hx] at hs
    cases hs
  | some s' => exact ⟨s', rfl, (h.isGreatest_adjustedSeverity hm).2 ⟨x, hx, hs⟩⟩

/-! ## The severity that counts -/

/-- **What decides whether a correlation downgrades a member.** -/
theorem StandsFor.effectiveSeverity_ge_iff (h : StandsFor c g m) :
    (∀ x ∈ g, x.effectiveSeverity ≤ m.effectiveSeverity) ↔ IsCovered g := by
  constructor
  · intro hge x hx hnone
    have hle := hge x hx
    rw [Finding.effectiveSeverity, hnone, Option.getD_none] at hle
    cases hm : m.adjustedSeverity with
    | none => exact Or.inl (h.adjustedSeverity_eq_none_iff.1 hm)
    | some s =>
      obtain ⟨y, hy, hys⟩ := (h.isGreatest_adjustedSeverity hm).1
      rw [Finding.effectiveSeverity, hm, Option.getD_some] at hle
      exact Or.inr ⟨y, hy, s, hys, hle⟩
  · intro hcovered x hx
    cases hadjusted : x.adjustedSeverity with
    | some s =>
      obtain ⟨s', hs', hle⟩ := h.exists_adjustedSeverity_ge hx hadjusted
      rw [Finding.effectiveSeverity, Finding.effectiveSeverity, hadjusted, hs']
      exact hle
    | none =>
      rw [Finding.effectiveSeverity, Finding.effectiveSeverity, hadjusted, Option.getD_none]
      rcases hcovered x hx hadjusted with hnone | ⟨y, hy, s, hys, hle⟩
      · rw [h.adjustedSeverity_eq_none_iff.2 hnone]
        exact h.severity_le hx
      · obtain ⟨s', hs', hle'⟩ := h.exists_adjustedSeverity_ge hy hys
        rw [hs']
        exact Std.le_trans hle hle'

/-- **How far a correlation downgrades nothing.**  Neither the severity of a finding nor an adjusted
one is lowered by itself.  The severity that counts is not lowered either, exactly if no finding
without an adjusted severity is more severe than all adjusted ones that it is merged with. -/
theorem correlate_downgrades_iff (c : CorrelationConfig ν) (l : List (Finding ν)) :
    List.Forall₂
      (fun g m => (∀ x ∈ g, x.severity ≤ m.severity) ∧
        (∀ x ∈ g, ∀ s, x.adjustedSeverity = some s → ∃ s', m.adjustedSeverity = some s' ∧ s ≤ s') ∧
        ((∀ x ∈ g, x.effectiveSeverity ≤ m.effectiveSeverity) ↔ IsCovered g))
      (chains c.lineTolerance (sort l)) (correlate c l) :=
  (forall₂_standsFor_correlate c l).imp fun _ _ h =>
    ⟨fun _ => h.severity_le, fun _ hx _ => h.exists_adjustedSeverity_ge hx,
      h.effectiveSeverity_ge_iff⟩

/-- A leak that triage has adjusted from medium to low, and beside it one of high severity that has
not been through triage. -/
def unevenLeaks : List (Finding Float) :=
  [⟨"lint:leak:m.c:10-10", "leak", .medium, 0.9, ⟨"m.c", 10, 10, none⟩, "", .singleton "lint",
      .confirmed, some .low, some ⟨true, "local", some "m", 0.9, "", 0⟩⟩,
    ⟨"prover:leak:m.c:11-11", "leak", .high, 0.5, ⟨"m.c", 11, 11, none⟩, "", .singleton "prover",
      .pending, none, none⟩]

/-- **Correlation downgrades a finding of high severity to low.** -/
theorem not_effectiveSeverity_le_unevenLeaks :
    ¬ List.Forall₂ (fun g m => ∀ x ∈ g, x.effectiveSeverity ≤ m.effectiveSeverity)
      (chains 3 (sort unevenLeaks)) (correlate .standard unevenLeaks) := by
  have hsort : sort unevenLeaks = unevenLeaks := sort_of_ascending (by decide)
  have hchains : chains 3 unevenLeaks = [unevenLeaks] := by rfl
  have hmerged : correlate .standard unevenLeaks = mergeChain .standard unevenLeaks := by
    rw [correlate, hsort]
    exact (congrArg (List.flatMap (mergeChain .standard)) hchains).trans (List.append_nil _)
  rw [hmerged, hsort, hchains]
  intro h
  obtain ⟨hdowngraded, -⟩ := List.forall₂_cons.1 h
  have hprover := hdowngraded _ (List.mem_cons_of_mem _ (List.mem_singleton.2 rfl))
  exact absurd hprover (by decide)

end Vigil.Correlate
