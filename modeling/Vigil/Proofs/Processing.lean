import Vigil.Proofs.Correlate.Idempotent
import Vigil.Proofs.Exact
import Vigil.Proofs.Normalize.Identity
import Vigil.Proofs.Triage.Review

/-!
# The flag for review, through correlation and triage

Triage flags a finding for review by its severity, and correlation gives a merged finding the
greatest severity of its members; but the status of a merged finding is that of its leader, the most
confident member.  So the flag survives a correlation only as far as the leaders bear it.

* `IsGuarded` -- a finding that triage has judged and whose severity is high or critical waits for a
  human;
* `isGuarded_correlate_iff` -- when correlation gives guarded findings only;
* `keepsFlags_correlate` and `keepsFlags_of_triaged` -- when correlation takes no flag away, and
  that triage never does;
* `Processed` -- what any mix of steps makes of normalized findings;
* `isGuarded_of_processed` -- **the main result**: all that is processed is guarded, as long as
  leaders are as they must be;
* `exists_processed_not_isGuarded` -- and not otherwise: a confident finding of low severity clears
  the flag of a severe one.
-/

namespace Vigil

open Finding

variable {ν : Type}

namespace Finding

/-- If triage has judged the finding and its severity is high or critical, it waits for a human. -/
def IsGuarded (f : Finding ν) : Prop :=
  f.status ≠ .pending → f.severity.requiresReview = true → f.status = .needsHumanReview

instance (f : Finding ν) : Decidable f.IsGuarded :=
  inferInstanceAs (Decidable (_ → _ → _))

/-- Every flagged finding of the first list lies within a flagged one of the second. -/
def KeepsFlags (l l' : List (Finding ν)) : Prop :=
  ∀ f ∈ l, f.status = .needsHumanReview → ∃ g ∈ l', f.IsWithin g ∧ g.status = .needsHumanReview

/-! ## Triage -/

theorem Triaged.isGuarded {f g : Finding ν} (h : Triaged f g) (hf : f.IsGuarded) :
    g.IsGuarded := by
  by_cases hpending : f.status = .pending
  · intro _ hsevere
    exact (h.judged hpending).flagged (Or.inl (Severity.requiresReview_iff.1 hsevere))
  · rw [h.kept hpending]
    exact hf

theorem isGuarded_of_triaged {l l' : List (Finding ν)} (h : List.Forall₂ Triaged l l')
    (hl : ∀ f ∈ l, f.IsGuarded) : ∀ g ∈ l', g.IsGuarded := by
  intro g hg
  obtain ⟨f, hf, htriaged⟩ := exists_left_of_forall₂ h hg
  exact htriaged.isGuarded (hl f hf)

/-- **Triage takes no flag away.** -/
theorem keepsFlags_of_triaged {l l' : List (Finding ν)} (h : List.Forall₂ Triaged l l') :
    KeepsFlags l l' := by
  intro f hf hflag
  obtain ⟨g, hg, htriaged⟩ := exists_right_of_forall₂ h hf
  refine ⟨g, hg, htriaged.sameReport.isWithin, ?_⟩
  have hnot_pending : f.status ≠ .pending := by
    rw [hflag]
    decide
  rw [htriaged.kept hnot_pending]
  exact hflag

end Finding

/-! ## Correlation -/

namespace Correlate

variable [Quantity ν]

/-- The leader of a chain. -/
def leader? : List (Finding ν) → Option (Finding ν)
  | [] => none
  | f :: rest => some (leader f rest)

/-- A chain with a finding of high or critical severity is led by one that is pending or flagged. -/
def LedGuarded (g : List (Finding ν)) : Prop :=
  (∃ x ∈ g, x.severity.requiresReview = true) →
    ∀ x ∈ leader? g, x.status = .pending ∨ x.status = .needsHumanReview

/-- A chain with a flagged finding is led by a flagged one. -/
def LedByFlag (g : List (Finding ν)) : Prop :=
  (∃ x ∈ g, x.status = .needsHumanReview) → ∀ x ∈ leader? g, x.status = .needsHumanReview

/-- All chains into which findings are split have the property. -/
def AllChains (P : List (Finding ν) → Prop) (c : CorrelationConfig ν) (l : List (Finding ν)) :
    Prop :=
  ∀ g ∈ chains c.lineTolerance (sort l), P g

/-- The finding stands for the chain, and has the status of its leader. -/
structure Merges (c : CorrelationConfig ν) (g : List (Finding ν)) (m : Finding ν) : Prop where
  standsFor : StandsFor c g m
  status : ∃ x ∈ leader? g, m.status = x.status

theorem status_of_mem_mergeChain {c : CorrelationConfig ν} {g : List (Finding ν)} {m : Finding ν}
    (hm : m ∈ mergeChain c g) : ∃ x ∈ leader? g, m.status = x.status := by
  match g with
  | [] => cases hm
  | [f] =>
    obtain rfl := List.mem_singleton.1 hm
    exact ⟨m, rfl, rfl⟩
  | f :: h :: rest =>
    obtain rfl := List.mem_singleton.1 hm
    exact ⟨leader f (h :: rest), rfl, rfl⟩

section Merges

variable {c : CorrelationConfig ν} {l g : List (Finding ν)} {m : Finding ν}

theorem exists_merges (hg : g ∈ chains c.lineTolerance (sort l)) :
    ∃ m, mergeChain c g = [m] ∧ Merges c g m := by
  obtain ⟨m, hm, hstands⟩ := standsFor_mergeChain c (ne_nil_of_mem_chains hg)
    fun _ hx _ hy => sameKind_of_mem_chains hg hx hy
  have hmem : m ∈ mergeChain c g := by
    rw [hm]
    exact List.mem_singleton.2 rfl
  exact ⟨m, hm, hstands, status_of_mem_mergeChain hmem⟩

theorem merges_of_mem_correlate (hm : m ∈ correlate c l) :
    ∃ g ∈ chains c.lineTolerance (sort l), Merges c g m := by
  obtain ⟨g, hg, hmem⟩ := List.mem_flatMap.1 hm
  obtain ⟨n, hn, hmerges⟩ := exists_merges hg
  rw [hn] at hmem
  obtain rfl := List.mem_singleton.1 hmem
  exact ⟨g, hg, hmerges⟩

theorem exists_mem_correlate (hg : g ∈ chains c.lineTolerance (sort l)) :
    ∃ m ∈ correlate c l, Merges c g m := by
  obtain ⟨m, hm, hmerges⟩ := exists_merges hg
  refine ⟨m, List.mem_flatMap.2 ⟨g, hg, ?_⟩, hmerges⟩
  rw [hm]
  exact List.mem_singleton.2 rfl

/-- A merged finding is as severe as the most severe member. -/
theorem Merges.requiresReview_iff (h : Merges c g m) :
    m.severity.requiresReview = true ↔ ∃ x ∈ g, x.severity.requiresReview = true := by
  constructor
  · intro hm
    rcases h.standsFor with rfl | ⟨-, hsummary⟩
    · exact ⟨m, List.mem_singleton.2 rfl, hm⟩
    · obtain ⟨x, hx, hseverity⟩ := hsummary.severity.1
      exact ⟨x, hx, by rw [hseverity, hm]⟩
  · rintro ⟨x, hx, hsevere⟩
    have hhigh : Severity.high ≤ x.severity := decide_eq_true_iff.1 hsevere
    exact decide_eq_true (Std.le_trans hhigh (h.standsFor.severity_le hx))

/-- **A merged finding is guarded exactly if its leader may stand for what is severe.** -/
theorem Merges.isGuarded_iff (h : Merges c g m) : m.IsGuarded ↔ LedGuarded g := by
  obtain ⟨x, hx, hstatus⟩ := h.status
  have hleader : ∀ y ∈ leader? g, y = x := fun y hy => Option.mem_unique hy hx
  rw [IsGuarded, LedGuarded, h.requiresReview_iff, hstatus]
  constructor
  · intro hguarded hsevere y hy
    rw [hleader y hy]
    exact or_iff_not_imp_left.2 fun hpending => hguarded hpending hsevere
  · intro hled hpending hsevere
    exact (hled hsevere x hx).resolve_left hpending

end Merges

/-- **Correlation gives guarded findings exactly if severe chains are led by pending or flagged
findings.** -/
theorem isGuarded_correlate_iff (c : CorrelationConfig ν) (l : List (Finding ν)) :
    (∀ m ∈ correlate c l, m.IsGuarded) ↔ AllChains LedGuarded c l := by
  constructor
  · intro h g hg
    obtain ⟨m, hm, hmerges⟩ := exists_mem_correlate hg
    exact hmerges.isGuarded_iff.1 (h m hm)
  · intro h m hm
    obtain ⟨g, hg, hmerges⟩ := merges_of_mem_correlate hm
    exact hmerges.isGuarded_iff.2 (h g hg)

/-- **Correlation takes no flag away if flagged chains are led by flagged findings.** -/
theorem keepsFlags_correlate {c : CorrelationConfig ν} {l : List (Finding ν)}
    (h : AllChains LedByFlag c l) : KeepsFlags l (correlate c l) := by
  intro f hf hflag
  obtain ⟨g, hg, hfg⟩ := mem_chains_sort.2 hf
  obtain ⟨m, hm, hmerges⟩ := exists_mem_correlate hg
  obtain ⟨x, hx, hstatus⟩ := hmerges.status
  refine ⟨m, hm, hmerges.standsFor.isWithin hfg, ?_⟩
  rw [hstatus]
  exact h g hg ⟨f, hfg, hflag⟩ x hx

end Correlate

/-! ## Any mix of steps -/

open Correlate

variable [Quantity ν]

/-- What can be made of normalized findings by putting lists together, by reordering them, by
correlation and by triage.  What is correlated satisfies the condition `ok`. -/
inductive Processed (ok : CorrelationConfig ν → List (Finding ν) → Prop) :
    List (Finding ν) → Prop
  | normalized (agent : String) (batch : List (RawFinding ν)) :
    Processed ok (normalize agent batch).findings
  | append {l l' : List (Finding ν)} (h : Processed ok l) (h' : Processed ok l') :
    Processed ok (l ++ l')
  | perm {l l' : List (Finding ν)} (h : Processed ok l) (hperm : l.Perm l') : Processed ok l'
  | correlate {l : List (Finding ν)} (h : Processed ok l) (c : CorrelationConfig ν)
    (hok : ok c l) : Processed ok (correlate c l)
  | triage {l : List (Finding ν)} (h : Processed ok l) {σ : Type} (e : TriageEngine σ ν) (w : σ) :
    Processed ok (e.triage l w).findings
  | triageByRules {l : List (Finding ν)} (h : Processed ok l) {σ : Type} (e : TriageEngine σ ν)
    (w : σ) : Processed ok (e.triageByRules l w).findings

theorem isGuarded_normalize {agent : String} {batch : List (RawFinding ν)} {f : Finding ν}
    (hf : f ∈ (normalize agent batch).findings) : f.IsGuarded := by
  obtain ⟨r, -, g, n, hg, rfl⟩ := Normalize.exists_of_mem_normalize hf
  exact fun hpending => absurd (Normalize.reported_of_one hg).status hpending

/-- **The review by humans survives any mix of steps** in which severe chains are led by pending or
flagged findings: every finding is guarded.  One more correlation keeps it so exactly under that
condition, and it takes no flag away if flagged findings lead their chains; triage never takes one
away, whatever the providers say. -/
theorem isGuarded_of_processed {l : List (Finding ν)} (h : Processed (AllChains LedGuarded) l) :
    (∀ f ∈ l, f.IsGuarded) ∧
      (∀ c, ((∀ m ∈ correlate c l, m.IsGuarded) ↔ AllChains LedGuarded c l) ∧
        (AllChains LedByFlag c l → KeepsFlags l (correlate c l))) ∧
      ∀ {σ : Type} (e : TriageEngine σ ν) (w : σ),
        KeepsFlags l (e.triage l w).findings ∧ KeepsFlags l (e.triageByRules l w).findings := by
  refine ⟨?_, fun c => ⟨isGuarded_correlate_iff c l, keepsFlags_correlate⟩, fun e w => ?_⟩
  · induction h with
    | normalized agent batch => exact fun f hf => isGuarded_normalize hf
    | append h h' ih ih' => exact List.forall_mem_append.2 ⟨ih, ih'⟩
    | perm h hperm ih => exact fun f hf => ih f (hperm.mem_iff.2 hf)
    | correlate h c hok ih => exact (isGuarded_correlate_iff c _).2 hok
    | triage h e w ih =>
      exact isGuarded_of_triaged (TriageEngine.forall₂_triaged_judge e _ _ _ w) ih
    | triageByRules h e w ih =>
      exact isGuarded_of_triaged (TriageEngine.forall₂_triaged_judge e _ _ _ w) ih
  · exact ⟨keepsFlags_of_triaged (TriageEngine.forall₂_triaged_judge e _ _ _ w),
      keepsFlags_of_triaged (TriageEngine.forall₂_triaged_judge e _ _ _ w)⟩

/-! ## Two agents, one after the other -/

/-- A provider that takes every finding for a real issue. -/
def credulous : Provider Unit ℚ where
  name := "credulous"
  model := "none"
  estimate := fun _ _ => 0
  classify := fun _ w => (.ok ⟨"a true positive", 1, "credulous", "none", 0⟩, w)

/-- A triage that asks that provider. -/
def credulousEngine : TriageEngine Unit ℚ :=
  (TriageEngine.of .standard).addProvider ⟨credulous, 0, 1, true⟩

/-- What an agent reports of one leak, after its triage. -/
def triagedLeak (agent severity : String) (line : UInt32) (confidence : ℚ) : List (Finding ℚ) :=
  (credulousEngine.triage (normalize agent [.record
    { findingType := some "leak", file := some "m.c", line := some line, severity := some severity,
      confidence := some confidence }]).findings ()).findings

/-- A leak of low severity beside one of high severity, both after triage. -/
def twoLeaks (lowConfidence highConfidence : ℚ) : List (Finding ℚ) :=
  triagedLeak "lint" "low" 10 lowConfidence ++ triagedLeak "prover" "high" 11 highConfidence

theorem processed_twoLeaks (ok : CorrelationConfig ℚ → List (Finding ℚ) → Prop)
    (lowConfidence highConfidence : ℚ) : Processed ok (twoLeaks lowConfidence highConfidence) :=
  ((Processed.normalized _ _).triage _ _).append ((Processed.normalized _ _).triage _ _)

/-- The flagged leak leads, and the two make one finding that waits for a human. -/
theorem isGuarded_of_processed_twoLeaks :
    (correlate .standard (twoLeaks (1 / 2) (9 / 10))).map (fun m => (m.severity, m.status)) =
        [(.high, .needsHumanReview)] ∧
      ∀ m ∈ correlate .standard (twoLeaks (1 / 2) (9 / 10)), m.IsGuarded := by
  have hsort : sort (twoLeaks (1 / 2) (9 / 10)) = twoLeaks (1 / 2) (9 / 10) :=
    sort_of_ascending (by decide +kernel)
  have hled : AllChains LedGuarded .standard (twoLeaks (1 / 2) (9 / 10)) := by
    rw [AllChains, hsort]
    unfold LedGuarded
    decide +kernel
  refine ⟨?_, (isGuarded_of_processed ((processed_twoLeaks _ _ _).correlate .standard hled)).1⟩
  rw [correlate, hsort]
  decide +kernel

/-- **A confident finding of low severity clears the flag of a severe one**: each of the two is
guarded, the severe one is flagged, and correlation makes of them one finding of high severity that
counts as confirmed, without any review. -/
theorem exists_processed_not_isGuarded :
    ∃ l : List (Finding ℚ), Processed (fun _ _ => True) l ∧ (∀ f ∈ l, f.IsGuarded) ∧
      Processed (fun _ _ => True) (correlate .standard l) ∧
      ¬ (∀ m ∈ correlate .standard l, m.IsGuarded) ∧ ¬ KeepsFlags l (correlate .standard l) := by
  have hsort : sort (twoLeaks (9 / 10) (1 / 2)) = twoLeaks (9 / 10) (1 / 2) :=
    sort_of_ascending (by decide +kernel)
  have hmerged : (correlate .standard (twoLeaks (9 / 10) (1 / 2))).map
      (fun m => (m.severity, m.status)) = [(.high, .confirmed)] := by
    rw [correlate, hsort]
    decide +kernel
  obtain ⟨m, hm, hfields⟩ := List.map_eq_singleton_iff.1 hmerged
  obtain ⟨hseverity, hstatus⟩ := Prod.mk.inj hfields
  have hprocessed := processed_twoLeaks (fun _ _ => True) (9 / 10) (1 / 2)
  refine ⟨_, hprocessed, by decide +kernel, hprocessed.correlate .standard trivial, ?_, ?_⟩
  · intro hguarded
    have hm' := hguarded m (hm ▸ List.mem_singleton.2 rfl)
    rw [IsGuarded, hseverity, hstatus] at hm'
    exact absurd (hm' (by decide) rfl) (by decide)
  · intro hkeeps
    have hflagged : ∃ f ∈ twoLeaks (9 / 10) (1 / 2), f.status = .needsHumanReview := by
      decide +kernel
    obtain ⟨f, hf, hflag⟩ := hflagged
    obtain ⟨g, hg, -, hkept⟩ := hkeeps f hf hflag
    rw [hm, List.mem_singleton] at hg
    rw [hg, hstatus] at hkept
    cases hkept

end Vigil
