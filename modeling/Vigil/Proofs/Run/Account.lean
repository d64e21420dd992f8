import Vigil.Proofs.Correlate.Merge
import Vigil.Proofs.Normalize.Identity
import Vigil.Proofs.Run.Machine
import Vigil.Proofs.Run.Stages
import Vigil.Proofs.Triage.Review

/-!
# No report is lost and none is invented

What the agents report goes through four stages: normalization, concatenation, correlation and
triage.  A list of findings `AccountsFor` an earlier one if nothing of the earlier one is lost and
nothing of the later one is invented.

* `AccountsFor.refl` and `AccountsFor.trans` -- so a chain of stages can be settled stage by stage;
* `accountsFor_correlate` -- correlation accounts for its findings, in whatever chains it merges
  them;
* `accountsFor_judge` -- triage does, whatever the providers say;
* `run_accounts_for_reports` -- **the main result**: the findings of a run account for what its
  successful agents reported.
-/

namespace Vigil

variable {α σ ν : Type}

/-! ## Accounting for findings -/

/-- The later findings `gs` account for the earlier ones `fs`: each of these lies within a later one
that is as severe and names the same agents, and what agents a later one names, they have an earlier
one within it. -/
structure AccountsFor (fs gs : List (Finding ν)) : Prop where
  kept : ∀ f ∈ fs, ∃ g ∈ gs, f.IsWithin g ∧ f.severity ≤ g.severity ∧ ∀ a ∈ f.agents, a ∈ g.agents
  supported : ∀ g ∈ gs, ∀ a ∈ g.agents, ∃ f ∈ fs, f.IsWithin g ∧ a ∈ f.agents

theorem AccountsFor.refl (fs : List (Finding ν)) : AccountsFor fs fs where
  kept := fun f hf => ⟨f, hf, Finding.IsWithin.refl f, Std.le_refl _, fun _ ha => ha⟩
  supported := fun f hf _ ha => ⟨f, hf, Finding.IsWithin.refl f, ha⟩

theorem AccountsFor.trans {fs gs hs : List (Finding ν)} (hfg : AccountsFor fs gs)
    (hgh : AccountsFor gs hs) : AccountsFor fs hs where
  kept := fun f hf => by
    obtain ⟨g, hg, hwithin, hsev, hagents⟩ := hfg.kept f hf
    obtain ⟨h, hh, hwithin', hsev', hagents'⟩ := hgh.kept g hg
    exact ⟨h, hh, hwithin.trans hwithin', Std.le_trans hsev hsev',
      fun a ha => hagents' a (hagents a ha)⟩
  supported := fun h hh a ha => by
    obtain ⟨g, hg, hwithin', hag⟩ := hgh.supported h hh a ha
    obtain ⟨f, hf, hwithin, haf⟩ := hfg.supported g hg a hag
    exact ⟨f, hf, hwithin.trans hwithin', haf⟩

/-- Findings that are replaced one by one by others with the same report are accounted for. -/
theorem accountsFor_of_sameReport {fs gs : List (Finding ν)}
    (h : List.Forall₂ Finding.SameReport fs gs) : AccountsFor fs gs where
  kept := fun f hf => by
    obtain ⟨g, hg, hfg⟩ := exists_right_of_forall₂ h hf
    exact ⟨g, hg, hfg.isWithin, by rw [hfg.severity]; exact Std.le_refl _,
      fun a ha => by rw [hfg.agents]; exact ha⟩
  supported := fun g hg a ha => by
    obtain ⟨f, hf, hfg⟩ := exists_left_of_forall₂ h hg
    exact ⟨f, hf, hfg.isWithin, by rw [← hfg.agents]; exact ha⟩

variable [Quantity ν]

/-- **Correlation accounts for its findings.** -/
theorem accountsFor_correlate (c : CorrelationConfig ν) (l : List (Finding ν)) :
    AccountsFor l (correlate c l) where
  kept := fun f hf => by
    obtain ⟨g, hg, hfg⟩ := Correlate.mem_chains_sort.2 hf
    obtain ⟨m, hm, hstands⟩ :=
      exists_right_of_forall₂ (Correlate.forall₂_standsFor_correlate c l) hg
    exact ⟨m, hm, hstands.isWithin hfg, hstands.severity_le hfg,
      fun a ha => hstands.mem_agents_iff.2 ⟨f, hfg, ha⟩⟩
  supported := fun m hm a ha => by
    obtain ⟨g, hg, hstands⟩ :=
      exists_left_of_forall₂ (Correlate.forall₂_standsFor_correlate c l) hm
    obtain ⟨f, hfg, haf⟩ := hstands.mem_agents_iff.1 ha
    exact ⟨f, Correlate.mem_chains_sort.1 ⟨g, hg, hfg⟩, hstands.isWithin hfg, haf⟩

/-- **Triage accounts for its findings.** -/
theorem accountsFor_judge (e : TriageEngine σ ν) (useProviders : Bool) (l : List (Finding ν))
    (b : Budget ν) (w : σ) : AccountsFor l (e.judge useProviders l b w).findings :=
  accountsFor_of_sameReport <|
    (e.forall₂_triaged_judge useProviders l b w).imp fun _ _ h => h.sameReport

namespace Orchestrator

/-! ## The stages of a run -/

section Stages

variable (o : Orchestrator α σ ν) (env : Surroundings σ ν) (outcomes : List (Outcome ν))
  (j : Journey σ ν)

theorem accountsFor_correlated (stage : Option (CorrelationConfig ν)) :
    AccountsFor j.run.findings (j.correlated env stage).run.findings := by
  cases stage with
  | none => exact AccountsFor.refl _
  | some c => exact accountsFor_correlate c j.run.findings

theorem accountsFor_triaged (stage : Option (TriageEngine σ ν)) :
    AccountsFor j.run.findings (j.triaged env stage).run.findings := by
  cases stage with
  | none => exact AccountsFor.refl _
  | some e =>
    have hjudged (useProviders : Bool) := accountsFor_judge e useProviders j.run.findings
      (Budget.full e.config.totalCostCeiling) (j.enter env .triaging).world
    rw [Journey.triaged, Journey.withTriage, Journey.triage]
    by_cases hcancelled : (j.enter env .triaging).run.cancelled = true
    · rw [if_pos hcancelled]
      exact hjudged false
    · rw [if_neg hcancelled]
      exact hjudged e.config.aiEnabled

theorem accountsFor_staged :
    AccountsFor (outcomes.flatMap fun x => (normalized x).findings)
      (o.staged env outcomes j).run.findings :=
  (accountsFor_correlated env (j.aggregated env outcomes) o.correlation).trans
    (accountsFor_triaged env (((j.aggregated env outcomes).correlated env
      o.correlation).update countCorrelated) o.triage)

theorem results_staged :
    (o.staged env outcomes j).run.results = j.run.results ++ outcomes.map resultOf := by
  have hcorrelated (j : Journey σ ν) (stage : Option (CorrelationConfig ν)) :
      (j.correlated env stage).run.results = j.run.results := by
    cases stage <;> rfl
  have htriaged (j : Journey σ ν) (stage : Option (TriageEngine σ ν)) :
      (j.triaged env stage).run.results = j.run.results := by
    cases stage <;> rfl
  rw [staged, htriaged]
  exact hcorrelated (j.aggregated env outcomes) o.correlation

end Stages

/-! ## The whole run -/

section Run

variable (o : Orchestrator α σ ν) (env : Surroundings σ ν) (occasion : Occasion)
  (target : AnalysisTarget) (criteria : SelectionCriteria) (w : σ)

/-- The agent has succeeded in the run, and one of the records it reported is accepted as this
finding. -/
def Reports (agent : String) (f : Finding ν) : Prop :=
  ∃ x ∈ (o.report env occasion target criteria w).outcomes, x.agent = agent ∧
    ∃ raw, x.result = .ok raw ∧ ∃ record ∈ raw, Normalize.one agent record = .ok f

variable {o env occasion target criteria w}

/-- A report is found again among the normalized findings, up to its ordinal. -/
theorem exists_normalized_of_reports {agent : String} {f : Finding ν}
    (h : o.Reports env occasion target criteria w agent f) :
    ∃ n, { f with id := Normalize.ordinalId f.id n } ∈
      (o.report env occasion target criteria w).outcomes.flatMap
        fun x => (normalized x).findings := by
  obtain ⟨x, hx, rfl, raw, hraw, record, hrecord, hf⟩ := h
  obtain ⟨n, hn⟩ := Normalize.exists_mem_normalize hrecord hf
  refine ⟨n, List.mem_flatMap.2 ⟨x, hx, ?_⟩⟩
  rw [normalized, hraw]
  exact hn

/-- A normalized finding that names an agent is a report of that agent. -/
theorem reports_of_mem_normalized {agent : String} {g : Finding ν}
    (hg : g ∈ (o.report env occasion target criteria w).outcomes.flatMap
      fun x => (normalized x).findings) (ha : agent ∈ g.agents) :
    ∃ f n, o.Reports env occasion target criteria w agent f ∧
      g = { f with id := Normalize.ordinalId f.id n } := by
  obtain ⟨x, hx, hgx⟩ := List.mem_flatMap.1 hg
  rw [normalized] at hgx
  split at hgx
  · rename_i raw hraw
    obtain ⟨record, hrecord, f, n, hf, rfl⟩ := Normalize.exists_of_mem_normalize hgx
    obtain rfl := (Normalize.reported_of_one hf).mem_agents_iff.1 ha
    exact ⟨f, n, ⟨x, hx, rfl, raw, hraw, record, hrecord, hf⟩, rfl⟩
  · cases hgx

variable (o env occasion target criteria w)

/-- **No report is lost and none is invented, from end to end.**  Whenever a run has an outcome,
every accepted record of an agent that succeeded lies within a finding of the run that names the
agent and is as severe, and for every agent that a finding of the run names there is such a record
within it.  The outcomes that this speaks of are those that the results of the run show, one for
each task, and the records are those that the agents' own work has given. -/
theorem run_accounts_for_reports {r : Run ν}
    (h : (o.run env occasion target criteria w).1.answer = .ok r) :
    (∀ agent f, o.Reports env occasion target criteria w agent f →
        ∃ g ∈ r.findings, f.IsWithin g ∧ agent ∈ g.agents ∧ f.severity ≤ g.severity) ∧
      (∀ g ∈ r.findings, ∀ agent ∈ g.agents,
        ∃ f, o.Reports env occasion target criteria w agent f ∧ f.IsWithin g) ∧
      List.Forall₂ Dispatch.AnswersFor (o.tasks target criteria)
        (o.report env occasion target criteria w).outcomes ∧
      r.results =
        (o.registry.select target criteria).unavailable.map
            (fun d => .skipped d.name notInstalled) ++
          (o.report env occasion target criteria w).outcomes.map resultOf := by
  obtain rfl := answer_run_eq_ok o env occasion target criteria w h
  have haccount := accountsFor_staged o env (o.report env occasion target criteria w).outcomes
    (o.dispatched env occasion target criteria w)
  refine ⟨fun agent f hreports => ?_, fun g hg agent ha => ?_,
    Dispatch.forall₂_answersFor_dispatch .., results_staged ..⟩
  · obtain ⟨n, hn⟩ := exists_normalized_of_reports hreports
    obtain ⟨g, hg, hwithin, hsev, hagents⟩ := haccount.kept _ hn
    obtain ⟨x, -, rfl, raw, -, record, -, hf⟩ := hreports
    have hagent : x.agent ∈ f.agents := (Normalize.reported_of_one hf).mem_agents_iff.2 rfl
    exact ⟨g, hg, ⟨hwithin.kind, hwithin.start_le, hwithin.le_end⟩, hagents _ hagent, hsev⟩
  · obtain ⟨f', hf', hwithin, haf'⟩ := haccount.supported g hg agent ha
    obtain ⟨f, n, hreports, rfl⟩ := reports_of_mem_normalized hf' haf'
    exact ⟨f, hreports, hwithin.kind, hwithin.start_le, hwithin.le_end⟩

end Run

/-- Two agents that report overlapping lines, one that crashes, and one that is not installed. -/
def smallPipeline : Orchestrator String Unit Float :=
  let entry (name : String) (available : Bool) : String × RegistryEntry String :=
    (name, { descriptor := { name, available }, factory := fun _ => name })
  let leak (line : UInt32) : RawFinding Float :=
    .record { findingType := some "Leak", file := some "m.c", line := some line }
  { registry := { entries := [entry "absent" false, entry "broken" true, entry "far" true,
      entry "near" true] }
    config := {}
    correlation := some .standard
    triage := some (.of .standard)
    work := fun agent _ =>
      if agent = "near" then { duration := some 5, ending := .answer (.ok [leak 10, leak 40]) }
      else if agent = "far" then { duration := some 3, ending := .answer (.ok [leak 12]) }
      else { duration := some 1, ending := .crash } }

/-- What the small pipeline is run on. -/
def smallTarget : AnalysisTarget := ⟨"m.c", some "c"⟩

theorem select_smallPipeline : smallPipeline.registry.select smallTarget {} =
    ⟨[{ name := "broken" }, { name := "far" }, { name := "near" }],
      [{ name := "absent", available := false }]⟩ := by
  have hfilter : smallPipeline.registry.filter (({} : SelectionCriteria).filterFor smallTarget) =
      [{ name := "absent", available := false }, { name := "broken" }, { name := "far" },
        { name := "near" }] :=
    List.mergeSort_of_pairwise (by decide)
  rw [Registry.select, hfilter]
  rfl

theorem run_smallPipeline :
    (smallPipeline.run {} { id := ⟨"small"⟩ } smallTarget {} ()).1 =
      ⟨.ok (smallPipeline.completed {} { id := ⟨"small"⟩ } smallTarget {} ()).run,
        smallPipeline.completed {} { id := ⟨"small"⟩ } smallTarget {} ()⟩ := by
  have hselected :
      (smallPipeline.registry.select smallTarget {}).agents.isEmpty = false := by
    rw [select_smallPipeline]
    rfl
  have hok : (smallPipeline.report {} { id := ⟨"small"⟩ } smallTarget {} ()).outcomes.any
      (·.isSuccess) = true := by
    rw [report, tasks, select_smallPipeline]
    decide +kernel
  exact run_of_succeeded smallPipeline {} _ smallTarget {} () hselected hok

theorem run_accounts_for_reports_smallPipeline :
    ∃ r, (smallPipeline.run {} { id := ⟨"small"⟩ } smallTarget {} ()).1.answer = .ok r ∧
      (∀ agent f, smallPipeline.Reports {} { id := ⟨"small"⟩ } smallTarget {} () agent f →
        ∃ g ∈ r.findings, f.IsWithin g ∧ agent ∈ g.agents ∧ f.severity ≤ g.severity) ∧
      (∀ g ∈ r.findings, ∀ agent ∈ g.agents,
        ∃ f, smallPipeline.Reports {} { id := ⟨"small"⟩ } smallTarget {} () agent f ∧
          f.IsWithin g) := by
  have hanswer := congrArg Finished.answer run_smallPipeline
  obtain ⟨hkept, hsupported, -, -⟩ := run_accounts_for_reports smallPipeline {} _ _ _ _ hanswer
  exact ⟨_, hanswer, hkept, hsupported⟩

end Orchestrator

end Vigil
