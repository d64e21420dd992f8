import Vigil.CommandLine.Program
import Vigil.Proofs.Finding.Wrapper
import Vigil.Proofs.Run.Statuses

/-!
# Programs that fail without a word

What a command agent makes of its program is decided by the output alone.  A program that crashes
before it has printed anything has printed nothing but blanks, and that stands for no records: the
agent succeeds, with nothing to report.  The exit code and the error output are looked at only if
the output cannot be read.

* `collect_of_blank` -- blanks stand for no records, however the program ended;
* `run_of_silent_crashes` -- **a run all of whose programs crash silently succeeds**, without any
  findings;
* `not_allAgentsFailed_mutePipeline` -- so does the run of one program that only exits with a
  failure.
-/

namespace Vigil

variable {α σ ν : Type}

/-! ## Silent crashes -/

/-- The work of a command agent whose program behaves so. -/
def programWork (x : Program.Execution) : Work Float :=
  ⟨some x.duration, .answer (CommandAgent.collect x),
    (x.signals.find? fun s => CommandLine.cancellingSignals.contains s.2).map (·.1)⟩

theorem commandWork_eq {files : Program.FileSystem} {c : CommandAgent} {target : AnalysisTarget}
    {x : Program.Execution} (h : c.start files target.path = .ok x) :
    CommandLine.commandWork files c target = programWork x := by
  rw [CommandLine.commandWork, h]
  rfl

/-- **Blanks stand for no records**, however the program ended and whatever its error output. -/
theorem collect_of_blank {x : Program.Execution}
    (h : Wrapper.Blank (Text.ofBytesLossy x.outputBytes).toList) :
    CommandAgent.collect x = .ok [] := by
  rw [CommandAgent.collect, Wrapper.parse_of_blank h]

/-- The task is that of a command agent.  Its program ends by itself in time, but not with success,
and prints nothing but blanks. -/
structure CrashesSilently (t : Task Float) (x : Program.Execution) : Prop where
  work : t.work = some (programWork x)
  timely : x.duration < t.timeout
  crashed : x.ending ≠ .exited 0
  silent : Wrapper.Blank (Text.ofBytesLossy x.outputBytes).toList

/-- Such an agent answers without any records, unless it is cancelled. -/
theorem CrashesSilently.eq_ok_nil {t : Task Float} {x : Program.Execution}
    (h : CrashesSilently t x) {cancelled : Bool}
    {result : Except AgentError (List (RawFinding Float))} (hresult : t.ComesTo cancelled result) :
    result = .ok [] ∨ cancelled = true ∧ result = .error .cancelled := by
  have hwork {w : Work Float} (hw : t.work = some w) : w = programWork x :=
    Option.some.inj (hw.symm.trans h.work)
  cases hresult with
  | unregistered hnone => cases hnone.symm.trans h.work
  | answered hw _ hending =>
    rw [hwork hw] at hending
    cases hending
    exact .inl (collect_of_blank h.silent)
  | crashed hw _ hending =>
    rw [hwork hw] at hending
    cases hending
  | late hw hlate =>
    rw [hwork hw, Task.isTimely, programWork, Option.any_some] at hlate
    exact absurd h.timely (of_decide_eq_false hlate)
  | interrupted hcancelled => exact .inr ⟨hcancelled, rfl⟩

theorem correlate_nil [Quantity ν] (c : CorrelationConfig ν) : correlate c [] = [] := by
  rw [correlate, Correlate.sort, List.mergeSort_nil]
  rfl

namespace Orchestrator

section Run

variable [Quantity ν] (o : Orchestrator α σ ν) (env : Surroundings σ ν) (occasion : Occasion)
  (target : AnalysisTarget) (criteria : SelectionCriteria) (w : σ)

/-- Without records there are no findings, whatever stages are attached. -/
theorem findings_completed_eq_nil
    (h : ∀ x ∈ (o.report env occasion target criteria w).outcomes, x.result = .ok []) :
    (o.completed env occasion target criteria w).run.findings = [] := by
  have hreported : (o.report env occasion target criteria w).outcomes.flatMap
      (fun x => (normalized x).findings) = [] := by
    refine List.flatMap_eq_nil_iff.2 fun x hx => ?_
    rw [normalized, h x hx]
    rfl
  have hcounted : (o.counted env occasion target criteria w).run.findings = [] := by
    rw [counted]
    cases o.correlation with
    | none => exact hreported
    | some c =>
      refine Eq.trans ?_ (correlate_nil c)
      rw [← hreported]
      rfl
  have hlength := length_findings_triaged env (o.counted env occasion target criteria w) o.triage
  rw [hcounted] at hlength
  exact List.eq_nil_of_length_eq_zero hlength

/-- A run whose agents all answer without records has an outcome. -/
theorem run_of_result_eq_ok_nil (hselected : (o.registry.select target criteria).agents ≠ [])
    (h : ∀ x ∈ (o.report env occasion target criteria w).outcomes, x.result = .ok []) :
    (o.run env occasion target criteria w).1.answer =
      .ok (o.completed env occasion target criteria w).run := by
  have hagents := o.map_agent_outcomes env occasion target criteria w
  have hne : (o.report env occasion target criteria w).outcomes ≠ [] := by
    intro hnil
    rw [hnil, List.map_nil, eq_comm, List.map_eq_nil_iff] at hagents
    exact hselected hagents
  obtain ⟨x, hx⟩ := List.exists_mem_of_ne_nil _ hne
  have hsome : (o.report env occasion target criteria w).outcomes.any (·.isSuccess) = true := by
    refine List.any_eq_true.2 ⟨x, hx, ?_⟩
    rw [Outcome.isSuccess, h x hx]
  rw [o.run_of_succeeded env occasion target criteria w (List.isEmpty_eq_false_iff.2 hselected)
    hsome]

end Run

section Silence

variable (o : Orchestrator α σ Float) (env : Surroundings σ Float) (occasion : Occasion)
  (target : AnalysisTarget) (criteria : SelectionCriteria) (w : σ)

/-- If all programs crash silently, all agents answer without records. -/
theorem result_eq_ok_nil
    (hcrash : ∀ t ∈ o.tasks target criteria, ∃ x, CrashesSilently t x)
    (hended : (o.report env occasion target criteria w).cancelled = true →
      ∀ y ∈ (o.report env occasion target criteria w).outcomes, y.result ≠ .error .cancelled) :
    ∀ y ∈ (o.report env occasion target criteria w).outcomes, y.result = .ok [] := by
  intro y hy
  obtain ⟨t, ht, hy'⟩ :=
    exists_left_of_forall₂ (o.forall₂_decides_report env occasion target criteria w) hy
  obtain ⟨x, hx⟩ := hcrash t ht
  rcases hx.eq_ok_nil hy' with hresult | ⟨hcancelled, hresult⟩
  · exact hresult
  · exact absurd hresult (hended hcancelled y hy)

/-- **A run all of whose programs crash silently succeeds.**  If each selected agent is a command
agent whose program ends by itself in time, with a failure or by a signal, and prints nothing but
blanks, then the run has an outcome without findings, in which each of these agents has succeeded
without records, whatever the exit codes and the error outputs.  A cancellation does not matter
unless it interrupts an agent. -/
theorem run_of_silent_crashes (hselected : (o.registry.select target criteria).agents ≠ [])
    (hcrash : ∀ t ∈ o.tasks target criteria, ∃ x, CrashesSilently t x)
    (hended : (o.report env occasion target criteria w).cancelled = true →
      ∀ y ∈ (o.report env occasion target criteria w).outcomes, y.result ≠ .error .cancelled) :
    ∃ r rs, (o.run env occasion target criteria w).1.answer = .ok r ∧ r.findings = [] ∧
      r.results = (o.registry.select target criteria).unavailable.map
        (fun d => .skipped d.name notInstalled) ++ rs ∧
      List.Forall₂ (fun d y => y.agent = d.name ∧ y.status = .success ∧ y.rawFindingCount = 0 ∧
        y.error = none) (o.registry.select target criteria).agents rs := by
  have hresults := o.result_eq_ok_nil env occasion target criteria w hcrash hended
  have hagents := o.map_agent_outcomes env occasion target criteria w
  refine ⟨_, (o.report env occasion target criteria w).outcomes.map resultOf,
    o.run_of_result_eq_ok_nil env occasion target criteria w hselected hresults,
    o.findings_completed_eq_nil env occasion target criteria w hresults,
    o.results_completed env occasion target criteria w, ?_⟩
  rw [← List.forall₂_eq_eq_eq, List.forall₂_map_left_iff, List.forall₂_map_right_iff] at hagents
  refine List.forall₂_map_right_iff.2 (List.Forall₂.flip ?_)
  refine ((List.forall₂_and_left _ _).2 ⟨hresults, hagents⟩).imp fun y d ⟨hy, hd⟩ => ?_
  rw [flip, resultOf, hy]
  exact ⟨hd, rfl, rfl, rfl⟩

end Silence

/-- A command agent whose program exits with a failure at once. -/
def muteScanner : CommandAgent where
  name := "a"
  command := "sh"
  args := ["-c", "exit 3"]

/-- A pipeline with that agent only. -/
def mutePipeline : Orchestrator CommandAgent Unit Float where
  registry :=
    { entries := [("a", { descriptor := { name := "a" }, factory := fun _ => muteScanner })] }
  config := {}
  work := CommandLine.commandWork .basic

theorem select_mutePipeline :
    mutePipeline.registry.select smallTarget {} = ⟨[{ name := "a" }], []⟩ := by
  have hfilter : mutePipeline.registry.filter
      (({} : SelectionCriteria).filterFor smallTarget) = [{ name := "a" }] :=
    List.mergeSort_singleton _
  rw [Registry.select, hfilter]
  rfl

theorem start_muteScanner :
    muteScanner.start .basic smallTarget.path = .ok ⟨[], 0, .exited 3⟩ := by
  decide +kernel

theorem crashesSilently_mutePipeline {t : Task Float}
    (ht : t ∈ mutePipeline.tasks smallTarget {}) : CrashesSilently t ⟨[], 0, .exited 3⟩ := by
  rw [tasks, select_mutePipeline] at ht
  obtain rfl := List.mem_singleton.1 ht
  exact {
    work := congrArg some (commandWork_eq start_muteScanner)
    timely := by decide +kernel
    crashed := by decide
    silent := by decide +kernel }

/-- Where and when the pipeline is run. -/
def muteOccasion : Occasion :=
  { id := ⟨"mute"⟩ }

theorem cancelled_report_mutePipeline :
    (mutePipeline.report {} muteOccasion smallTarget {} ()).cancelled = false := by
  rw [report, tasks, select_mutePipeline]
  decide +kernel

theorem select_mutePipeline_ne_nil :
    (mutePipeline.registry.select smallTarget {}).agents ≠ [] := by
  rw [select_mutePipeline]
  exact List.cons_ne_nil _ _

/-- **Its run does not fail**: it has an outcome, without any findings. -/
theorem not_allAgentsFailed_mutePipeline :
    (mutePipeline.registry.select smallTarget {}).agents ≠ [] ∧
      (∀ t ∈ mutePipeline.tasks smallTarget {}, ∃ x, CrashesSilently t x) ∧
      (mutePipeline.report {} muteOccasion smallTarget {} ()).cancelled = false ∧
      (¬∃ results, (mutePipeline.run {} muteOccasion smallTarget {} ()).1.answer =
        .error (.allAgentsFailed results)) ∧
      ∃ r, (mutePipeline.run {} muteOccasion smallTarget {} ()).1.answer = .ok r ∧
        r.findings = [] := by
  have hcrash : ∀ t ∈ mutePipeline.tasks smallTarget {}, ∃ x, CrashesSilently t x :=
    fun t ht => ⟨_, crashesSilently_mutePipeline ht⟩
  have hresults := mutePipeline.result_eq_ok_nil {} muteOccasion smallTarget {} () hcrash
    fun h => absurd (cancelled_report_mutePipeline.symm.trans h) Bool.false_ne_true
  have hanswer := mutePipeline.run_of_result_eq_ok_nil {} muteOccasion smallTarget {} ()
    select_mutePipeline_ne_nil hresults
  have hfindings := mutePipeline.findings_completed_eq_nil {} muteOccasion smallTarget {} ()
    hresults
  refine ⟨select_mutePipeline_ne_nil, hcrash, cancelled_report_mutePipeline, ?_, _, hanswer,
    hfindings⟩
  rintro ⟨results, hfailed⟩
  rw [hanswer] at hfailed
  cases hfailed

/-- The agent has succeeded there, without records. -/
theorem run_of_silent_crashes_mutePipeline :
    ∃ r, (mutePipeline.run {} muteOccasion smallTarget {} ()).1.answer = .ok r ∧
      r.findings = [] ∧ r.results.map (·.status) = [.success] := by
  have hcrash : ∀ t ∈ mutePipeline.tasks smallTarget {}, ∃ x, CrashesSilently t x :=
    fun t ht => ⟨_, crashesSilently_mutePipeline ht⟩
  obtain ⟨r, rs, hanswer, hfindings, hresults, hrs⟩ :=
    run_of_silent_crashes mutePipeline {} muteOccasion smallTarget {} ()
      select_mutePipeline_ne_nil hcrash
      fun h => absurd (cancelled_report_mutePipeline.symm.trans h) Bool.false_ne_true
  refine ⟨r, hanswer, hfindings, ?_⟩
  rw [select_mutePipeline] at hresults hrs
  cases hrs with
  | cons hy hnil =>
    cases hnil
    rw [hresults]
    exact congrArg (fun s => [s]) hy.2.1

end Orchestrator

end Vigil
