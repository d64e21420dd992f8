import Vigil.Proofs.Run.Bookkeeping

/-!
# Counters and statuses

What became of an agent is said three times: by a counter of the run, by the status of the agent's
result, and, if no agent succeeded, by the number in the message of the error.  The three say the
same of every agent but one kind: an agent that is dispatched and answers that it is unavailable
counts as failed, has the status of a skipped agent, and is left out of the message.

* `countP_skipped_resultOf`, `countP_isFailure_add`, `dispatchedCount_add` -- how the three count
  the outcomes of a dispatch;
* `results_run` -- the results and the counters of a run, however it ends;
* `StatusesDiffer`, `StatusesMatch` -- by how much the three differ, and that they do not;
* `run_statuses` -- **the main result**: how far the three differ in a run, and that they agree
  exactly if no dispatched agent answers that it is unavailable;
* `not_statusesMatch_expiredLicence` -- and so they do not agree in every run.
-/

namespace Vigil

variable {α σ ν : Type}

/-- Is the status that of an agent that was dispatched and failed? -/
def AnalysisStatus.isFailure : AnalysisStatus → Bool
  | timeout | error | cancelled => true
  | success | skipped => false

/-- Did the agent answer that it is unavailable, or could it not be built? -/
def Outcome.isUnavailable (x : Outcome ν) : Bool :=
  match x.result with
  | .error (.unavailable _) => true
  | _ => false

/-- The message of a run in which no agent of so many succeeded. -/
def allFailedMessage (agents : Nat) : String :=
  s!"All {agents} dispatched agents failed"

namespace Orchestrator

/-! ## The outcomes of a dispatch -/

/-- The result of an outcome is a success, a skip or a failure, by what the outcome is. -/
theorem status_resultOf (x : Outcome ν) :
    ((resultOf x).status == .skipped) = x.isUnavailable ∧
      ((resultOf x).status.isFailure = (!x.isSuccess && !x.isUnavailable)) := by
  rw [resultOf, Outcome.isUnavailable, Outcome.isSuccess]
  cases x.result with
  | error e => cases e <;> exact ⟨rfl, rfl⟩
  | ok raw => exact ⟨rfl, rfl⟩

theorem isUnavailable_of_isSuccess {x : Outcome ν} (h : x.isSuccess = true) :
    x.isUnavailable = false := by
  rw [Outcome.isSuccess] at h
  rw [Outcome.isUnavailable]
  split at h
  · rename_i raw hraw
    rw [hraw]
  · cases h

theorem countP_skipped_resultOf (outcomes : List (Outcome ν)) :
    (outcomes.map resultOf).countP (·.status == .skipped) = outcomes.countP (·.isUnavailable) := by
  rw [List.countP_map]
  exact List.countP_congr fun x _ => by rw [Function.comp_apply, (status_resultOf x).1]

theorem countP_skipped_skipped (ds : List AgentDescriptor) :
    (ds.map fun d => AnalysisResult.skipped d.name notInstalled).countP (·.status == .skipped) =
      ds.length := by
  rw [List.countP_map]
  exact List.countP_eq_length.2 fun d _ => rfl

theorem countP_isFailure_skipped (ds : List AgentDescriptor) :
    (ds.map fun d => AnalysisResult.skipped d.name notInstalled).countP (·.status.isFailure) =
      0 := by
  rw [List.countP_map, List.countP_eq_zero]
  exact fun d _ => Bool.false_ne_true

/-- The statuses tell of fewer failures than there are. -/
theorem countP_isFailure_add (outcomes : List (Outcome ν)) :
    (outcomes.map resultOf).countP (·.status.isFailure) + outcomes.countP (·.isUnavailable) =
      outcomes.countP (!·.isSuccess) := by
  induction outcomes with
  | nil => rfl
  | cons x rest ih =>
    rw [List.map_cons, List.countP_cons, List.countP_cons, List.countP_cons, (status_resultOf x).2,
      ← ih]
    cases hsuccess : x.isSuccess with
    | true =>
      rw [isUnavailable_of_isSuccess hsuccess]
      rfl
    | false =>
      cases x.isUnavailable <;> simp only [Bool.not_false, Bool.not_true, Bool.and_true,
        Bool.and_false, if_true, Bool.false_eq_true, if_false] <;> omega

/-- The message of an error leaves out agents that were dispatched. -/
theorem dispatchedCount_add (ds : List AgentDescriptor) (outcomes : List (Outcome ν)) :
    dispatchedCount (ds.map (fun d => .skipped d.name notInstalled) ++ outcomes.map resultOf) +
      outcomes.countP (·.isUnavailable) = outcomes.length := by
  have hskipped : (ds.map fun d => AnalysisResult.skipped d.name notInstalled).countP
      (·.status != .skipped) = 0 := by
    rw [List.countP_map, List.countP_eq_zero]
    exact fun d _ => Bool.false_ne_true
  have hothers := (outcomes.map resultOf).length_eq_countP_add_countP (·.status == .skipped)
  rw [dispatchedCount, List.countP_append, hskipped, ← countP_skipped_resultOf]
  rw [List.length_map] at hothers
  simp only [bne, Bool.not_eq_true, Bool.decide_eq_false] at hothers ⊢
  omega

/-! ## The whole run -/

/-- The counters of a run and the statuses of its results say the same, and so does the message if
no agent succeeded. -/
structure StatusesMatch (selected : List AgentDescriptor) (f : Finished σ ν) : Prop where
  skipped : f.journey.run.stats.skippedAgents =
    f.journey.run.results.countP (·.status == .skipped)
  failed : f.journey.run.stats.failedAgents = f.journey.run.results.countP (·.status.isFailure)
  message : ∀ results, f.answer = .error (.allAgentsFailed results) →
    (RunError.allAgentsFailed results).message = allFailedMessage selected.length

/-- The statuses of a run show so many more skipped agents than are counted, and as many fewer
failed ones; and by as many the number in the message falls short if no agent succeeded. -/
structure StatusesDiffer (extra : Nat) (selected : List AgentDescriptor) (f : Finished σ ν) :
    Prop where
  skipped : f.journey.run.results.countP (·.status == .skipped) =
    f.journey.run.stats.skippedAgents + extra
  failed : f.journey.run.stats.failedAgents =
    f.journey.run.results.countP (·.status.isFailure) + extra
  message : ∀ results, f.answer = .error (.allAgentsFailed results) →
    ∃ n, (RunError.allAgentsFailed results).message = allFailedMessage n ∧
      n + extra = selected.length

theorem StatusesDiffer.match_iff {extra : Nat} {selected : List AgentDescriptor} {f : Finished σ ν}
    (h : StatusesDiffer extra selected f) : StatusesMatch selected f ↔ extra = 0 := by
  constructor
  · intro hmatch
    have hskipped := h.skipped
    have hcounted := hmatch.skipped
    omega
  · rintro rfl
    refine ⟨h.skipped.symm, h.failed, fun results hanswer => ?_⟩
    obtain ⟨n, hn, hsum⟩ := h.message results hanswer
    rw [hn, ← hsum, Nat.add_zero]

section Run

variable [Quantity ν] (o : Orchestrator α σ ν) (env : Surroundings σ ν) (occasion : Occasion)
  (target : AnalysisTarget) (criteria : SelectionCriteria) (w : σ)

/-- However a run ends, its results are those of the selection and of the dispatch, its counters
count the same, and an error holds all results. -/
theorem results_run :
    (o.run env occasion target criteria w).1.journey.run.results =
        (o.registry.select target criteria).unavailable.map
            (fun d => .skipped d.name notInstalled) ++
          (o.report env occasion target criteria w).outcomes.map resultOf ∧
      (o.run env occasion target criteria w).1.journey.run.stats.skippedAgents =
        (o.registry.select target criteria).unavailable.length ∧
      (o.run env occasion target criteria w).1.journey.run.stats.failedAgents =
        (o.report env occasion target criteria w).outcomes.countP (!·.isSuccess) ∧
      ∀ results, (o.run env occasion target criteria w).1.answer =
          .error (.allAgentsFailed results) →
        results = (o.run env occasion target criteria w).1.journey.run.results := by
  rcases hs : (o.registry.select target criteria).agents.isEmpty with _ | _
  · rcases hok : (o.report env occasion target criteria w).outcomes.any (·.isSuccess) with _ | _
    · rw [run_of_selected o env occasion target criteria w hs, collect_of_failed o env _ rfl hok]
      refine ⟨rfl, rfl, rfl, fun results h => ?_⟩
      exact (RunError.allAgentsFailed.inj (Except.error.inj h)).symm
    · rw [run_of_succeeded o env occasion target criteria w hs hok]
      obtain ⟨cost, hstats⟩ := o.stats_completed env occasion target criteria w
      refine ⟨o.results_completed env occasion target criteria w, ?_, ?_, ?_⟩
      · rw [hstats]
      · rw [hstats]
      · intro results h
        cases h
  · have hnone : (o.report env occasion target criteria w).outcomes = [] := by
      refine List.eq_nil_of_length_eq_zero ?_
      rw [length_outcomes, List.isEmpty_iff.1 hs, List.length_nil]
    rw [run_of_isEmpty o env occasion target criteria w hs, hnone]
    exact ⟨(List.append_nil _).symm, rfl, rfl, fun results h => by cases h⟩

theorem statusesDiffer_run :
    StatusesDiffer ((o.report env occasion target criteria w).outcomes.countP (·.isUnavailable))
      (o.registry.select target criteria).agents
      (o.run env occasion target criteria w).1 := by
  obtain ⟨hresults, hskips, hfailures, hanswer⟩ := o.results_run env occasion target criteria w
  refine ⟨?_, ?_, fun results h => ?_⟩
  · rw [hresults, hskips, List.countP_append, countP_skipped_skipped, countP_skipped_resultOf]
  · rw [hresults, hfailures, List.countP_append, countP_isFailure_skipped, Nat.zero_add]
    exact (countP_isFailure_add _).symm
  · refine ⟨dispatchedCount results, rfl, ?_⟩
    rw [hanswer results h, hresults, dispatchedCount_add]
    exact o.length_outcomes env occasion target criteria w

/-- **Where counters and statuses differ.**  In any run, however it ends, they differ by as many
agents as are dispatched and answer that they are unavailable.  So they match exactly if no
dispatched agent answers so. -/
theorem run_statuses :
    StatusesDiffer ((o.report env occasion target criteria w).outcomes.countP (·.isUnavailable))
        (o.registry.select target criteria).agents
        (o.run env occasion target criteria w).1 ∧
      (StatusesMatch (o.registry.select target criteria).agents
          (o.run env occasion target criteria w).1 ↔
        ∀ x ∈ (o.report env occasion target criteria w).outcomes, x.isUnavailable = false) := by
  have hdiffer := o.statusesDiffer_run env occasion target criteria w
  refine ⟨hdiffer, hdiffer.match_iff.trans ?_⟩
  rw [List.countP_eq_zero]
  simp only [Bool.not_eq_true]

end Run

/-- One agent, which is dispatched and answers that it is unavailable. -/
def expiredLicence : Orchestrator String Unit Float where
  registry := { entries := [("a", { descriptor := { name := "a" }, factory := fun _ => "a" })] }
  config := {}
  work := fun _ _ =>
    { duration := some 1, ending := .answer (.error (.unavailable "the licence has expired")) }

theorem select_expiredLicence :
    expiredLicence.registry.select smallTarget {} = ⟨[{ name := "a" }], []⟩ := by
  have hfilter : expiredLicence.registry.filter
      (({} : SelectionCriteria).filterFor smallTarget) = [{ name := "a" }] :=
    List.mergeSort_singleton _
  rw [Registry.select, hfilter]
  rfl

/-- **An agent that is dispatched and answers that it is unavailable is left out**: the run in which
it is the only agent says that all 0 dispatched agents failed, and counts a failure that none of its
results shows. -/
theorem not_statusesMatch_expiredLicence :
    ∃ results, (expiredLicence.run {} { id := ⟨"expired"⟩ } smallTarget {} ()).1.answer =
        .error (.allAgentsFailed results) ∧
      (RunError.allAgentsFailed results).message = "All 0 dispatched agents failed" ∧
      ¬ StatusesMatch (expiredLicence.registry.select smallTarget {}).agents
        (expiredLicence.run {} { id := ⟨"expired"⟩ } smallTarget {} ()).1 := by
  have hselected : (expiredLicence.registry.select smallTarget {}).agents.isEmpty = false := by
    rw [select_expiredLicence]
    rfl
  have hfailed : (expiredLicence.report {} { id := ⟨"expired"⟩ } smallTarget {} ()).outcomes.any
      (·.isSuccess) = false := by
    rw [report, tasks, select_expiredLicence]
    decide +kernel
  have hresult : (expiredLicence.report {} { id := ⟨"expired"⟩ } smallTarget {} ()).outcomes.map
      resultOf =
        [⟨"a", .skipped, 0, 0, some "Agent unavailable: the licence has expired"⟩] := by
    rw [report, tasks, select_expiredLicence]
    decide +kernel
  have hanswer := run_of_failed expiredLicence {} { id := ⟨"expired"⟩ } smallTarget {} () hselected
    hfailed
  obtain ⟨hresults, hskips, -, herror⟩ :=
    expiredLicence.results_run {} { id := ⟨"expired"⟩ } smallTarget {} ()
  rw [select_expiredLicence, hresult] at hresults
  refine ⟨_, hanswer, ?_, ?_⟩
  · rw [herror _ hanswer, hresults]
    decide +kernel
  · intro hmatch
    have hskipped := hmatch.skipped
    rw [hskips, hresults, select_expiredLicence] at hskipped
    cases hskipped

end Orchestrator

end Vigil
