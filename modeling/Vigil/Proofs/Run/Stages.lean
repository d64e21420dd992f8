import Vigil.Run.Orchestrator

/-!
# A run as a straight line

A run is written with continuations, since each phase may be refused.  No phase of a run is: from
the phase in which one stage leaves it, the next may always be entered (`advance_of_allows`).  So
a run has three forms only, without continuations and without a branch in the middle:

* `run_of_isEmpty` -- nothing was selected, and the run was aborted before any dispatch;
* `run_of_failed` -- all selected agents were dispatched and none succeeded;
* `run_of_succeeded` -- some agent succeeded, and the run went through all its stages.

`answer_run_eq_ok` collects what follows for a run with an outcome.
-/

namespace Vigil.Orchestrator

variable {α σ ν : Type} [Quantity ν]

/-! ## Single stages -/

namespace Journey

/-- The run in its next phase. -/
def enter (j : Journey σ ν) (env : Surroundings σ ν) (phase : RunPhase) : Journey σ ν :=
  Journey.tell { j with run := { j.run with phase } } env (.phaseChanged phase)

/-- The run after correlation, if it is attached. -/
def correlated (j : Journey σ ν) (env : Surroundings σ ν) :
    Option (CorrelationConfig ν) → Journey σ ν
  | none => j
  | some c => (j.enter env .correlating).withCorrelation env c

/-- The run after triage, if it is attached. -/
def triaged (j : Journey σ ν) (env : Surroundings σ ν) :
    Option (TriageEngine σ ν) → Journey σ ν
  | none => j
  | some e => (j.enter env .triaging).withTriage env e

/-- The run with the findings of its agents. -/
def aggregated (j : Journey σ ν) (env : Surroundings σ ν) (outcomes : List (Outcome ν)) :
    Journey σ ν :=
  ((j.withOutcomes env outcomes).enter env .aggregated).update (withFindings outcomes)

end Journey

section Advance

variable {env : Surroundings σ ν} {j : Journey σ ν} {k : Journey σ ν → Finished σ ν}

omit [Quantity ν] in
theorem advance_of_allows {phase : RunPhase} (h : j.run.phase.allows phase = true) :
    advance env phase j k = k (j.enter env phase) := by
  have hrun : j.run.transition phase = .ok { j.run with phase } := if_pos h
  rw [advance, hrun]
  rfl

omit [Quantity ν] in
theorem abort_of_not_isTerminal {now : Nat} {e : RunError} (h : j.run.phase.isTerminal = false) :
    abort env now e j = ⟨.error e, (j.enter env .aborted).complete env now⟩ :=
  advance_of_allows (RunPhase.allows_aborted_iff.2 h)

theorem correlating_eq (h : j.run.phase = .aggregated) (stage : Option (CorrelationConfig ν)) :
    correlating env stage j k = k (j.correlated env stage) := by
  cases stage with
  | none => rfl
  | some c =>
    have hallows : j.run.phase.allows .correlating = true := by
      rw [h]
      decide
    rw [correlating, advance_of_allows hallows]
    rfl

/-- Without correlation, too, the run may go on to what follows correlation. -/
theorem allows_correlated (h : j.run.phase = .aggregated) (stage : Option (CorrelationConfig ν))
    {phase : RunPhase} (hphase : RunPhase.correlating.allows phase = true) :
    (j.correlated env stage).run.phase.allows phase = true := by
  cases stage with
  | none =>
    rw [Journey.correlated, h]
    revert hphase
    cases phase <;> decide
  | some c => exact hphase

theorem triaging_eq (h : j.run.phase.allows .triaging = true)
    (stage : Option (TriageEngine σ ν)) : triaging env stage j k = k (j.triaged env stage) := by
  cases stage with
  | none => rfl
  | some e =>
    rw [triaging, advance_of_allows h]
    rfl

theorem allows_done_triaged (h : j.run.phase.allows .done = true)
    (stage : Option (TriageEngine σ ν)) :
    (j.triaged env stage).run.phase.allows .done = true := by
  cases stage with
  | none => exact h
  | some e => rfl

end Advance

/-! ## After the dispatch -/

/-- The run after the stages that are attached. -/
def staged (o : Orchestrator α σ ν) (env : Surroundings σ ν) (outcomes : List (Outcome ν))
    (j : Journey σ ν) : Journey σ ν :=
  (((j.aggregated env outcomes).correlated env o.correlation).update countCorrelated).triaged env
    o.triage

section Collect

variable (o : Orchestrator α σ ν) (env : Surroundings σ ν) (now : Nat)
  {outcomes : List (Outcome ν)} {j : Journey σ ν}

theorem phase_withOutcomes : (j.withOutcomes env outcomes).run.phase = j.run.phase := rfl

theorem collect_of_failed (hphase : j.run.phase = .collecting)
    (h : outcomes.any (·.isSuccess) = false) :
    o.collect env now outcomes j =
      ⟨.error (.allAgentsFailed (j.withOutcomes env outcomes).run.results),
        ((j.withOutcomes env outcomes).enter env .aborted).complete env now⟩ := by
  have hterminal : (j.withOutcomes env outcomes).run.phase.isTerminal = false := by
    rw [phase_withOutcomes, hphase]
    decide
  rw [collect, h]
  exact abort_of_not_isTerminal hterminal

theorem collect_of_succeeded (hphase : j.run.phase = .collecting)
    (h : outcomes.any (·.isSuccess) = true) :
    o.collect env now outcomes j =
      ⟨.ok (((o.staged env outcomes j).enter env .done).complete env now).run,
        ((o.staged env outcomes j).enter env .done).complete env now⟩ := by
  have hallows : (j.withOutcomes env outcomes).run.phase.allows .aggregated = true := by
    rw [phase_withOutcomes, hphase]
    decide
  have haggregated : (j.aggregated env outcomes).run.phase = .aggregated := rfl
  have hcorrelated {phase : RunPhase} (hphase : RunPhase.correlating.allows phase = true) :
      (((j.aggregated env outcomes).correlated env o.correlation).update
        countCorrelated).run.phase.allows phase = true :=
    allows_correlated haggregated o.correlation hphase
  rw [collect, if_pos h, advance_of_allows hallows, ← Journey.aggregated,
    correlating_eq haggregated, triaging_eq (hcorrelated rfl),
    advance_of_allows (allows_done_triaged (hcorrelated rfl) o.triage)]
  rfl

end Collect

/-! ## The whole run -/

section Run

variable (o : Orchestrator α σ ν) (env : Surroundings σ ν) (occasion : Occasion)
  (target : AnalysisTarget) (criteria : SelectionCriteria) (w : σ)

/-- The run after the selection. -/
def selected : Journey σ ν :=
  let start : Journey σ ν := ⟨Run.idle occasion.id target occasion.start, [], [], w⟩
  (start.enter env .selecting).withSelection env target (o.registry.select target criteria)

/-- The run when it begins to collect what its agents report. -/
def opened : Journey σ ν :=
  ((o.selected env occasion target criteria w).enter env .dispatching).enter env .collecting

/-- What the dispatch of the run comes to. -/
def report : Dispatch.Report σ ν :=
  Dispatch.dispatch env occasion.id
    (o.config.capacity (o.registry.select target criteria).agents.length) occasion.cancelAt
    occasion.start (o.tasks target criteria) (o.opened env occasion target criteria w).world

/-- The run after the dispatch. -/
def dispatched : Journey σ ν :=
  (o.opened env occasion target criteria w).withReport (o.report env occasion target criteria w)

/-- The run at its end, if some agent has succeeded. -/
def completed : Journey σ ν :=
  ((o.staged env (o.report env occasion target criteria w).outcomes
    (o.dispatched env occasion target criteria w)).enter env .done).complete env
      (o.report env occasion target criteria w).now

theorem run_of_isEmpty (h : (o.registry.select target criteria).agents.isEmpty = true) :
    (o.run env occasion target criteria w).1 =
      ⟨.error (.noAgentsSelected (o.registry.select target criteria).unavailable.length),
        ((o.selected env occasion target criteria w).enter env .aborted).complete env
          occasion.start⟩ := by
  rw [run, advance_of_allows rfl, if_pos h]
  have hterminal : (o.selected env occasion target criteria w).run.phase.isTerminal = false := rfl
  exact abort_of_not_isTerminal hterminal

theorem run_of_selected (h : (o.registry.select target criteria).agents.isEmpty = false) :
    (o.run env occasion target criteria w).1 =
      o.collect env (o.report env occasion target criteria w).now
        (o.report env occasion target criteria w).outcomes
        (o.dispatched env occasion target criteria w) := by
  rw [run, advance_of_allows rfl, h, if_neg Bool.false_ne_true, advance_of_allows rfl,
    advance_of_allows rfl]
  rfl

theorem run_of_failed (h : (o.registry.select target criteria).agents.isEmpty = false)
    (hfailed : (o.report env occasion target criteria w).outcomes.any (·.isSuccess) = false) :
    (o.run env occasion target criteria w).1.answer = .error (.allAgentsFailed
      ((o.dispatched env occasion target criteria w).withOutcomes env
        (o.report env occasion target criteria w).outcomes).run.results) := by
  rw [run_of_selected o env occasion target criteria w h, collect_of_failed o env _ rfl hfailed]

theorem run_of_succeeded (h : (o.registry.select target criteria).agents.isEmpty = false)
    (hok : (o.report env occasion target criteria w).outcomes.any (·.isSuccess) = true) :
    (o.run env occasion target criteria w).1 =
      ⟨.ok (o.completed env occasion target criteria w).run,
        o.completed env occasion target criteria w⟩ := by
  rw [run_of_selected o env occasion target criteria w h, collect_of_succeeded o env _ rfl hok]
  rfl

/-- **A run with an outcome** had agents of which some succeeded, and went through all its
stages. -/
theorem run_of_ok {r : Run ν} (h : (o.run env occasion target criteria w).1.answer = .ok r) :
    (o.run env occasion target criteria w).1 =
      ⟨.ok (o.completed env occasion target criteria w).run,
        o.completed env occasion target criteria w⟩ := by
  rcases hs : (o.registry.select target criteria).agents.isEmpty with _ | _
  · rcases hok : (o.report env occasion target criteria w).outcomes.any (·.isSuccess) with _ | _
    · rw [run_of_failed o env occasion target criteria w hs hok] at h
      cases h
    · exact run_of_succeeded o env occasion target criteria w hs hok
  · rw [run_of_isEmpty o env occasion target criteria w hs] at h
    cases h

theorem answer_run_eq_ok {r : Run ν} (h : (o.run env occasion target criteria w).1.answer = .ok r) :
    r = (o.completed env occasion target criteria w).run := by
  rw [run_of_ok o env occasion target criteria w h] at h
  exact (Except.ok.inj h).symm

end Run

end Vigil.Orchestrator
