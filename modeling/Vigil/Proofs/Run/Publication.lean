import Vigil.Proofs.Run.Cancellation
import Vigil.Proofs.Run.Endings

/-!
# What a run publishes

The findings of a run are handed from stage to stage, and each stage publishes what it hands on.
`findingsTold` takes from messages those that bring findings; every other message leaves it as it
is, so each stage adds to it what the stage itself publishes.

* `batches` -- the normalized findings of the agents that succeeded, in the order of their
  selection;
* `composed` -- the stages of a pipeline, one applied to what the other gives;
* `told_proceed`, `told_correlated`, `told_triaged` -- what the parts of a run publish;
* `run_publishes` -- **the main result**: the findings of a run are those of the composed stages,
  and its messages bring just the findings that pass between them; a run without an outcome
  publishes none.
-/

namespace Vigil

variable {α σ ν : Type}

/-! ## Messages with findings -/

/-- The messages on the topics for findings, in order. -/
def findingsTold (ms : List (Message ν)) : List (Message ν) :=
  ms.filter fun m => Topic.forFindings.contains m.topic

theorem findingsTold_append (ms ms' : List (Message ν)) :
    findingsTold (ms ++ ms') = findingsTold ms ++ findingsTold ms' :=
  List.filter_append ms ms'

/-- The progress of a run is told on a topic of its own. -/
theorem findingsTold_of_progress {ms : List (Message ν)}
    (h : ∀ m ∈ ms, m.topic = Topic.runProgress) : findingsTold ms = [] := by
  refine List.filter_eq_nil_iff.2 fun m hm => ?_
  rw [h m hm]
  decide

theorem findingsTold_of_findings {ms : List (Message ν)}
    (h : ∀ m ∈ ms, m.topic ∈ Topic.forFindings) : findingsTold ms = ms :=
  List.filter_eq_self.2 fun m hm => List.contains_iff_mem.2 (h m hm)

namespace Dispatch

/-- **A dispatch brings no findings**: all that it tells is the progress of its agents. -/
theorem told_proceed (env : Surroundings σ ν) (id : RunId) (cancelAt : Option Nat) (n : Nat)
    (s : State ν) (w : σ) : findingsTold (proceed env id cancelAt n s w).messages = [] := by
  induction n generalizing s w with
  | zero => rfl
  | succ n ih =>
    rw [proceed]
    split
    · rfl
    · rw [findingsTold_append, ih, List.append_nil]
      refine findingsTold_of_progress fun m hm => ?_
      obtain ⟨e, -, hm⟩ := Option.bind_eq_some_iff.1 (Option.mem_toList.1 hm)
      obtain ⟨a, -, rfl⟩ := Option.map_eq_some_iff.1 hm
      rfl

end Dispatch

namespace Orchestrator

/-! ## Batches -/

/-- The message with a batch of an agent. -/
def batchMessage (b : String × List (Finding ν)) : Message ν :=
  .findings Topic.findingsRaw b.1 b.2

section Batches

variable [Quantity ν]

/-- The name and the normalized findings of an agent, if it succeeded. -/
def batch? (x : Outcome ν) : Option (String × List (Finding ν)) :=
  match x.result with
  | .ok raw => some (x.agent, (normalize x.agent raw).findings)
  | .error _ => none

/-- The batches of the agents that succeeded, in order. -/
def batches (outcomes : List (Outcome ν)) : List (String × List (Finding ν)) :=
  outcomes.filterMap batch?

theorem findings_normalized (x : Outcome ν) :
    (normalized x).findings = (batch? x).toList.flatMap (·.2) := by
  rw [normalized, batch?]
  cases x.result with
  | error e => rfl
  | ok raw => exact (List.append_nil _).symm

theorem batchOf_eq (x : Outcome ν) :
    batchOf x = ((batch? x).toList.filter fun b => !b.2.isEmpty).map batchMessage := by
  rw [batchOf, normalized, batch?]
  cases x.result with
  | error e => rfl
  | ok raw =>
    dsimp only
    rw [Option.toList_some, List.filter_singleton]
    cases (normalize x.agent raw).findings.isEmpty <;> rfl

theorem batches_cons (x : Outcome ν) (rest : List (Outcome ν)) :
    batches (x :: rest) = (batch? x).toList ++ batches rest := by
  rw [batches, batches]
  cases hx : batch? x with
  | none => exact List.filterMap_cons_none hx
  | some b => exact List.filterMap_cons_some hx

/-- The findings of a run before its stages are the batches, one after the other. -/
theorem flatMap_normalized (outcomes : List (Outcome ν)) :
    outcomes.flatMap (fun x => (normalized x).findings) = (batches outcomes).flatMap (·.2) := by
  induction outcomes with
  | nil => rfl
  | cons x rest ih =>
    rw [List.flatMap_cons, ih, findings_normalized, batches_cons, List.flatMap_append]

/-- Just the batches that are not empty are published. -/
theorem flatMap_batchOf (outcomes : List (Outcome ν)) :
    outcomes.flatMap batchOf =
      ((batches outcomes).filter fun b => !b.2.isEmpty).map batchMessage := by
  induction outcomes with
  | nil => rfl
  | cons x rest ih =>
    rw [List.flatMap_cons, ih, batchOf_eq, batches_cons, List.filter_append, List.map_append]

theorem batches_eq_nil_of_failed {outcomes : List (Outcome ν)}
    (h : outcomes.any (·.isSuccess) = false) : batches outcomes = [] := by
  refine List.filterMap_eq_nil_iff.2 fun x hx => ?_
  have hfailed : ¬ x.isSuccess = true := List.any_eq_false.1 h x hx
  rw [Outcome.isSuccess] at hfailed
  rw [batch?]
  cases hresult : x.result with
  | error e => rfl
  | ok raw =>
    rw [hresult] at hfailed
    exact absurd rfl hfailed

end Batches

/-! ## Stages -/

section Stages

variable [Quantity ν]

/-- The correlated findings, if correlation is attached. -/
def correlatedBy : Option (CorrelationConfig ν) → List (Finding ν) → List (Finding ν)
  | none, fs => fs
  | some c, fs => correlate c fs

/-- The findings after triage, if it is attached: by the rules alone in a cancelled run. -/
def triagedBy (cancelled : Bool) (w : σ) :
    Option (TriageEngine σ ν) → List (Finding ν) → List (Finding ν)
  | none, fs => fs
  | some e, fs => if cancelled then (e.triageByRules fs w).findings else (e.triage fs w).findings

/-- The stages of a pipeline, applied to findings one after the other; triage meets the world. -/
def composed (o : Orchestrator α σ ν) (cancelled : Bool) (w : σ) (fs : List (Finding ν)) :
    List (Finding ν) :=
  triagedBy cancelled w o.triage (correlatedBy o.correlation fs)

end Stages

namespace Journey

variable (j : Journey σ ν) (env : Surroundings σ ν)

/-- The messages with findings that the run has published so far. -/
def told : List (Message ν) :=
  findingsTold j.messages

theorem told_publish (ms : List (Message ν)) :
    (j.publish env ms).told = j.told ++ findingsTold ms :=
  findingsTold_append j.messages ms

/-- Telling about the progress brings no findings. -/
theorem told_tell (e : ProgressEvent) : (j.tell env e).told = j.told :=
  (j.told_publish env _).trans (List.append_nil _)

theorem told_enter (phase : RunPhase) : (j.enter env phase).told = j.told :=
  told_tell _ env _

theorem told_complete (now : Nat) : (j.complete env now).told = j.told :=
  told_tell _ env _

variable [Quantity ν]

theorem told_withOutcomes (outcomes : List (Outcome ν)) :
    (j.withOutcomes env outcomes).told =
      j.told ++ ((batches outcomes).filter fun b => !b.2.isEmpty).map batchMessage := by
  have htold : (j.withOutcomes env outcomes).told =
      j.told ++ findingsTold (outcomes.flatMap batchOf) :=
    told_publish _ env _
  rw [htold, flatMap_batchOf, findingsTold_of_findings]
  intro m hm
  obtain ⟨b, -, rfl⟩ := List.mem_map.1 hm
  exact List.mem_cons_self

theorem told_correlated (stage : Option (CorrelationConfig ν)) :
    (j.correlated env stage).told = j.told ++ (stage.map fun c =>
      Message.findings Topic.findingsCorrelated producer (correlate c j.run.findings)).toList := by
  cases stage with
  | none => exact (List.append_nil _).symm
  | some c =>
    have htold : (j.correlated env (some c)).told = (j.enter env .correlating).told ++
        [.findings Topic.findingsCorrelated producer (correlate c j.run.findings)] :=
      told_publish _ env _
    rw [htold, told_enter]
    rfl

/-- Correlation hands on what it publishes. -/
theorem findings_correlated (stage : Option (CorrelationConfig ν)) :
    (j.correlated env stage).run.findings = correlatedBy stage j.run.findings := by
  cases stage <;> rfl

/-- Triage publishes what it hands on. -/
theorem told_triaged (stage : Option (TriageEngine σ ν)) :
    (j.triaged env stage).told = j.told ++ (stage.map fun _ =>
      Message.findings Topic.findingsTriaged producer (j.triaged env stage).run.findings).toList := by
  cases stage with
  | none => exact (List.append_nil _).symm
  | some e =>
    have htold : (j.triaged env (some e)).told = (j.enter env .triaging).told ++
        [.findings Topic.findingsTriaged producer (j.triaged env (some e)).run.findings] :=
      told_publish _ env _
    rw [htold, told_enter]
    rfl

theorem findings_triaged (stage : Option (TriageEngine σ ν)) :
    (j.triaged env stage).run.findings =
      triagedBy j.run.cancelled (j.enter env .triaging).world stage j.run.findings := by
  cases stage with
  | none => rfl
  | some e =>
    have hfindings : (j.triaged env (some e)).run.findings =
        ((j.enter env .triaging).triage e).findings := rfl
    rw [hfindings, triage]
    exact apply_ite TriageEngine.Outcome.findings _ _ _

theorem cancelled_triaged (stage : Option (TriageEngine σ ν)) :
    (j.triaged env stage).run.cancelled = j.run.cancelled := by
  cases stage <;> rfl

end Journey

/-! ## The whole run -/

section Run

variable [Quantity ν] (o : Orchestrator α σ ν) (env : Surroundings σ ν) (occasion : Occasion)
  (target : AnalysisTarget) (criteria : SelectionCriteria) (w : σ)

/-- The findings that the agents of a run have reported, each batch with its agent. -/
def reported : List (String × List (Finding ν)) :=
  batches (o.report env occasion target criteria w).outcomes

/-- The run and its messages show the same findings: those of the composed stages at its end; on the
way each batch that is not empty, as its agent's own, and what each stage that is attached gives. -/
structure ShowsFindings (r : Run ν) (ms : List (Message ν)) : Prop where
  findings : r.findings = o.composed r.cancelled (o.untriaged env occasion target criteria w).world
    ((o.reported env occasion target criteria w).flatMap (·.2))
  told : findingsTold ms =
    ((o.reported env occasion target criteria w).filter fun b => !b.2.isEmpty).map batchMessage ++
    (o.correlation.map fun c => Message.findings Topic.findingsCorrelated producer
      (correlate c ((o.reported env occasion target criteria w).flatMap (·.2)))).toList ++
    (o.triage.map fun _ =>
      Message.findings Topic.findingsTriaged producer r.findings).toList

theorem told_selected : (o.selected env occasion target criteria w).told = [] := by
  rw [selected, Journey.withSelection, Journey.told_tell]
  exact Journey.told_enter _ env _

theorem told_dispatched : (o.dispatched env occasion target criteria w).told = [] := by
  have hopened : (o.opened env occasion target criteria w).told = [] := by
    rw [opened, Journey.told_enter, Journey.told_enter, told_selected]
  have htold : (o.dispatched env occasion target criteria w).told =
      (o.opened env occasion target criteria w).told ++
        findingsTold (o.report env occasion target criteria w).messages :=
    findingsTold_append _ _
  rw [htold, hopened]
  exact Dispatch.told_proceed ..

/-- The run when its correlated findings have been counted. -/
def counted : Journey σ ν :=
  (((o.dispatched env occasion target criteria w).aggregated env
    (o.report env occasion target criteria w).outcomes).correlated env o.correlation).update
      countCorrelated

theorem completed_eq_of_counted :
    o.completed env occasion target criteria w =
      (((o.counted env occasion target criteria w).triaged env o.triage).enter env .done).complete
        env (o.report env occasion target criteria w).now := rfl

theorem findings_aggregated_dispatched :
    ((o.dispatched env occasion target criteria w).aggregated env
      (o.report env occasion target criteria w).outcomes).run.findings =
        (o.reported env occasion target criteria w).flatMap (·.2) :=
  flatMap_normalized _

theorem findings_counted :
    (o.counted env occasion target criteria w).run.findings =
      correlatedBy o.correlation ((o.reported env occasion target criteria w).flatMap (·.2)) := by
  rw [← findings_aggregated_dispatched]
  exact Journey.findings_correlated _ env o.correlation

theorem told_counted :
    (o.counted env occasion target criteria w).told =
      ((o.reported env occasion target criteria w).filter fun b => !b.2.isEmpty).map batchMessage ++
      (o.correlation.map fun c => Message.findings Topic.findingsCorrelated producer
        (correlate c ((o.reported env occasion target criteria w).flatMap (·.2)))).toList := by
  have haggregated : ((o.dispatched env occasion target criteria w).aggregated env
      (o.report env occasion target criteria w).outcomes).told =
        ((o.reported env occasion target criteria w).filter fun b =>
          !b.2.isEmpty).map batchMessage := by
    have hentered := Journey.told_enter ((o.dispatched env occasion target criteria w).withOutcomes
      env (o.report env occasion target criteria w).outcomes) env .aggregated
    rw [Journey.told_withOutcomes, told_dispatched, List.nil_append] at hentered
    exact hentered
  rw [← findings_aggregated_dispatched, ← haggregated]
  exact Journey.told_correlated _ env o.correlation

/-- **A run that has gone through its stages shows its findings.** -/
theorem showsFindings_completed :
    o.ShowsFindings env occasion target criteria w (o.completed env occasion target criteria w).run
      (o.completed env occasion target criteria w).messages where
  findings := by
    have hcancelled : (o.completed env occasion target criteria w).run.cancelled =
        (o.counted env occasion target criteria w).run.cancelled :=
      Journey.cancelled_triaged _ env o.triage
    rw [hcancelled, composed, ← findings_counted]
    exact Journey.findings_triaged _ env o.triage
  told := by
    have htold : (o.completed env occasion target criteria w).told =
        ((o.counted env occasion target criteria w).triaged env o.triage).told := by
      rw [completed_eq_of_counted, Journey.told_complete, Journey.told_enter]
    rw [Journey.told_triaged, told_counted] at htold
    exact htold

/-- **The outcome of a run is the composed pipeline, and its messages show the same findings.**  The
batches are those of the selected agents, in order.  A run with an outcome shows its findings; a run
without one brings none. -/
theorem run_publishes :
    (o.report env occasion target criteria w).outcomes.map (·.agent) =
        (o.registry.select target criteria).agents.map (·.name) ∧
      match (o.run env occasion target criteria w).1.answer with
      | .ok r => o.ShowsFindings env occasion target criteria w r
          (o.run env occasion target criteria w).1.journey.messages
      | .error _ => findingsTold (o.run env occasion target criteria w).1.journey.messages = [] := by
  refine ⟨o.map_agent_outcomes env occasion target criteria w, ?_⟩
  rcases hs : (o.registry.select target criteria).agents.isEmpty with _ | _
  · rcases hok : (o.report env occasion target criteria w).outcomes.any (·.isSuccess) with _ | _
    · rw [run_of_selected o env occasion target criteria w hs, collect_of_failed o env _ rfl hok]
      have htold := Journey.told_withOutcomes (o.dispatched env occasion target criteria w) env
        (o.report env occasion target criteria w).outcomes
      rw [told_dispatched, batches_eq_nil_of_failed hok] at htold
      have hended := Journey.told_complete (((o.dispatched env occasion target criteria
        w).withOutcomes env (o.report env occasion target criteria w).outcomes).enter env .aborted)
        env (o.report env occasion target criteria w).now
      rw [Journey.told_enter, htold] at hended
      exact hended
    · rw [run_of_succeeded o env occasion target criteria w hs hok]
      exact o.showsFindings_completed env occasion target criteria w
  · rw [run_of_isEmpty o env occasion target criteria w hs]
    have hended := Journey.told_complete ((o.selected env occasion target criteria w).enter env
      .aborted) env occasion.start
    rw [Journey.told_enter, told_selected] at hended
    exact hended

end Run

end Orchestrator

end Vigil
