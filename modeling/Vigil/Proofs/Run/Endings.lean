import Vigil.Proofs.Run.Settlement
import Vigil.Proofs.Run.Stages

/-!
# How a run ends

A run is told by its messages: the phases that it enters, the starts and ends of its agents, its
findings, and its completion.  `Tells` says of messages which phases they tell of, and that no run
is completed by them; it is closed under concatenation, so every stage of a run can be looked at by
itself.

* `tells_dispatch` -- a dispatch tells of its agents only;
* `OnItsWay` -- what each stage adds to the phases of a run that is on its way, up to
  `OnItsWay.complete`;
* `run_endings` -- **the main result**: a run ends in one of three ways, each with its own phases,
  and its completion is the last that it tells.
-/

namespace Vigil

/-- The phase that a step enters, if it enters one. -/
def ProgressEvent.phase? : ProgressEvent → Option RunPhase
  | phaseChanged phase => some phase
  | _ => none

/-- Does the step complete a run? -/
def ProgressEvent.isCompletion : ProgressEvent → Bool
  | runCompleted .. => true
  | _ => false

variable {α σ ν : Type}

/-- The phases that messages tell of, in order. -/
def phasesTold (ms : List (Message ν)) : List RunPhase :=
  ms.filterMap fun m => m.payload.progress?.bind fun p => p.2.phase?

theorem phasesTold_append (ms ms' : List (Message ν)) :
    phasesTold (ms ++ ms') = phasesTold ms ++ phasesTold ms' :=
  List.filterMap_append

/-! ## What messages tell of a run -/

/-- The messages tell of these phases, of no other run, and of no completion. -/
structure Tells (id : RunId) (ms : List (Message ν)) (phases : List RunPhase) : Prop where
  phases : phasesTold ms = phases
  going : ∀ m ∈ ms, ∀ p, m.payload.progress? = some p → p.1 = id ∧ p.2.isCompletion = false

section Tells

variable {id : RunId} {ms ms' : List (Message ν)} {phases phases' : List RunPhase}

theorem Tells.append (h : Tells id ms phases) (h' : Tells id ms' phases') :
    Tells id (ms ++ ms') (phases ++ phases') where
  phases := by rw [phasesTold_append, h.phases, h'.phases]
  going := fun m hm => by
    rcases List.mem_append.1 hm with hm | hm
    · exact h.going m hm
    · exact h'.going m hm

/-- Messages that tell of no phase may follow others. -/
theorem Tells.append_silent (h : Tells id ms phases) (h' : Tells id ms' []) :
    Tells id (ms ++ ms') phases := by
  have htells := h.append h'
  rwa [List.append_nil] at htells

theorem tells_nil : Tells id ([] : List (Message ν)) [] :=
  ⟨rfl, fun _ hm => by cases hm⟩

/-- Findings tell of no phase. -/
theorem tells_of_findings (h : ∀ m ∈ ms, m.payload.progress? = none) : Tells id ms [] where
  phases := List.filterMap_eq_nil_iff.2 fun m hm => by rw [h m hm, Option.bind_none]
  going := fun m hm p hp => by
    rw [h m hm] at hp
    cases hp

theorem tells_findings (topic producer : String) (batch : List (Finding ν)) :
    Tells id [Message.findings topic producer batch] [] :=
  tells_of_findings (List.forall_mem_singleton.2 rfl)

/-- A step of the run, other than its completion, tells of the phase that it enters. -/
theorem tells_progress (producer : String) {e : ProgressEvent} (he : e.isCompletion = false) :
    Tells id [(Message.progress producer id e : Message ν)] e.phase?.toList where
  phases := by
    cases hphase : e.phase? <;>
      simp [phasesTold, Message.progress, Payload.progress?, hphase]
  going := fun m hm p hp => by
    obtain rfl := List.mem_singleton.1 hm
    obtain rfl := Option.some.inj hp
    exact ⟨rfl, he⟩

end Tells

namespace Dispatch

/-- **A dispatch tells of its agents only.** -/
theorem tells_proceed (env : Surroundings σ ν) (id : RunId) (cancelAt : Option Nat) (n : Nat)
    (s : State ν) (w : σ) : Tells id (proceed env id cancelAt n s w).messages [] := by
  induction n generalizing s w with
  | zero => exact tells_nil
  | succ n ih =>
    rw [proceed]
    split
    · exact tells_nil
    · rename_i s' e hnext
      refine Tells.append_silent ?_ (ih _ _)
      obtain ⟨a, -, ha⟩ := Option.bind_eq_some_iff.1 hnext
      cases step_of_apply ha with
      | start _ => exact tells_progress _ rfl
      | finish _ _ => exact tells_progress _ rfl
      | _ => exact tells_nil

theorem tells_dispatch (env : Surroundings σ ν) (id : RunId) (capacity : Nat)
    (cancelAt : Option Nat) (now : Nat) (tasks : List (Task ν)) (w : σ) :
    Tells id (dispatch env id capacity cancelAt now tasks w).messages [] :=
  tells_proceed ..

end Dispatch

namespace Orchestrator

/-! ## A run on its way -/

/-- The run has entered these phases so far, and has not been completed. -/
structure OnItsWay (id : RunId) (phases : List RunPhase) (j : Journey σ ν) : Prop where
  run_id : j.run.id = id
  tells : Tells id j.messages phases

/-- The run has entered these phases, it is over, and its completion was the last that it told. -/
structure IsOver (id : RunId) (phases : List RunPhase) (j : Journey σ ν) : Prop where
  isFinalized : j.run.isFinalized = true
  getLast?_phases : phases.getLast? = some j.run.phase
  phasesTold_eq : phasesTold j.messages = phases
  completion : ∃ before,
    j.messages = before ++
      [.progress producer id (.runCompleted j.run.phase j.run.findings.length)] ∧
    ∀ m ∈ before, ∀ p, m.payload.progress? = some p → p.1 = id ∧ p.2.isCompletion = false

/-- What is published of the outcomes are findings. -/
theorem progress?_flatMap_batchOf [Quantity ν] (outcomes : List (Outcome ν)) :
    ∀ m ∈ outcomes.flatMap batchOf, m.payload.progress? = none := by
  intro m hm
  obtain ⟨x, -, hm⟩ := List.mem_flatMap.1 hm
  simp only [batchOf] at hm
  split at hm
  · cases hm
  · obtain rfl := List.mem_singleton.1 hm
    rfl

namespace OnItsWay

variable {id : RunId} {phases : List RunPhase} {j : Journey σ ν}

theorem publish (h : OnItsWay id phases j) (env : Surroundings σ ν) {ms : List (Message ν)}
    (hms : Tells id ms []) : OnItsWay id phases (j.publish env ms) where
  run_id := h.run_id
  tells := h.tells.append_silent hms

theorem tell (h : OnItsWay id phases j) (env : Surroundings σ ν) {e : ProgressEvent}
    (he : e.isCompletion = false) : OnItsWay id (phases ++ e.phase?.toList) (j.tell env e) where
  run_id := h.run_id
  tells := by
    obtain rfl := h.run_id
    exact h.tells.append (tells_progress producer he)

theorem enter (h : OnItsWay id phases j) (env : Surroundings σ ν) (phase : RunPhase) :
    OnItsWay id (phases ++ [phase]) (j.enter env phase) :=
  tell (j := { j with run := { j.run with phase } }) ⟨h.run_id, h.tells⟩ env
    (e := .phaseChanged phase) rfl

/-- A run that is over has told of its phases, and last of its completion. -/
theorem complete (h : OnItsWay id phases j) (hlast : phases.getLast? = some j.run.phase)
    (env : Surroundings σ ν) (now : Nat) : IsOver id phases (j.complete env now) where
  isFinalized := by
    have hfinished : (j.complete env now).run.finishedAt = (j.run.finishedAt <|> some now) := rfl
    rw [Run.isFinalized, hfinished]
    cases j.run.finishedAt <;> rfl
  getLast?_phases := hlast
  phasesTold_eq := by
    have hmessages : (j.complete env now).messages = j.messages ++
        [.progress producer j.run.id (.runCompleted j.run.phase j.run.findings.length)] := rfl
    rw [hmessages, phasesTold_append, h.tells.phases]
    exact List.append_nil _
  completion := by
    obtain rfl := h.run_id
    exact ⟨j.messages, rfl, h.tells.going⟩

variable [Quantity ν]

theorem withOutcomes (h : OnItsWay id phases j) (env : Surroundings σ ν)
    (outcomes : List (Outcome ν)) : OnItsWay id phases (j.withOutcomes env outcomes) := by
  have hpublished := publish (j := j.record (outcomes.flatMap eventsOf)) ⟨h.run_id, h.tells⟩ env
    (tells_of_findings (progress?_flatMap_batchOf outcomes))
  exact ⟨hpublished.run_id, hpublished.tells⟩

theorem aggregated (h : OnItsWay id phases j) (env : Surroundings σ ν)
    (outcomes : List (Outcome ν)) :
    OnItsWay id (phases ++ [.aggregated]) (j.aggregated env outcomes) := by
  have hentered := (h.withOutcomes env outcomes).enter env .aggregated
  exact ⟨hentered.run_id, hentered.tells⟩

theorem correlated (h : OnItsWay id phases j) (env : Surroundings σ ν)
    (stage : Option (CorrelationConfig ν)) :
    OnItsWay id (phases ++ (stage.map fun _ => .correlating).toList) (j.correlated env stage) := by
  cases stage with
  | none =>
    rw [Option.map_none, Option.toList_none, List.append_nil]
    exact h
  | some c =>
    have hpublished := (h.enter env .correlating).publish env
      (tells_findings Topic.findingsCorrelated producer (correlate c j.run.findings))
    exact ⟨hpublished.run_id, hpublished.tells⟩

theorem triaged (h : OnItsWay id phases j) (env : Surroundings σ ν)
    (stage : Option (TriageEngine σ ν)) :
    OnItsWay id (phases ++ (stage.map fun _ => .triaging).toList) (j.triaged env stage) := by
  cases stage with
  | none =>
    rw [Option.map_none, Option.toList_none, List.append_nil]
    exact h
  | some e =>
    have hentered := h.enter env .triaging
    have hpublished := publish
      (j := { j.enter env .triaging with world := ((j.enter env .triaging).triage e).world })
      ⟨hentered.run_id, hentered.tells⟩ env
      (tells_findings Topic.findingsTriaged producer ((j.enter env .triaging).triage e).findings)
    exact ⟨hpublished.run_id, hpublished.tells⟩

end OnItsWay

/-! ## The whole run -/

section Run

variable [Quantity ν] (o : Orchestrator α σ ν) (env : Surroundings σ ν) (occasion : Occasion)
  (target : AnalysisTarget) (criteria : SelectionCriteria) (w : σ)

/-- The phases of a run with an outcome. -/
def fullCourse : List RunPhase :=
  [.selecting, .dispatching, .collecting, .aggregated] ++
    (o.correlation.map fun _ => RunPhase.correlating).toList ++
    (o.triage.map fun _ => RunPhase.triaging).toList ++ [.done]

omit [Quantity ν] in
theorem getLast?_fullCourse : o.fullCourse.getLast? = some .done :=
  List.getLast?_concat

theorem onItsWay_selected :
    OnItsWay occasion.id [.selecting] (o.selected env occasion target criteria w) := by
  have hstart : OnItsWay occasion.id []
      (⟨Run.idle occasion.id target occasion.start, [], [], w⟩ : Journey σ ν) :=
    ⟨rfl, tells_nil⟩
  have hentered := hstart.enter env .selecting
  -- The start of the run is told after its first phase, and is none itself.
  have hstarted := hentered.tell env (e := .runStarted target.path
    ((o.registry.select target criteria).agents.map (·.name))) rfl
  exact ⟨hstarted.run_id, hstarted.tells⟩

theorem onItsWay_opened :
    OnItsWay occasion.id [.selecting, .dispatching, .collecting]
      (o.opened env occasion target criteria w) :=
  ((o.onItsWay_selected env occasion target criteria w).enter env .dispatching).enter env
    .collecting

theorem onItsWay_dispatched :
    OnItsWay occasion.id [.selecting, .dispatching, .collecting]
      (o.dispatched env occasion target criteria w) := by
  have hopened := o.onItsWay_opened env occasion target criteria w
  exact ⟨hopened.run_id, hopened.tells.append_silent (Dispatch.tells_dispatch ..)⟩

theorem onItsWay_staged (outcomes : List (Outcome ν)) {j : Journey σ ν} {id : RunId}
    {phases : List RunPhase} (h : OnItsWay id phases j) :
    OnItsWay id (phases ++ [.aggregated] ++
      (o.correlation.map fun _ => RunPhase.correlating).toList ++
      (o.triage.map fun _ => RunPhase.triaging).toList) (o.staged env outcomes j) := by
  have hcorrelated := (h.aggregated env outcomes).correlated env o.correlation
  exact OnItsWay.triaged (j := Journey.update _ countCorrelated)
    ⟨hcorrelated.run_id, hcorrelated.tells⟩ env o.triage

/-- The tasks of the run, with their stages, when the dispatch is over. -/
def settled : Dispatch.State ν :=
  Dispatch.lastState env occasion.id
    (o.config.capacity (o.registry.select target criteria).agents.length) occasion.cancelAt
    occasion.start (o.tasks target criteria) (o.opened env occasion target criteria w).world

/-- When the dispatch is over, all tasks have ended with the outcomes that it reports. -/
theorem forall₂_ended_settled :
    List.Forall₂ (fun p x => p.2 = .ended x) (o.settled env occasion target criteria w).tasks
      (o.report env occasion target criteria w).outcomes :=
  Dispatch.forall₂_ended_dispatch env occasion.id (DispatchMode.one_le_capacity ..) _ _ _ _

/-- Each selected agent comes to what it comes to by itself, unless it is cancelled. -/
theorem forall₂_decides_report :
    List.Forall₂ (Dispatch.Decides (o.report env occasion target criteria w).cancelled)
      (o.tasks target criteria) (o.report env occasion target criteria w).outcomes :=
  Dispatch.forall₂_decided_dispatch env occasion.id (DispatchMode.one_le_capacity ..) _ _ _ _

omit [Quantity ν] in
theorem map_agent_tasks :
    (o.tasks target criteria).map (·.agent) =
      (o.registry.select target criteria).agents.map (·.name) := by
  have hinstances (ds : List AgentDescriptor) (r : Registry α) :
      (instantiateAll ds r).1.map (·.1) = ds := by
    induction ds generalizing r with
    | nil => rfl
    | cons d ds ih => simp only [instantiateAll, List.map_cons, ih]
  have hnames := congrArg (List.map AgentDescriptor.name)
    (hinstances (o.registry.select target criteria).agents o.registry)
  rw [List.map_map] at hnames
  rw [tasks, List.map_map]
  exact hnames

/-- The outcomes are those of the selected agents, in order. -/
theorem map_agent_outcomes :
    (o.report env occasion target criteria w).outcomes.map (·.agent) =
      (o.registry.select target criteria).agents.map (·.name) := by
  have hanswers := Dispatch.forall₂_answersFor_dispatch env occasion.id
    (o.config.capacity (o.registry.select target criteria).agents.length) occasion.cancelAt
    occasion.start (o.tasks target criteria) (o.opened env occasion target criteria w).world
  have hagents : List.Forall₂ (· = ·) ((o.tasks target criteria).map (·.agent))
      ((o.report env occasion target criteria w).outcomes.map (·.agent)) := by
    rw [List.forall₂_map_left_iff, List.forall₂_map_right_iff]
    exact hanswers.imp fun _ _ h => h.agent.symm
  rw [List.forall₂_eq_eq_eq] at hagents
  rw [← map_agent_tasks, hagents]

/-- **A run ends in one of three ways.**  Without a selected agent it ends in an error that counts
the agents that match but are not available; if no selected agent succeeds it ends in an error that
holds the results; otherwise it has an outcome, and goes through all the stages that are attached.
Each way has its own phases, and the completion of the run is told once, as the last of all, with
its last phase and the number of its findings.  The agents that decide this are all selected ones:
each has come to its end, none is left out, and what it has come to is the answer of its own work
unless the run was cancelled. -/
theorem run_endings :
    (((o.registry.select target criteria).agents = [] ∧
        (o.run env occasion target criteria w).1.answer = .error (.noAgentsSelected
          ((o.registry.filter (criteria.filterFor target)).countP (!·.available))) ∧
        IsOver occasion.id [.selecting, .aborted] (o.run env occasion target criteria w).1.journey) ∨
      ((o.registry.select target criteria).agents ≠ [] ∧
        (∀ x ∈ (o.report env occasion target criteria w).outcomes, x.isSuccess = false) ∧
        (o.run env occasion target criteria w).1.answer = .error (.allAgentsFailed
          (o.run env occasion target criteria w).1.journey.run.results) ∧
        IsOver occasion.id [.selecting, .dispatching, .collecting, .aborted]
          (o.run env occasion target criteria w).1.journey) ∨
      ((o.registry.select target criteria).agents ≠ [] ∧
        (∃ x ∈ (o.report env occasion target criteria w).outcomes, x.isSuccess = true) ∧
        (o.run env occasion target criteria w).1.answer =
          .ok (o.run env occasion target criteria w).1.journey.run ∧
        IsOver occasion.id o.fullCourse (o.run env occasion target criteria w).1.journey)) ∧
    (o.report env occasion target criteria w).outcomes.map (·.agent) =
      (o.registry.select target criteria).agents.map (·.name) ∧
    List.Forall₂ (fun p x => p.2 = .ended x) (o.settled env occasion target criteria w).tasks
      (o.report env occasion target criteria w).outcomes ∧
    List.Forall₂ (Dispatch.Decides (o.report env occasion target criteria w).cancelled)
      (o.tasks target criteria) (o.report env occasion target criteria w).outcomes := by
  refine ⟨?_, o.map_agent_outcomes env occasion target criteria w,
    o.forall₂_ended_settled env occasion target criteria w,
    o.forall₂_decides_report env occasion target criteria w⟩
  by_cases hagents : (o.registry.select target criteria).agents = []
  · have hover := ((o.onItsWay_selected env occasion target criteria w).enter env
      .aborted).complete rfl env occasion.start
    have hskipped : (o.registry.select target criteria).unavailable.length =
        (o.registry.filter (criteria.filterFor target)).countP (!·.available) := by
      rw [List.countP_eq_length_filter]
      rfl
    rw [o.run_of_isEmpty env occasion target criteria w (List.isEmpty_iff.2 hagents), ← hskipped]
    exact Or.inl ⟨hagents, rfl, hover⟩
  have hdispatched := o.onItsWay_dispatched env occasion target criteria w
  rw [o.run_of_selected env occasion target criteria w (List.isEmpty_eq_false_iff.2 hagents)]
  rcases hok : (o.report env occasion target criteria w).outcomes.any (·.isSuccess) with _ | _
  · have hover := ((hdispatched.withOutcomes env
      (o.report env occasion target criteria w).outcomes).enter env .aborted).complete rfl env
      (o.report env occasion target criteria w).now
    have hfailed : ∀ x ∈ (o.report env occasion target criteria w).outcomes,
        x.isSuccess = false := by
      intro x hx
      rw [← Bool.not_eq_true]
      exact List.any_eq_false.1 hok x hx
    rw [collect_of_failed o env _ rfl hok]
    exact Or.inr (Or.inl ⟨hagents, hfailed, rfl, hover⟩)
  · have hover := ((o.onItsWay_staged env (o.report env occasion target criteria w).outcomes
      hdispatched).enter env .done).complete o.getLast?_fullCourse env
      (o.report env occasion target criteria w).now
    rw [collect_of_succeeded o env _ rfl hok]
    exact Or.inr (Or.inr ⟨hagents, List.any_eq_true.1 hok, rfl, hover⟩)

end Run

end Orchestrator

end Vigil
