import Vigil.Proofs.Agent.Registry
import Vigil.Proofs.Run.Account
import Vigil.Proofs.Run.Schedule

/-!
# How many agents work at the same time

From its dispatch on, a run goes on as the scheduler wants: its tasks take turns in any order, and
the run itself begins to collect at any time, also when some agents have long started; it goes on
only when all its tasks have ended.  `Course` holds every way in which this can go, whatever the
agents answer and whenever the run is cancelled.

* `IsOrderly.turn`, `IsOrderly.collecting`, `IsOrderly.joined` -- what each step of a course
  preserves;
* `isOrderly_of_course` -- so all of it holds along every course;
* `course_run` -- the run of the pipeline is one of its courses;
* `courses_respect_ceiling` -- **the main result**: in no course do more agents work at the same
  time than the ceiling allows, every agent that starts has finished before the run goes on, and an
  agent that is refused neither starts nor finishes.
-/

namespace Vigil

open Dispatch (Action State Turn announcement outcomeOf)

variable {α σ ν : Type}

namespace Orchestrator

/-! ## Telling nothing of an agent -/

/-- The later run has told more than the earlier one, but nothing of an agent. -/
def Silently (j j' : Journey σ ν) : Prop :=
  ∃ ms, j'.messages = j.messages ++ ms ∧ ∀ agent, toldOf agent ms = []

namespace Silently

variable {j j' j'' : Journey σ ν}

theorem refl (j : Journey σ ν) : Silently j j :=
  ⟨[], (List.append_nil _).symm, fun _ => rfl⟩

theorem trans (h : Silently j j') (h' : Silently j' j'') : Silently j j'' := by
  obtain ⟨ms, hms, hnone⟩ := h
  obtain ⟨ms', hms', hnone'⟩ := h'
  refine ⟨ms ++ ms', ?_, fun agent => ?_⟩
  · rw [hms', hms, List.append_assoc]
  · rw [toldOf_append, hnone, hnone']
    rfl

variable (env : Surroundings σ ν)

/-- Findings are no news of an agent's start or end. -/
theorem publish {ms : List (Message ν)} (h : ∀ m ∈ ms, m.payload.progress? = none)
    (j : Journey σ ν) : Silently j (j.publish env ms) := by
  refine ⟨ms, rfl, toldOf_eq_nil fun m hm p hp => ?_⟩
  rw [h m hm] at hp
  cases hp

theorem tell {e : ProgressEvent} (he : e.agent? = none) (j : Journey σ ν) :
    Silently j (j.tell env e) := by
  refine ⟨_, rfl, toldOf_eq_nil fun m hm p hp => ?_⟩
  obtain rfl := List.mem_singleton.1 hm
  obtain rfl := Option.some.inj hp
  exact he

theorem enter (phase : RunPhase) (j : Journey σ ν) : Silently j (j.enter env phase) :=
  tell env (e := .phaseChanged phase) rfl { j with run := { j.run with phase } }

theorem complete (now : Nat) (j : Journey σ ν) : Silently j (j.complete env now) :=
  tell env rfl (j.update (·.finalize now))

variable [Quantity ν]

theorem withOutcomes (outcomes : List (Outcome ν)) (j : Journey σ ν) :
    Silently j (j.withOutcomes env outcomes) :=
  publish env (progress?_flatMap_batchOf outcomes) (j.record (outcomes.flatMap eventsOf))

theorem aggregated (outcomes : List (Outcome ν)) (j : Journey σ ν) :
    Silently j (j.aggregated env outcomes) :=
  (withOutcomes env outcomes j).trans (enter env .aggregated _)

theorem correlated (stage : Option (CorrelationConfig ν)) (j : Journey σ ν) :
    Silently j (j.correlated env stage) := by
  cases stage with
  | none => exact refl j
  | some c =>
    exact (enter env .correlating j).trans (publish env (List.forall_mem_singleton.2 rfl) _)

theorem triaged (stage : Option (TriageEngine σ ν)) (j : Journey σ ν) :
    Silently j (j.triaged env stage) := by
  cases stage with
  | none => exact refl j
  | some e =>
    exact (enter env .triaging j).trans (publish env (List.forall_mem_singleton.2 rfl) _)

/-- **What follows the dispatch tells of no agent.** -/
theorem collect (o : Orchestrator α σ ν) (now : Nat) (outcomes : List (Outcome ν))
    (hphase : j.run.phase = .collecting) :
    Silently j (o.collect env now outcomes j).journey := by
  rcases hok : outcomes.any (·.isSuccess) with _ | _
  · rw [collect_of_failed o env now hphase hok]
    exact (withOutcomes env outcomes j).trans ((enter env .aborted _).trans (complete env now _))
  · rw [collect_of_succeeded o env now hphase hok]
    have hcorrelated := (aggregated env outcomes j).trans (correlated env o.correlation _)
    have hstaged : Silently j (o.staged env outcomes j) :=
      hcorrelated.trans (triaged env o.triage (Journey.update _ countCorrelated))
    exact hstaged.trans ((enter env .done _).trans (complete env now _))

end Silently

/-! ## The end of a run -/

/-- The run when it has looked whether it is cancelled. -/
def Journey.noting (j : Journey σ ν) (cancelled : Bool) : Journey σ ν :=
  { j with run := { j.run with cancelled } }

section Collect

variable [Quantity ν] (o : Orchestrator α σ ν) (env : Surroundings σ ν) (now : Nat)
  (outcomes : List (Outcome ν)) {j : Journey σ ν}

theorem isTerminal_collect (hphase : j.run.phase = .collecting) :
    (o.collect env now outcomes j).journey.run.phase.isTerminal = true := by
  rcases hok : outcomes.any (·.isSuccess) with _ | _
  · rw [collect_of_failed o env now hphase hok]
    rfl
  · rw [collect_of_succeeded o env now hphase hok]
    rfl

theorem results_collect (hphase : j.run.phase = .collecting) :
    (o.collect env now outcomes j).journey.run.results =
      j.run.results ++ outcomes.map resultOf := by
  rcases hok : outcomes.any (·.isSuccess) with _ | _
  · rw [collect_of_failed o env now hphase hok]
    rfl
  · rw [collect_of_succeeded o env now hphase hok]
    exact o.results_staged env outcomes j

end Collect

/-! ## The invariant of a course -/

section Invariant

variable (o : Orchestrator α σ ν) (occasion : Occasion) (target : AnalysisTarget)
  (criteria : SelectionCriteria)

/-- The run has not joined its tasks yet. -/
def IsOpen (j : Journey σ ν) : Prop :=
  j.run.phase = .dispatching ∧ OnItsWay occasion.id [.selecting, .dispatching] j ∨
    j.run.phase = .collecting ∧ OnItsWay occasion.id [.selecting, .dispatching, .collecting] j

/-- The run has joined its tasks: it is over, it holds their results, and nothing is told of an
agent after the phases in which agents work. -/
structure IsJoined (s : State ν) (j : Journey σ ν) : Prop where
  isTerminal : j.run.phase.isTerminal = true
  ended : ∀ p ∈ s.tasks, p.2.isEnded = true
  results : ∀ p ∈ s.tasks, resultOf (outcomeOf p) ∈ j.run.results
  parted : ∃ earlier later, j.messages = earlier ++ later ∧
    (∀ phase ∈ phasesTold earlier, phase ∈ [.selecting, .dispatching, .collecting]) ∧
    ∀ agent, toldOf agent later = []

/-- What holds at every point of a course. -/
structure IsOrderly (as : List Action) (s : State ν) (j : Journey σ ν) : Prop where
  tasks : s.tasks.map (·.1) = o.tasks target criteria
  capacity : s.capacity = o.config.capacity (o.registry.select target criteria).agents.length
  orderly : Dispatch.Orderly s j.messages
  sparse : ∀ before, before <+: j.messages →
    (s.tasks.map (·.1.agent)).countP (isUnderWay before) ≤ s.capacity
  refused : ∀ i, .refuse i ∈ as → ∃ t,
    s.tasks[i]? = some (t, .ended (Dispatch.cancelledOutcome t 0)) ∧ toldOf t.agent j.messages = []
  position : IsOpen occasion j ∨ IsJoined s j

variable {o occasion target criteria} {as : List Action} {s s' : State ν}
  {j j' : Journey σ ν} {a : Action} {e : Option ProgressEvent}

namespace IsOrderly

/-- Telling nothing of an agent changes nothing for the agents. -/
theorem silently (h : IsOrderly o occasion target criteria as s j) (hsilent : Silently j j')
    (hposition : IsOpen occasion j' ∨ IsJoined s j') :
    IsOrderly o occasion target criteria as s j' := by
  obtain ⟨ms, hms, hnone⟩ := hsilent
  refine ⟨h.tasks, h.capacity, hms ▸ h.orderly.append hnone, fun before hbefore => ?_,
    fun i hi => ?_, hposition⟩
  · rw [hms] at hbefore
    rcases List.prefix_or_prefix_of_prefix hbefore (List.prefix_append _ _) with hbefore | hlater
    · exact h.sparse before hbefore
    · obtain ⟨mid, rfl⟩ := hlater
      have hmid : mid <+: ms := (List.prefix_append_right_inj _).1 hbefore
      have hunchanged : isUnderWay (j.messages ++ mid) = isUnderWay j.messages :=
        funext fun agent =>
          isUnderWay_append_of_eq_nil (toldOf_eq_nil_of_earlier hmid (hnone agent))
      rw [hunchanged]
      exact h.sparse _ (List.prefix_refl _)
  · obtain ⟨t, ht, htold⟩ := h.refused i hi
    refine ⟨t, ht, ?_⟩
    rw [hms, toldOf_append, htold, hnone]
    rfl

/-- **Every turn of a task keeps the order.** -/
theorem turn (h : IsOrderly o occasion target criteria as s j) (hturn : Turn s a s' e)
    (env : Surroundings σ ν) :
    IsOrderly o occasion target criteria (as ++ [a]) s'
      (j.publish env (announcement occasion.id e)) where
  tasks := (Dispatch.tasks_turn hturn).trans h.tasks
  capacity := (Dispatch.capacity_turn hturn).trans h.capacity
  orderly := h.orderly.turn hturn occasion.id
  sparse before hbefore := by
    have hceiling := (h.orderly.turn hturn occasion.id).countP_isUnderWay_le
    rcases Dispatch.prefix_announcement hbefore with hbefore | rfl
    · rw [Dispatch.agents_turn hturn, Dispatch.capacity_turn hturn]
      exact h.sparse before hbefore
    · exact hceiling
  refused i hi := by
    rcases List.mem_append.1 hi with hi | hi
    · obtain ⟨t, ht, htold⟩ := h.refused i hi
      obtain ⟨ht', hnone⟩ := h.orderly.getElem?_turn hturn occasion.id ht
      refine ⟨t, ht', (toldOf_append _ _ _).trans ?_⟩
      rw [htold, hnone]
      rfl
    · obtain rfl := List.mem_singleton.1 hi
      exact h.orderly.refuse hturn occasion.id
  position := by
    rcases h.position with (⟨hphase, hway⟩ | ⟨hphase, hway⟩) | hjoined
    · exact Or.inl (Or.inl ⟨hphase, hway.publish env (Dispatch.tells_announcement _ _)⟩)
    · exact Or.inl (Or.inr ⟨hphase, hway.publish env (Dispatch.tells_announcement _ _)⟩)
    · obtain ⟨htasks, rfl⟩ := hturn.eq_of_isEnded hjoined.ended
      refine Or.inr ⟨hjoined.isTerminal, htasks ▸ hjoined.ended, htasks ▸ hjoined.results, ?_⟩
      obtain ⟨earlier, later, hmessages, hparted⟩ := hjoined.parted
      exact ⟨earlier, later, (List.append_nil _).trans hmessages, hparted⟩

/-- The run may begin to collect at any time. -/
theorem collecting (h : IsOrderly o occasion target criteria as s j)
    (hphase : j.run.phase = .dispatching) (env : Surroundings σ ν) :
    IsOrderly o occasion target criteria as s (j.enter env .collecting) := by
  refine h.silently (Silently.enter env .collecting j) ?_
  rcases h.position with (⟨-, hway⟩ | ⟨hother, -⟩) | hjoined
  · exact Or.inl (Or.inr ⟨rfl, hway.enter env .collecting⟩)
  · rw [hphase] at hother
    cases hother
  · have hterminal := hjoined.isTerminal
    rw [hphase] at hterminal
    cases hterminal

/-- When all tasks have ended the run may join them. -/
theorem joined [Quantity ν] (h : IsOrderly o occasion target criteria as s j)
    (hphase : j.run.phase = .collecting) (hended : ∀ p ∈ s.tasks, p.2.isEnded = true)
    (env : Surroundings σ ν) :
    IsOrderly o occasion target criteria as s (o.collect env s.now (s.tasks.map outcomeOf)
      (j.noting s.cancelled)).journey := by
  have hsilent := Silently.collect env o s.now (s.tasks.map outcomeOf)
    (j := j.noting s.cancelled) hphase
  refine h.silently hsilent (Or.inr ⟨?_, hended, fun p hp => ?_, ?_⟩)
  · exact o.isTerminal_collect env s.now _ (j := j.noting s.cancelled) hphase
  · rw [o.results_collect env s.now _ (j := j.noting s.cancelled) hphase, List.map_map]
    exact List.mem_append_right _ (List.mem_map_of_mem hp)
  · obtain ⟨later, hlater, hnone⟩ := hsilent
    refine ⟨j.messages, later, hlater, ?_, hnone⟩
    rcases h.position with (⟨hother, -⟩ | ⟨-, hway⟩) | hjoined
    · rw [hphase] at hother
      cases hother
    · rw [hway.tells.phases]
      exact fun _ h => h
    · have hterminal := hjoined.isTerminal
      rw [hphase] at hterminal
      cases hterminal

/-- The tasks are those of the selected agents, in order. -/
theorem agents (h : IsOrderly o occasion target criteria as s j) :
    s.tasks.map (·.1.agent) = (o.registry.select target criteria).agents.map (·.name) := by
  rw [← map_agent_tasks, ← h.tasks, List.map_map]
  rfl

/-- What is told of a selected agent is told of its task. -/
theorem exists_told (h : IsOrderly o occasion target criteria as s j) {d : AgentDescriptor}
    (hd : d ∈ (o.registry.select target criteria).agents) :
    ∃ p ∈ s.tasks, p.1.agent = d.name ∧
      Dispatch.Told p.1 p.2 (toldOf d.name j.messages) := by
  have hname : d.name ∈ s.tasks.map (·.1.agent) := h.agents ▸ List.mem_map_of_mem hd
  obtain ⟨p, hp, heq⟩ := List.mem_map.1 hname
  exact ⟨p, hp, heq, heq ▸ h.orderly.told p hp⟩

/-- **Before the findings are aggregated, or the run is aborted, every agent that has started has
finished**, and afterwards nothing is told of any. -/
theorem isSettled (h : IsOrderly o occasion target criteria as s j)
    {before after : List (Message ν)} {phase : RunPhase}
    (hsplit : j.messages = before ++ .progress producer occasion.id (.phaseChanged phase) :: after)
    (hphase : phase = .aggregated ∨ phase = .aborted) :
    (∀ d ∈ (o.registry.select target criteria).agents,
      Dispatch.IsSettled d.name (toldOf d.name before)) ∧ ∀ agent, toldOf agent after = [] := by
  have hmem {ms : List (Message ν)}
      (hm : .progress producer occasion.id (.phaseChanged phase) ∈ ms) :
      phase ∈ phasesTold ms :=
    List.mem_filterMap.2 ⟨_, hm, rfl⟩
  have hlate : phase ∉ [RunPhase.selecting, .dispatching, .collecting] := by
    rcases hphase with rfl | rfl <;> decide
  have htold := hmem (hsplit ▸ List.mem_append_right _ (List.mem_cons_self ..))
  rcases h.position with (⟨-, hway⟩ | ⟨-, hway⟩) | hjoined
  · rw [hway.tells.phases] at htold
    exact absurd (List.mem_append_left [RunPhase.collecting] htold) hlate
  · rw [hway.tells.phases] at htold
    exact absurd htold hlate
  · obtain ⟨earlier, later, hparted, hearly, hnone⟩ := hjoined.parted
    -- The phase is told after the tasks have been joined, so the rest tells of no agent.
    have hrest (agent : String) : toldOf agent
        (.progress producer occasion.id (.phaseChanged phase) :: after) = [] := by
      rcases List.append_eq_append_iff.1 (hsplit.symm.trans hparted) with
        ⟨mid, rfl, hlater⟩ | ⟨mid, rfl, rfl⟩
      · cases mid with
        | nil => exact (congrArg (toldOf agent) hlater).trans (hnone agent)
        | cons m mid =>
          obtain ⟨rfl, -⟩ := List.cons.inj hlater
          have hin := hearly phase (hmem (List.mem_append_right _ (List.mem_cons_self ..)))
          exact absurd hin hlate
      · have hall := hnone agent
        rw [toldOf_append] at hall
        exact (List.append_eq_nil_iff.1 hall).2
    refine ⟨fun d hd => ?_, hrest⟩
    obtain ⟨p, hp, heq, htold⟩ := h.exists_told hd
    have hsettled := heq ▸ htold.isSettled (hjoined.ended p hp)
    rwa [hsplit, toldOf_append, hrest, List.append_nil] at hsettled

/-- An agent that was refused neither starts nor finishes, and it ends as cancelled. -/
theorem refused_agent (h : IsOrderly o occasion target criteria as s j) {i : Nat}
    (hi : .refuse i ∈ as) : ∃ d, (o.registry.select target criteria).agents[i]? = some d ∧
      toldOf d.name j.messages = [] ∧
      s.tasks[i]?.map (·.2) = some (.ended ⟨d.name, .error .cancelled, 0⟩) ∧
      (j.run.phase.isTerminal = true →
        AnalysisResult.failure d.name 0 .cancelled ∈ j.run.results) := by
  obtain ⟨t, ht, hnone⟩ := h.refused i hi
  have hname : ((o.registry.select target criteria).agents.map (·.name))[i]? = some t.agent := by
    rw [← h.agents, List.getElem?_map, ht]
    rfl
  rw [List.getElem?_map, Option.map_eq_some_iff] at hname
  obtain ⟨d, hd, hagent⟩ := hname
  refine ⟨d, hd, hagent ▸ hnone, ?_, fun hterminal => ?_⟩
  · rw [ht, hagent]
    rfl
  · rcases h.position with (⟨hphase, -⟩ | ⟨hphase, -⟩) | hjoined
    · rw [hphase] at hterminal
      cases hterminal
    · rw [hphase] at hterminal
      cases hterminal
    · rw [hagent]
      exact hjoined.results _ (List.mem_of_getElem? ht)

end IsOrderly

end Invariant

/-! ## Courses -/

section Course

variable [Quantity ν] (o : Orchestrator α σ ν) (env : Surroundings σ ν) (occasion : Occasion)
  (target : AnalysisTarget) (criteria : SelectionCriteria) (w : σ)

/-- The ways in which a run with selected agents can go from its dispatch on: the actions of its
tasks so far, how the tasks stand, and what the run has told. -/
inductive Course : List Action → State ν → Journey σ ν → Prop where
  | opened (h : (o.registry.select target criteria).agents ≠ []) :
    Course []
      (Dispatch.initial (o.config.capacity (o.registry.select target criteria).agents.length)
        occasion.start (o.tasks target criteria))
      ((o.selected env occasion target criteria w).enter env .dispatching)
  | turn {as : List Action} {s s' : State ν} {j : Journey σ ν} {a : Action}
    {e : Option ProgressEvent} (h : Course as s j) (hturn : Turn s a s' e) :
    Course (as ++ [a]) s' (j.publish env (announcement occasion.id e))
  | collecting {as : List Action} {s : State ν} {j : Journey σ ν} (h : Course as s j)
    (hphase : j.run.phase = .dispatching) : Course as s (j.enter env .collecting)
  | joined {as : List Action} {s : State ν} {j : Journey σ ν} (h : Course as s j)
    (hphase : j.run.phase = .collecting) (hended : ∀ p ∈ s.tasks, p.2.isEnded = true) :
    Course as s (o.collect env s.now (s.tasks.map outcomeOf)
      (j.noting s.cancelled)).journey

variable {o env occasion target criteria w} {as : List Action} {s : State ν} {j : Journey σ ν}

/-- **All of this holds along every course**, if no two selected agents have one name. -/
theorem isOrderly_of_course (hnodup : ((o.tasks target criteria).map (·.agent)).Nodup)
    (h : o.Course env occasion target criteria w as s j) :
    IsOrderly o occasion target criteria as s j := by
  induction h with
  | opened _ =>
    have hsilent (agent : String) : toldOf agent
        ((o.selected env occasion target criteria w).enter env .dispatching).messages = [] := rfl
    refine ⟨?_, rfl, Dispatch.orderly_initial _ _ hnodup hsilent, fun before hbefore => ?_,
      (fun _ hi => by cases hi), Or.inl (Or.inl ⟨rfl, ?_⟩)⟩
    · rw [Dispatch.initial, List.map_map]
      exact List.map_id' _
    · refine Nat.le_trans (Nat.le_of_eq (List.countP_eq_zero.2 fun agent _ => ?_)) (Nat.zero_le _)
      rw [isUnderWay, toldOf_eq_nil_of_earlier hbefore (hsilent agent)]
      exact Bool.false_ne_true
    · exact (o.onItsWay_selected env occasion target criteria w).enter env .dispatching
  | turn _ hturn ih => exact ih.turn hturn env
  | collecting _ hphase ih => exact ih.collecting hphase env
  | joined _ hphase hended ih => exact ih.joined hphase hended env

/-- What a dispatch does continues a course. -/
theorem course_proceed (h : o.Course env occasion target criteria w as s j) (n : Nat) :
    ∃ as', o.Course env occasion target criteria w as'
      (Dispatch.proceed env occasion.id occasion.cancelAt n s j.world).state
      { j with
        messages := j.messages ++
          (Dispatch.proceed env occasion.id occasion.cancelAt n s j.world).messages
        world := (Dispatch.proceed env occasion.id occasion.cancelAt n s j.world).world } := by
  induction n generalizing as s j with
  | zero =>
    refine ⟨as, ?_⟩
    rw [Dispatch.proceed, List.append_nil]
    exact h
  | succ n ih =>
    rw [Dispatch.proceed]
    split
    · refine ⟨as, ?_⟩
      rw [List.append_nil]
      exact h
    · rename_i s' e hnext
      obtain ⟨a, -, ha⟩ := Option.bind_eq_some_iff.1 hnext
      obtain ⟨as', h'⟩ := ih (h.turn (Dispatch.turn_of_step (Dispatch.step_of_apply ha)))
      refine ⟨as', ?_⟩
      rw [Journey.publish, List.append_assoc] at h'
      exact h'

/-- **The run of the pipeline is one of its courses.** -/
theorem course_run (hagents : (o.registry.select target criteria).agents ≠ []) :
    ∃ as s, o.Course env occasion target criteria w as s
      (o.run env occasion target criteria w).1.journey := by
  have hopened : o.Course env occasion target criteria w [] _ _ := .opened hagents
  obtain ⟨as, hdispatched⟩ := course_proceed (hopened.collecting rfl)
    (Dispatch.actionBound (o.tasks target criteria).length)
  rw [o.run_of_selected env occasion target criteria w (List.isEmpty_eq_false_iff.2 hagents)]
  have hended := Dispatch.isEnded_proceed env occasion.id occasion.cancelAt
    (s := Dispatch.initial (o.config.capacity (o.registry.select target criteria).agents.length)
      occasion.start (o.tasks target criteria)) (DispatchMode.one_le_capacity ..)
    (Dispatch.stepBound_initial_le ..) (o.opened env occasion target criteria w).world
  rw [dispatched, report, Dispatch.dispatch, Journey.withReport]
  -- A cancellation that is seen only now comes after the last turn of a task.
  rcases env.wantsCancel (Dispatch.proceed env occasion.id occasion.cancelAt
    (Dispatch.actionBound (o.tasks target criteria).length) _ _).world with _ | _
  · rw [Bool.or_false]
    exact ⟨as, _, hdispatched.joined rfl hended⟩
  · rw [Bool.or_true]
    have hcancelled := hdispatched.turn .cancel
    rw [Journey.publish, announcement, Option.bind_none, Option.toList_none,
      List.append_nil] at hcancelled
    exact ⟨_, _, hcancelled.joined rfl hended⟩

/-- **No course of a run breaks the ceiling**, whatever the scheduler does, whatever the agents
answer and whenever the run is cancelled.  At no moment are more agents between their start and
their end than the mode and the configuration allow; each selected agent starts at most once, and
has finished once if it has started when the findings are aggregated or the run is aborted; an
agent that is refused neither starts nor finishes, and its result is that it was cancelled.  The
run of the pipeline is one of these courses. -/
theorem courses_respect_ceiling {names : List String}
    (hregistry : Registry.Arises names o.registry) :
    (∀ as s j, o.Course env occasion target criteria w as s j →
      (∀ before, before <+: j.messages →
        ((o.registry.select target criteria).agents.map (·.name)).countP (isUnderWay before) ≤
          match o.config.dispatchMode with
          | .sequential => 1
          | .parallel => max 1 (min (o.registry.select target criteria).agents.length
              o.config.maxConcurrency.toNat)) ∧
      (∀ agent, agent ∉ (o.registry.select target criteria).agents.map (·.name) →
        toldOf agent j.messages = []) ∧
      (∀ d ∈ (o.registry.select target criteria).agents,
        Dispatch.IsSettled d.name (toldOf d.name j.messages) ∨
          toldOf d.name j.messages = [.agentStarted d.name]) ∧
      (∀ before phase after,
        j.messages = before ++ .progress producer occasion.id (.phaseChanged phase) :: after →
        phase = .aggregated ∨ phase = .aborted →
        (∀ d ∈ (o.registry.select target criteria).agents,
          Dispatch.IsSettled d.name (toldOf d.name before)) ∧ ∀ agent, toldOf agent after = []) ∧
      (∀ i, .refuse i ∈ as → ∃ d,
        (o.registry.select target criteria).agents[i]? = some d ∧ toldOf d.name j.messages = [] ∧
          s.tasks[i]?.map (·.2) = some (.ended ⟨d.name, .error .cancelled, 0⟩) ∧
          (j.run.phase.isTerminal = true →
            AnalysisResult.failure d.name 0 .cancelled ∈ j.run.results))) ∧
    ((o.registry.select target criteria).agents ≠ [] → ∃ as s,
      o.Course env occasion target criteria w as s
        (o.run env occasion target criteria w).1.journey) := by
  refine ⟨fun as s j hcourse => ?_, course_run⟩
  have hnodup : ((o.tasks target criteria).map (·.agent)).Nodup :=
    o.map_agent_tasks target criteria ▸
      (Registry.isKeyed_of_arises hregistry).nodup_map_name_select target criteria
  have h := isOrderly_of_course hnodup hcourse
  refine ⟨fun before hbefore => ?_, fun agent hagent => ?_, fun d hd => ?_,
    fun before phase after => h.isSettled, fun i => h.refused_agent⟩
  · have hsparse := h.sparse before hbefore
    rw [h.agents, h.capacity] at hsparse
    exact hsparse
  · exact h.orderly.foreign agent (h.agents.symm ▸ hagent)
  · obtain ⟨p, -, heq, htold⟩ := h.exists_told hd
    have hforms := htold.forms.imp_right And.right
    rw [heq] at hforms
    exact hforms

end Course

/-- Two agents that work one after the other and never come to an end by themselves. -/
def sequentialPair : Orchestrator String Unit Float where
  registry := (({} : Registry String).register { name := "first" } fun _ => "first").register
    { name := "second" } fun _ => "second"
  config := { dispatchMode := .sequential }
  work := fun _ _ => { duration := none, ending := .crash }

theorem select_sequentialPair : sequentialPair.registry.select smallTarget {} =
    ⟨[{ name := "first" }, { name := "second" }], []⟩ := by
  have hfilter : sequentialPair.registry.filter (({} : SelectionCriteria).filterFor smallTarget) =
      [{ name := "first" }, { name := "second" }] :=
    List.mergeSort_of_pairwise (by decide)
  rw [Registry.select, hfilter]
  rfl

/-- The second agent waits while the first one works; the run is cancelled, the second agent is
refused, and the first one is stopped. -/
theorem courses_respect_ceiling_sequentialPair :
    ∃ as s j, sequentialPair.Course {} { id := ⟨"pair"⟩ } smallTarget {} () as s j ∧
      .refuse 1 ∈ as ∧ j.run.phase = .aborted ∧
      (∀ before, before <+: j.messages →
        ["first", "second"].countP (isUnderWay before) ≤ 1) ∧
      toldOf "second" j.messages = [] ∧
      AnalysisResult.failure "second" 0 .cancelled ∈ j.run.results := by
  have hregistry : Registry.Arises ["second", "first"] sequentialPair.registry :=
    (Registry.Arises.empty.register { name := "first" } _).register { name := "second" } _
  have hopened : sequentialPair.Course {} { id := ⟨"pair"⟩ } smallTarget {} () [] _ _ :=
    .opened (by rw [select_sequentialPair]; exact List.cons_ne_nil _ _)
  rw [tasks, select_sequentialPair] at hopened
  have hworking := (hopened.turn (.move (i := 0) rfl (.grant Nat.zero_lt_one))).turn
    (.move (i := 0) rfl .start)
  have hrefused := (hworking.turn .cancel).turn (.move (i := 1) rfl (.refuse rfl))
  have hended := (hrefused.turn (.move (i := 0) rfl (.finish 0 (.error .cancelled) 0))).turn
    (.move (i := 0) rfl (.release _))
  have hjoined := (hended.collecting rfl).joined rfl (by decide)
  obtain ⟨hcourses, -⟩ := courses_respect_ceiling hregistry
  obtain ⟨hceiling, -, -, -, hrefusal⟩ := hcourses _ _ _ hjoined
  have hrefuse : Action.refuse 1 ∈ ([] ++ [Action.grant 0] ++ [.start 0] ++ [.cancel] ++
      [.refuse 1] ++ [.finish 0] ++ [.release 0] : List Action) := by
    decide
  obtain ⟨d, hd, hnone, -, hresult⟩ := hrefusal 1 hrefuse
  rw [select_sequentialPair] at hceiling hd
  obtain rfl := Option.some.inj hd
  exact ⟨_, _, _, hjoined, hrefuse, rfl, hceiling, hnone, hresult rfl⟩

end Orchestrator

end Vigil
