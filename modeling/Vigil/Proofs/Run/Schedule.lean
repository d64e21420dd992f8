import Mathlib.Data.List.Nodup
import Vigil.Proofs.Run.Endings

/-!
# Tasks in any order

The clock of a dispatch chooses one order of steps.  A scheduler may choose any other, an agent may
answer at any time and in any way, and a cancellation may come between any two steps; it may even
come while a waiting task, which has just seen that there is none, gets its permit.  `Turn` allows
all of this: of the machine it keeps which step of a task follows which, and that no more permits
are held than there are.

* `turn_of_step` -- the steps of the machine are among these;
* `Told` -- what an agent has announced depends on the stage of its task only;
* `exists_turn` -- no order of turns is stuck before all tasks have ended;
* `Orderly.turn` -- every turn keeps this, and the bound on permits;
* `Orderly.countP_isUnderWay_le` -- **the ceiling**: no more agents are between their two
  announcements than there are permits.
-/

namespace Vigil

variable {σ ν : Type}

/-! ## What messages tell of an agent -/

namespace ProgressEvent

/-- Does an agent start here? -/
def isStart : ProgressEvent → Bool
  | agentStarted _ => true
  | _ => false

/-- Has an agent finished here? -/
def isFinish : ProgressEvent → Bool
  | agentFinished .. => true
  | _ => false

end ProgressEvent

/-- What messages tell of an agent, in order. -/
def toldOf (agent : String) (ms : List (Message ν)) : List ProgressEvent :=
  (ms.filterMap fun m => m.payload.progress?.map (·.2)).filter fun e => e.agent? == some agent

/-- Has the agent started, and not yet finished, as far as messages tell? -/
def isUnderWay (ms : List (Message ν)) (agent : String) : Bool :=
  (toldOf agent ms).any (·.isStart) && !(toldOf agent ms).any (·.isFinish)

theorem toldOf_append (agent : String) (ms ms' : List (Message ν)) :
    toldOf agent (ms ++ ms') = toldOf agent ms ++ toldOf agent ms' := by
  rw [toldOf, List.filterMap_append, List.filter_append]
  rfl

/-- Messages that concern no agent tell of none. -/
theorem toldOf_eq_nil {ms : List (Message ν)}
    (h : ∀ m ∈ ms, ∀ p, m.payload.progress? = some p → p.2.agent? = none) (agent : String) :
    toldOf agent ms = [] := by
  refine List.filter_eq_nil_iff.2 fun e he => ?_
  obtain ⟨m, hm, hme⟩ := List.mem_filterMap.1 he
  obtain ⟨p, hp, rfl⟩ := Option.map_eq_some_iff.1 hme
  rw [h m hm p hp]
  exact Bool.false_ne_true

theorem toldOf_eq_nil_of_earlier {ms before : List (Message ν)} {agent : String}
    (h : before <+: ms) (hms : toldOf agent ms = []) : toldOf agent before = [] := by
  obtain ⟨rest, rfl⟩ := h
  rw [toldOf_append] at hms
  exact (List.append_eq_nil_iff.1 hms).1

/-- What adds nothing about an agent leaves it where it was. -/
theorem isUnderWay_append_of_eq_nil {ms ms' : List (Message ν)} {agent : String}
    (h : toldOf agent ms' = []) : isUnderWay (ms ++ ms') agent = isUnderWay ms agent := by
  rw [isUnderWay, toldOf_append, h, List.append_nil]
  rfl

namespace Dispatch

/-- The message that announces a step, if it concerns an agent. -/
def announcement (run : RunId) (e : Option ProgressEvent) : List (Message ν) :=
  (e.bind fun e => e.agent?.map fun a => Message.progress a run e).toList

theorem toldOf_announcement (run : RunId) {e : Option ProgressEvent} {agent : String}
    (h : ∀ x ∈ e, x.agent? = some agent) :
    toldOf agent (announcement run e : List (Message ν)) = e.toList := by
  cases e with
  | none => rfl
  | some x =>
    rw [announcement, Option.bind_some, h x rfl]
    exact List.filter_cons_of_pos (beq_iff_eq.2 (h x rfl))

theorem toldOf_announcement_of_ne (run : RunId) {e : Option ProgressEvent} {agent : String}
    (h : ∀ x ∈ e, x.agent? ≠ some agent) :
    toldOf agent (announcement run e : List (Message ν)) = [] := by
  cases e with
  | none => rfl
  | some x =>
    rw [announcement, Option.bind_some]
    cases hx : x.agent? with
    | none => rfl
    | some other => exact List.filter_cons_of_neg (fun heq => h x rfl (beq_iff_eq.1 heq))

/-- An announcement is one message or none. -/
theorem prefix_announcement {run : RunId} {e : Option ProgressEvent} {ms before : List (Message ν)}
    (h : before <+: ms ++ announcement run e) :
    before <+: ms ∨ before = ms ++ announcement run e := by
  revert h
  rw [announcement]
  cases e.bind fun e => e.agent?.map fun a => (Message.progress a run e : Message ν) with
  | none =>
    intro h
    exact Or.inl (by rwa [Option.toList_none, List.append_nil] at h)
  | some m =>
    intro h
    exact (List.prefix_concat_iff.1 h).symm

/-- An announcement tells of no phase. -/
theorem tells_announcement (run : RunId) (e : Option ProgressEvent) :
    Tells run (announcement run e : List (Message ν)) [] := by
  cases e with
  | none => exact tells_nil
  | some e =>
    cases e with
    | agentStarted agent => exact tells_progress agent rfl
    | agentFinished agent _ _ _ => exact tells_progress agent rfl
    | _ => exact tells_nil

/-! ## Turns -/

/-- The steps of one task, from stage to stage, with their announcements.  A permit is granted also
after a cancellation, if the task has looked for one just before it came; the work of an agent may
end at any time and with any result, be it an answer, a panic, a time-out or a stop. -/
inductive Move (s : State ν) (t : Task ν) (i : Nat) :
    Action → Stage ν → Stage ν → Option ProgressEvent → Prop where
  | grant (hfree : s.heldPermits < s.capacity) : Move s t i (.grant i) .waiting .granted none
  | refuse (hcancelled : s.cancelled = true) :
    Move s t i (.refuse i) .waiting (.ended (cancelledOutcome t 0)) none
  | start : Move s t i (.start i) .granted (.working s.now) (some (.agentStarted t.agent))
  | finish (since : Nat) (result : Except AgentError (List (RawFinding ν))) (duration : Nat) :
    Move s t i (.finish i) (.working since) (.reported ⟨t.agent, result, duration⟩)
      (some (finishedEvent ⟨t.agent, result, duration⟩))
  | release (x : Outcome ν) : Move s t i (.release i) (.reported x) (.ended x) none

/-- What may happen next: the run is cancelled, time passes, or one task makes a step. -/
inductive Turn (s : State ν) : Action → State ν → Option ProgressEvent → Prop where
  | cancel : Turn s .cancel { s with cancelled := true } none
  | passTime {time : Nat} : Turn s (.passTime time) { s with now := time } none
  | move {i : Nat} {t : Task ν} {a : Action} {old stage : Stage ν} {e : Option ProgressEvent}
    (ht : s.tasks[i]? = some (t, old)) (h : Move s t i a old stage e) :
    Turn s a (s.setStage i stage) e

section Steps

variable {s s' : State ν} {a : Action} {e : Option ProgressEvent} {t : Task ν} {i : Nat}
  {old stage : Stage ν}

theorem agent_workOutcome (t : Task ν) (cancelled : Bool) (duration : Nat) :
    (workOutcome t cancelled duration).agent = t.agent :=
  (answersFor_workOutcome t cancelled duration).agent

/-- **Each step of the machine is a turn.** -/
theorem turn_of_step (h : Step s a s' e) : Turn s a s' e := by
  cases h with
  | cancel => exact .cancel
  | passTime _ => exact .passTime
  | grant ht hfree _ => exact .move ht (.grant hfree)
  | refuse ht hcancelled => exact .move ht (.refuse hcancelled)
  | start ht => exact .move ht .start
  | @finish i t since ht _ =>
    have hmove := Move.finish (s := s) (t := t) (i := i) since
      (workOutcome t s.cancelled (s.now - since)).result
      (workOutcome t s.cancelled (s.now - since)).duration
    rw [← agent_workOutcome t s.cancelled (s.now - since)] at hmove
    exact .move ht hmove
  | release ht => exact .move ht (.release _)

/-- A task announces nothing of another agent. -/
theorem Move.agent?_eq (h : Move s t i a old stage e) : ∀ x ∈ e, x.agent? = some t.agent := by
  intro x hx
  cases h with
  | start =>
    cases hx
    rfl
  | finish since result duration =>
    cases hx
    rfl
  | _ => cases hx

end Steps

/-! ## What a task has announced -/

/-- What the agent of a task has announced when the task stands at a stage.  A task that has ended
without an announcement was refused, or had no agent. -/
inductive Told (t : Task ν) : Stage ν → List ProgressEvent → Prop where
  | waiting : Told t .waiting []
  | granted : Told t .granted []
  | working (since : Nat) : Told t (.working since) [.agentStarted t.agent]
  | reported {x : Outcome ν} (hx : x.agent = t.agent) :
    Told t (.reported x) [.agentStarted t.agent, finishedEvent x]
  | ended {x : Outcome ν} (hx : x.agent = t.agent) :
    Told t (.ended x) [.agentStarted t.agent, finishedEvent x]
  | refused : Told t (.ended (cancelledOutcome t 0)) []
  | unregistered : Told t (.ended ⟨t.agent, .error t.unregistered, 0⟩) []

/-- The agent of these steps has not started, or it has started and finished. -/
def IsSettled (agent : String) (es : List ProgressEvent) : Prop :=
  es = [] ∨ ∃ status durationMs rawFindings,
    es = [.agentStarted agent, .agentFinished agent status durationMs rawFindings]

section Told

variable {s : State ν} {t : Task ν} {i : Nat} {a : Action} {old stage : Stage ν}
  {e : Option ProgressEvent} {es : List ProgressEvent}

theorem told_initialStage (t : Task ν) : Told t (initialStage t) [] := by
  rw [initialStage]
  split
  · exact .unregistered
  · exact .waiting

/-- **A step of a task adds what belongs to its next stage.** -/
theorem Told.move (h : Told t old es) (hmove : Move s t i a old stage e) :
    Told t stage (es ++ e.toList) := by
  cases hmove with
  | grant _ =>
    cases h
    exact .granted
  | refuse _ =>
    cases h
    exact .refused
  | start =>
    cases h
    exact .working _
  | finish since result duration =>
    cases h
    exact .reported rfl
  | release x =>
    cases h with
    | reported hx => exact .ended hx

/-- An agent is settled, or its task works and it has started. -/
theorem Told.forms (h : Told t stage es) :
    IsSettled t.agent es ∨ stage.isWorking = true ∧ es = [.agentStarted t.agent] := by
  cases h with
  | working since => exact Or.inr ⟨rfl, rfl⟩
  | reported hx => exact Or.inl (Or.inr ⟨_, _, _, by rw [finishedEvent, hx]⟩)
  | ended hx => exact Or.inl (Or.inr ⟨_, _, _, by rw [finishedEvent, hx]⟩)
  | _ => exact Or.inl (Or.inl rfl)

theorem Told.isSettled (h : Told t stage es) (hended : stage.isEnded = true) :
    IsSettled t.agent es := by
  rcases h.forms with hsettled | ⟨hworking, -⟩
  · exact hsettled
  · cases stage with
    | ended x => cases hworking
    | _ => cases hended

/-- A task works just while its agent is under way. -/
theorem Told.isUnderWay_eq {ms : List (Message ν)} (h : Told t stage (toldOf t.agent ms)) :
    isUnderWay ms t.agent = stage.isWorking := by
  rw [isUnderWay]
  generalize toldOf t.agent ms = es at h
  cases h <;> rfl

end Told

/-- The task with its new stage. -/
theorem getElem?_setStage {s : State ν} {i : Nat} {t : Task ν} {old : Stage ν}
    (ht : s.tasks[i]? = some (t, old)) (stage : Stage ν) :
    (s.setStage i stage).tasks[i]? = some (t, stage) := by
  rw [State.setStage, List.getElem?_modify_eq, ht]
  rfl

/-! ## Permits -/

theorem workingAgents_le_heldPermits (s : State ν) : s.workingAgents ≤ s.heldPermits := by
  refine List.countP_mono_left fun p _ hp => ?_
  cases hstage : p.2 with
  | working since => rfl
  | _ =>
    rw [hstage] at hp
    cases hp

/-- **A turn takes a permit only if one is free.** -/
theorem Turn.heldPermits_le {s s' : State ν} {a : Action} {e : Option ProgressEvent}
    (h : Turn s a s' e) (hs : s.heldPermits ≤ s.capacity) : s'.heldPermits ≤ s'.capacity := by
  cases h with
  | cancel => exact hs
  | passTime => exact hs
  | @move i t _ old stage _ ht hmove =>
    have hheld := heldPermits_setStage stage ht
    show (s.setStage i stage).heldPermits ≤ s.capacity
    cases hmove with
    | grant hfree =>
      simp only [Stage.holdsPermit, Bool.false_eq_true, if_false, if_true] at hheld
      omega
    | _ =>
      simp only [Stage.holdsPermit, Bool.false_eq_true, if_false, if_true] at hheld
      omega

/-- A task that holds a permit can always make its next step. -/
theorem exists_move_of_holdsPermit (s : State ν) (t : Task ν) (i : Nat) {old : Stage ν}
    (h : old.holdsPermit = true) : ∃ a stage e, Move s t i a old stage e := by
  cases old with
  | granted => exact ⟨_, _, _, .start⟩
  | working since => exact ⟨_, _, _, .finish since (.error .cancelled) 0⟩
  | reported x => exact ⟨_, _, _, .release x⟩
  | _ => cases h

/-- **No schedule is stuck before all tasks have ended**: a waiting task gets a permit, or some task
that holds one goes on. -/
theorem exists_turn {s : State ν} (hcapacity : 1 ≤ s.capacity) {p : Task ν × Stage ν}
    (hp : p ∈ s.tasks) (hgoing : p.2.isEnded = false) :
    ∃ i t a old stage e, s.tasks[i]? = some (t, old) ∧ Move s t i a old stage e := by
  have hholder : p.2 = .waiting ∧ s.heldPermits < s.capacity ∨
      ∃ q ∈ s.tasks, q.2.holdsPermit = true := by
    cases hstage : p.2 with
    | waiting =>
      refine (Nat.lt_or_ge s.heldPermits s.capacity).imp (fun hfree => ⟨rfl, hfree⟩) fun hall => ?_
      exact List.countP_pos_iff.1 (Nat.lt_of_lt_of_le hcapacity hall)
    | ended x =>
      rw [hstage] at hgoing
      cases hgoing
    | _ => exact Or.inr ⟨p, hp, hstage ▸ rfl⟩
  rcases hholder with ⟨hwaiting, hfree⟩ | ⟨q, hq, hholds⟩
  · obtain ⟨i, hi⟩ := List.mem_iff_getElem?.1 hp
    exact ⟨i, p.1, _, _, _, _, hwaiting ▸ hi, .grant hfree⟩
  · obtain ⟨i, hi⟩ := List.mem_iff_getElem?.1 hq
    obtain ⟨a, stage, e, hmove⟩ := exists_move_of_holdsPermit s q.1 i hholds
    exact ⟨i, q.1, a, q.2, stage, e, hi, hmove⟩

/-! ## The invariant -/

/-- The agents differ, no more permits are held than there are, and each agent has announced what
belongs to the stage of its task; no other agent has announced anything. -/
structure Orderly (s : State ν) (ms : List (Message ν)) : Prop where
  nodup : (s.tasks.map (·.1.agent)).Nodup
  held : s.heldPermits ≤ s.capacity
  told : ∀ p ∈ s.tasks, Told p.1 p.2 (toldOf p.1.agent ms)
  foreign : ∀ agent, agent ∉ s.tasks.map (·.1.agent) → toldOf agent ms = []

section Orderly

variable {s s' : State ν} {a : Action} {e : Option ProgressEvent} {ms ms' : List (Message ν)}

theorem orderly_initial (capacity now : Nat) {tasks : List (Task ν)}
    (hnodup : (tasks.map (·.agent)).Nodup) (hms : ∀ agent, toldOf agent ms = []) :
    Orderly (initial capacity now tasks) ms where
  nodup := by
    rw [initial, List.map_map]
    exact hnodup
  held := by
    have hnone : (initial capacity now tasks).heldPermits = 0 := by
      refine List.countP_eq_zero.2 fun p hp => ?_
      obtain ⟨t, -, rfl⟩ := List.mem_map.1 hp
      rw [initialStage]
      split <;> exact Bool.false_ne_true
    exact hnone ▸ Nat.zero_le _
  told p hp := by
    obtain ⟨t, -, rfl⟩ := List.mem_map.1 hp
    exact (hms t.agent).symm ▸ told_initialStage t
  foreign agent _ := hms agent

/-- Messages that concern no agent may come in between. -/
theorem Orderly.append (h : Orderly s ms) (hms : ∀ agent, toldOf agent ms' = []) :
    Orderly s (ms ++ ms') where
  nodup := h.nodup
  held := h.held
  told p hp := by
    rw [toldOf_append, hms, List.append_nil]
    exact h.told p hp
  foreign agent hagent := by
    rw [toldOf_append, hms, List.append_nil]
    exact h.foreign agent hagent

theorem tasks_turn (h : Turn s a s' e) : s'.tasks.map (·.1) = s.tasks.map (·.1) := by
  cases h with
  | cancel => rfl
  | passTime => rfl
  | @move i t _ old stage _ ht _ => exact tasks_setStage s i stage

theorem agents_turn (h : Turn s a s' e) :
    s'.tasks.map (·.1.agent) = s.tasks.map (·.1.agent) := by
  have hagents := congrArg (List.map Task.agent) (tasks_turn h)
  rw [List.map_map, List.map_map] at hagents
  exact hagents

theorem capacity_turn (h : Turn s a s' e) : s'.capacity = s.capacity := by
  cases h <;> rfl

/-- When all tasks have ended, no turn changes them or announces anything. -/
theorem Turn.eq_of_isEnded (h : Turn s a s' e) (hended : ∀ p ∈ s.tasks, p.2.isEnded = true) :
    s'.tasks = s.tasks ∧ e = none := by
  cases h with
  | cancel => exact ⟨rfl, rfl⟩
  | passTime => exact ⟨rfl, rfl⟩
  | @move i t _ old stage _ ht hmove =>
    have hold := hended _ (List.mem_of_getElem? ht)
    cases hmove <;> cases hold

/-- **Every turn keeps the order.** -/
theorem Orderly.turn (h : Orderly s ms) (hturn : Turn s a s' e) (run : RunId) :
    Orderly s' (ms ++ announcement run e) := by
  have hnodup' : (s'.tasks.map (·.1.agent)).Nodup := agents_turn hturn ▸ h.nodup
  have hheld := hturn.heldPermits_le h.held
  have hagents := agents_turn hturn
  cases hturn with
  | cancel =>
    have hsame : Orderly s (ms ++ announcement run none) := h.append fun _ => rfl
    exact ⟨hnodup', hheld, hsame.told, hsame.foreign⟩
  | passTime =>
    have hsame : Orderly s (ms ++ announcement run none) := h.append fun _ => rfl
    exact ⟨hnodup', hheld, hsame.told, hsame.foreign⟩
  | @move i t _ old stage _ ht hmove =>
    have hother {agent : String} (hne : agent ≠ t.agent) :
        toldOf agent (ms ++ announcement run e) = toldOf agent ms := by
      rw [toldOf_append, toldOf_announcement_of_ne run, List.append_nil]
      intro x hx heq
      exact hne (Option.some.inj (heq.symm.trans (hmove.agent?_eq x hx)))
    refine ⟨hnodup', hheld, fun p hp => ?_, fun agent hagent => ?_⟩
    · by_cases heq : p.1.agent = t.agent
      · -- The task that has moved is the only one of its agent.
        have hmoved := List.mem_of_getElem? (getElem?_setStage ht stage)
        obtain rfl : p = (t, stage) := List.inj_on_of_nodup_map hnodup' hp hmoved heq
        rw [toldOf_append, toldOf_announcement run hmove.agent?_eq]
        exact (h.told _ (List.mem_of_getElem? ht)).move hmove
      · rw [hother heq]
        rcases mem_tasks_setStage ht hp with hp | rfl
        · exact h.told p hp
        · exact absurd rfl heq
    · rw [hagents] at hagent
      have hne : agent ≠ t.agent := by
        rintro rfl
        exact hagent (List.mem_map_of_mem (List.mem_of_getElem? ht))
      exact (hother hne).trans (h.foreign agent hagent)

/-- **The ceiling**: no more agents are under way than there are permits. -/
theorem Orderly.countP_isUnderWay_le (h : Orderly s ms) :
    (s.tasks.map (·.1.agent)).countP (isUnderWay ms) ≤ s.capacity := by
  have hworking : (s.tasks.map (·.1.agent)).countP (isUnderWay ms) = s.workingAgents := by
    rw [List.countP_map]
    refine List.countP_congr fun p hp => ?_
    rw [Function.comp_apply, (h.told p hp).isUnderWay_eq]
  rw [hworking]
  exact (workingAgents_le_heldPermits s).trans h.held

/-- A task that has ended stays as it is, and its agent announces nothing more. -/
theorem Orderly.getElem?_turn (h : Orderly s ms) (hturn : Turn s a s' e) (run : RunId) {j : Nat}
    {u : Task ν} {x : Outcome ν} (hu : s.tasks[j]? = some (u, .ended x)) :
    s'.tasks[j]? = some (u, .ended x) ∧
      toldOf u.agent (announcement run e : List (Message ν)) = [] := by
  cases hturn with
  | cancel => exact ⟨hu, rfl⟩
  | passTime => exact ⟨hu, rfl⟩
  | @move i t _ old stage _ ht hmove =>
    have hne : i ≠ j := by
      rintro rfl
      rw [ht] at hu
      cases hu
      cases hmove
    refine ⟨(List.getElem?_modify_ne _ _ hne).trans hu,
      toldOf_announcement_of_ne run fun y hy hagent => hne ?_⟩
    -- Otherwise two tasks would have one agent.
    have heq : t.agent = u.agent := Option.some.inj ((hmove.agent?_eq y hy).symm.trans hagent)
    have hlt : i < (s.tasks.map (·.1.agent)).length := by
      rw [List.length_map]
      exact (List.getElem?_eq_some_iff.1 ht).1
    refine (List.getElem?_inj hlt h.nodup).1 ?_
    rw [List.getElem?_map, List.getElem?_map, ht, hu, Option.map_some, Option.map_some, heq]

/-- **A task that is refused ends as cancelled**, and its agent has announced nothing. -/
theorem Orderly.refuse (h : Orderly s ms) {i : Nat} (hturn : Turn s (.refuse i) s' e)
    (run : RunId) : ∃ t, s'.tasks[i]? = some (t, .ended (cancelledOutcome t 0)) ∧
      toldOf t.agent (ms ++ announcement run e) = [] := by
  cases hturn with
  | @move i t _ old stage _ ht hmove =>
    cases hmove with
    | refuse _ =>
      refine ⟨t, getElem?_setStage ht _, ?_⟩
      have htold := h.told _ (List.mem_of_getElem? ht)
      have hsilent : toldOf t.agent ms = [] := by
        generalize toldOf t.agent ms = es at htold
        cases htold
        rfl
      rw [toldOf_append, hsilent]
      rfl

end Orderly

end Dispatch

end Vigil
