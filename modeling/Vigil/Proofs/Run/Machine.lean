import Mathlib.Data.List.Forall2
import Mathlib.Data.List.Nodup
import Vigil.Run.Dispatch
import Vigil.Run.Permits

/-!
# What a dispatch can do

`Step` lists the steps of the machine that carries out the tasks of a run, each with what it
requires, what it changes and what it announces.  All that a dispatch preserves is proved of single
steps; `proceed_preserves` carries it over to a whole dispatch, whatever the clock, the world
outside and the bound on the number of steps.

* `step_of_apply` -- the machine does nothing that is no step;
* `Pools.exists_draws`, `exists_drawn_proceed` -- the permits that it counts are those of a pool;
* `faithful_step` -- a task has no other outcome than the answer of its own work or a failure;
* `forall₂_answersFor_dispatch` -- so a dispatch gives one such outcome for each task, in order.
-/

namespace Vigil.Dispatch

variable {σ ν : Type}

/-! ## Steps -/

/-- The steps of the machine, with their announcements. -/
inductive Step (s : State ν) : Action → State ν → Option ProgressEvent → Prop where
  | cancel : Step s .cancel { s with cancelled := true } none
  | passTime {time : Nat} (hnow : s.now ≤ time) :
    Step s (.passTime time) { s with now := time } none
  | grant {i : Nat} {t : Task ν} (ht : s.tasks[i]? = some (t, .waiting))
    (hfree : s.heldPermits < s.capacity) (hgoing : s.cancelled = false) :
    Step s (.grant i) (s.setStage i .granted) none
  | refuse {i : Nat} {t : Task ν} (ht : s.tasks[i]? = some (t, .waiting))
    (hcancelled : s.cancelled = true) :
    Step s (.refuse i) (s.setStage i (.ended (cancelledOutcome t 0))) none
  | start {i : Nat} {t : Task ν} (ht : s.tasks[i]? = some (t, .granted)) :
    Step s (.start i) (s.setStage i (.working s.now)) (some (.agentStarted t.agent))
  | finish {i : Nat} {t : Task ν} {since : Nat} (ht : s.tasks[i]? = some (t, .working since))
    (hdue : isDue s t since = true) :
    Step s (.finish i)
      (s.setStage i (.reported (workOutcome t s.cancelled (s.now - since))))
      (some (finishedEvent (workOutcome t s.cancelled (s.now - since))))
  | release {i : Nat} {t : Task ν} {x : Outcome ν} (ht : s.tasks[i]? = some (t, .reported x)) :
    Step s (.release i) (s.setStage i (.ended x)) none

variable {s s' : State ν} {a : Action} {e : Option ProgressEvent}

/-- **The machine does nothing that is no step.** -/
theorem step_of_apply (h : s.apply a = some (s', e)) : Step s a s' e := by
  cases a with
  | cancel =>
    cases h
    exact Step.cancel
  | passTime time =>
    simp only [State.apply] at h
    split at h
    · rename_i hnow
      cases h
      exact Step.passTime hnow
    · cases h
  | grant i =>
    simp only [State.apply] at h
    split at h
    · rename_i ht
      split at h
      · rename_i hcond
        simp only [Bool.and_eq_true, decide_eq_true_eq, Bool.not_eq_true'] at hcond
        cases h
        exact Step.grant ht hcond.1 hcond.2
      · cases h
    · cases h
  | refuse i =>
    simp only [State.apply] at h
    split at h
    · rename_i ht
      split at h
      · rename_i hcancelled
        cases h
        exact Step.refuse ht hcancelled
      · cases h
    · cases h
  | start i =>
    simp only [State.apply] at h
    split at h
    · rename_i ht
      cases h
      exact Step.start ht
    · cases h
  | finish i =>
    simp only [State.apply] at h
    split at h
    · rename_i ht
      split at h
      · rename_i hdue
        cases h
        exact Step.finish ht hdue
      · cases h
    · cases h
  | release i =>
    simp only [State.apply] at h
    split at h
    · rename_i ht
      cases h
      exact Step.release ht
    · cases h

/-- A task that has been given a stage, or one that was there before. -/
theorem mem_tasks_setStage {i : Nat} {t : Task ν} {old stage : Stage ν}
    (ht : s.tasks[i]? = some (t, old)) {p : Task ν × Stage ν}
    (hp : p ∈ (s.setStage i stage).tasks) : p ∈ s.tasks ∨ p = (t, stage) := by
  obtain ⟨j, hj⟩ := List.mem_iff_getElem?.1 hp
  rw [State.setStage, List.getElem?_modify] at hj
  by_cases hij : i = j
  · subst hij
    simp only [ht, if_pos, Option.map_eq_map, Option.map_some, Option.some.injEq] at hj
    exact Or.inr hj.symm
  · simp only [if_neg hij, Option.map_eq_map, Option.map_id_fun', id] at hj
    exact Or.inl (List.mem_of_getElem? hj)

/-- **What every step preserves, a dispatch preserves.** -/
theorem proceed_preserves {I : State ν → Prop}
    (hstep : ∀ {s a s' e}, s.apply a = some (s', e) → I s → I s') (env : Surroundings σ ν)
    (run : RunId) (cancelAt : Option Nat) (n : Nat) {s : State ν} (w : σ) (hs : I s) :
    I (proceed env run cancelAt n s w).state := by
  induction n generalizing s w with
  | zero => exact hs
  | succ n ih =>
    rw [proceed]
    split
    · exact hs
    · rename_i s' e hnext
      obtain ⟨a, -, ha⟩ := Option.bind_eq_some_iff.1 hnext
      exact ih _ (hstep ha hs)

/-- The machine goes from one state to another by these actions. -/
inductive Steps : State ν → List Action → State ν → Prop
  | nil (s : State ν) : Steps s [] s
  | cons {s s' s'' : State ν} {a : Action} {e : Option ProgressEvent} (h : Step s a s' e)
    {as : List Action} (hrest : Steps s' as s'') : Steps s (a :: as) s''

theorem exists_steps_proceed (env : Surroundings σ ν) (run : RunId) (cancelAt : Option Nat)
    (n : Nat) (s : State ν) (w : σ) :
    ∃ as, Steps s as (proceed env run cancelAt n s w).state := by
  induction n generalizing s w with
  | zero => exact ⟨[], .nil s⟩
  | succ n ih =>
    rw [proceed]
    split
    · exact ⟨[], .nil s⟩
    · rename_i s' e hnext
      obtain ⟨a, -, ha⟩ := Option.bind_eq_some_iff.1 hnext
      obtain ⟨as, hsteps⟩ := ih s' (env.observeAll _ w)
      exact ⟨a :: as, .cons (step_of_apply ha) hsteps⟩

/-! ## The pool of permits -/

theorem countP_modify {α : Type} (p : α → Bool) (g : α → α) {l : List α} {i : Nat} {x : α}
    (h : l[i]? = some x) :
    (l.modify i g).countP p + (if p x then 1 else 0) = l.countP p + if p (g x) then 1 else 0 := by
  induction l generalizing i with
  | nil => cases h
  | cons y l ih =>
    cases i with
    | zero =>
      obtain rfl : y = x := Option.some.inj h
      simp only [List.modify_zero_cons, List.countP_cons]
      omega
    | succ i =>
      have hrest := ih (i := i) h
      simp only [List.modify_succ_cons, List.countP_cons]
      omega

theorem heldPermits_setStage {i : Nat} {t : Task ν} {old : Stage ν} (stage : Stage ν)
    (ht : s.tasks[i]? = some (t, old)) :
    (s.setStage i stage).heldPermits + (if old.holdsPermit then 1 else 0) =
      s.heldPermits + if stage.holdsPermit then 1 else 0 :=
  countP_modify (fun p : Task ν × Stage ν => p.2.holdsPermit) (fun p => (p.1, stage)) ht

/-- What an action of the machine asks of a pool of permits, and what it leaves of the pool. -/
inductive Draws (p : Permits) : Action → Permits → Prop
  | cancel : Draws p .cancel p.cancel
  | passTime (time : Nat) : Draws p (.passTime time) p
  | grant (i : Nat) {permit : Nat} {p' : Permits} (h : p.acquire = (.granted permit, p')) :
    Draws p (.grant i) p'
  | refuse (i : Nat) (h : p.acquire = (.cancelled, p)) : Draws p (.refuse i) p
  | start (i : Nat) : Draws p (.start i) p
  | finish (i : Nat) : Draws p (.finish i) p
  | release (i : Nat) {permit : Nat} (h : permit ∈ p.held) : Draws p (.release i) (p.release permit)

/-- The pool is in the state that the machine counts, and no permit of it is held twice. -/
structure Pools (p : Permits) (s : State ν) : Prop where
  capacity : p.capacity = s.capacity
  held : p.held.length = s.heldPermits
  cancelled : p.cancelled = s.cancelled
  nodup : p.held.Nodup
  granted : ∀ permit ∈ p.held, permit < p.granted

theorem pools_initial {capacity : Nat} (hcapacity : 1 ≤ capacity) (now : Nat)
    (tasks : List (Task ν)) : Pools (.ofCapacity capacity) (initial capacity now tasks) where
  capacity := Nat.max_eq_right hcapacity
  held := by
    refine (List.countP_eq_zero.2 fun p hp => ?_).symm
    obtain ⟨t, -, rfl⟩ := List.mem_map.1 hp
    rw [initialStage]
    split <;> exact Bool.false_ne_true
  cancelled := rfl
  nodup := List.nodup_nil
  granted _ hpermit := absurd hpermit List.not_mem_nil

section Pools

variable {p : Permits}

/-- A task that holds a permit before and after a step, or neither, leaves the pool as it is. -/
theorem Pools.setStage (hp : Pools p s) {i : Nat} {t : Task ν} {old stage : Stage ν}
    (ht : s.tasks[i]? = some (t, old)) (hsame : old.holdsPermit = stage.holdsPermit) :
    Pools p (s.setStage i stage) := by
  have hcount := heldPermits_setStage stage ht
  rw [hsame] at hcount
  exact ⟨hp.capacity, hp.held.trans (Nat.add_right_cancel hcount).symm, hp.cancelled, hp.nodup,
    hp.granted⟩

/-- **The machine deals with permits as a pool does.**  It grants and refuses one where the pool
does, and gives back one that is held. -/
theorem Pools.exists_draws (hp : Pools p s) (h : Step s a s' e) :
    ∃ p', Draws p a p' ∧ Pools p' s' := by
  cases h with
  | cancel => exact ⟨_, .cancel, hp.capacity, hp.held, rfl, hp.nodup, hp.granted⟩
  | passTime _ =>
    exact ⟨p, .passTime _, hp.capacity, hp.held, hp.cancelled, hp.nodup, hp.granted⟩
  | grant ht hfree hgoing =>
    have hacquire : p.acquire = (.granted p.granted,
        { p with held := p.held ++ [p.granted], granted := p.granted + 1 }) := by
      rw [Permits.acquire, hp.cancelled, hgoing, if_neg Bool.false_ne_true, hp.held, hp.capacity,
        if_pos hfree]
    have hcount := heldPermits_setStage .granted ht
    simp only [Stage.holdsPermit, Bool.false_eq_true, if_false, if_true, Nat.add_zero] at hcount
    refine ⟨_, .grant _ hacquire, hp.capacity, ?_, hp.cancelled, ?_, fun permit hpermit => ?_⟩
    · rw [List.length_append, hp.held, hcount, List.length_singleton]
    · exact List.nodup_append.2 ⟨hp.nodup, List.nodup_singleton _, fun x hx y hy => by
        rw [List.mem_singleton.1 hy]
        exact Nat.ne_of_lt (hp.granted x hx)⟩
    · rcases List.mem_append.1 hpermit with hold | hnew
      · exact Nat.lt_succ_of_lt (hp.granted permit hold)
      · rw [List.mem_singleton.1 hnew]
        exact Nat.lt_succ_self _
  | refuse ht hcancelled =>
    have hacquire : p.acquire = (.cancelled, p) := by
      rw [Permits.acquire, hp.cancelled, if_pos hcancelled]
    exact ⟨p, .refuse _ hacquire, hp.setStage ht rfl⟩
  | start ht => exact ⟨p, .start _, hp.setStage ht rfl⟩
  | finish ht _ => exact ⟨p, .finish _, hp.setStage ht rfl⟩
  | release ht =>
    rename_i i t x
    have hcount := heldPermits_setStage (.ended x) ht
    simp only [Stage.holdsPermit, Bool.false_eq_true, if_false, if_true, Nat.add_zero] at hcount
    have hne : p.held ≠ [] := by
      rw [← List.length_pos_iff, hp.held]
      omega
    obtain ⟨permit, hpermit⟩ := List.exists_mem_of_ne_nil _ hne
    have hrelease : (p.release permit).held = p.held.erase permit :=
      (hp.nodup.erase_eq_filter permit).symm
    refine ⟨_, .release _ hpermit, hp.capacity, ?_, hp.cancelled, ?_, fun other hother => ?_⟩
    · have hlength := List.length_erase_of_mem hpermit
      rw [hrelease, hlength, hp.held]
      omega
    · rw [hrelease]
      exact hp.nodup.erase permit
    · exact hp.granted other (List.mem_of_mem_filter hother)

/-- Whether a waiting task goes on is what the pool answers. -/
theorem Pools.admission?_eq (hp : Pools p s) (i : Nat) :
    admission? s i = match p.acquire.1 with
      | .granted _ => some (.grant i)
      | .cancelled => some (.refuse i)
      | .waits => none := by
  rw [admission?, Permits.acquire, hp.cancelled, hp.held, hp.capacity]
  split
  · rfl
  · split <;> rfl

/-- No action draws more permits from a pool than there are. -/
theorem Draws.held_le {p' : Permits} (h : Draws p a p') (hp : p.held.length ≤ p.capacity) :
    p'.held.length ≤ p'.capacity := by
  cases h with
  | grant _ h =>
    have hle := Permits.held_acquire_le hp
    rwa [h] at hle
  | release _ _ => exact Nat.le_trans (List.length_filter_le _ _) hp
  | _ => exact hp

/-- What some actions, one after the other, leave of a pool of permits. -/
inductive Drawn : Permits → List Action → Permits → Prop
  | nil (p : Permits) : Drawn p [] p
  | cons {p p' p'' : Permits} {a : Action} (h : Draws p a p') {as : List Action}
    (hrest : Drawn p' as p'') : Drawn p (a :: as) p''

theorem Steps.exists_drawn {as : List Action} (h : Steps s as s') (hp : Pools p s)
    (hle : p.held.length ≤ p.capacity) :
    ∃ p', Drawn p as p' ∧ Pools p' s' ∧ p'.held.length ≤ p'.capacity := by
  induction h generalizing p with
  | nil => exact ⟨p, .nil p, hp, hle⟩
  | cons h _ ih =>
    obtain ⟨p', hdraws, hp'⟩ := hp.exists_draws h
    obtain ⟨p'', hdrawn, hlast⟩ := ih hp' (hdraws.held_le hle)
    exact ⟨p'', .cons hdraws hdrawn, hlast⟩

end Pools

/-- **A dispatch draws its permits from one pool**, and never more of them than there are. -/
theorem exists_drawn_proceed (env : Surroundings σ ν) (run : RunId) (cancelAt : Option Nat)
    {capacity : Nat} (hcapacity : 1 ≤ capacity) (now : Nat) (tasks : List (Task ν)) (n : Nat)
    (w : σ) :
    ∃ as p, Steps (initial capacity now tasks) as
        (proceed env run cancelAt n (initial capacity now tasks) w).state ∧
      Drawn (.ofCapacity capacity) as p ∧
      Pools p (proceed env run cancelAt n (initial capacity now tasks) w).state ∧
      p.held.length ≤ p.capacity := by
  obtain ⟨as, hsteps⟩ := exists_steps_proceed env run cancelAt n (initial capacity now tasks) w
  obtain ⟨p, hdrawn, hp, hle⟩ :=
    hsteps.exists_drawn (pools_initial hcapacity now tasks) (Nat.zero_le _)
  exact ⟨as, p, hsteps, hdrawn, hp, hle⟩

/-! ## Outcomes -/

/-- The outcome is that of the task: if it holds records, they are the answer of the task's own
work, given in time. -/
structure AnswersFor (t : Task ν) (x : Outcome ν) : Prop where
  agent : x.agent = t.agent
  answer : ∀ raw, x.result = .ok raw →
    ∃ w, t.work = some w ∧ t.isTimely w = true ∧ w.ending = .answer (.ok raw)

theorem answersFor_of_error {t : Task ν} (e : AgentError) (duration : Nat) :
    AnswersFor t ⟨t.agent, .error e, duration⟩ :=
  ⟨rfl, fun _ h => by cases h⟩

theorem answersFor_workOutcome (t : Task ν) (cancelled : Bool) (duration : Nat) :
    AnswersFor t (workOutcome t cancelled duration) := by
  unfold workOutcome
  split
  · exact answersFor_of_error _ _
  · rename_i w hw
    split
    · exact answersFor_of_error _ _
    · refine ⟨rfl, fun raw h => ⟨w, hw, ?_⟩⟩
      simp only [Task.answer] at h
      split at h
      · rename_i htimely
        split at h
        · rename_i result hending
          exact ⟨htimely, by rw [hending, h]⟩
        · cases h
      · cases h

/-- The task has no outcome that is not its own. -/
def Faithful (p : Task ν × Stage ν) : Prop :=
  ∀ x, p.2.outcome? = some x → AnswersFor p.1 x

theorem faithful_initial (t : Task ν) : Faithful (t, initialStage t) := by
  intro x hx
  simp only [initialStage] at hx
  split at hx
  · obtain rfl := Option.some.inj hx
    exact answersFor_of_error _ _
  · cases hx

/-- **A step gives no task an outcome that is not its own.** -/
theorem faithful_step (h : Step s a s' e) (hs : ∀ p ∈ s.tasks, Faithful p) :
    ∀ p ∈ s'.tasks, Faithful p := by
  -- Only the stage that the step sets has to be looked at.
  have hset {i : Nat} {t : Task ν} {old stage : Stage ν} (ht : s.tasks[i]? = some (t, old))
      (hstage : Faithful (t, stage)) : ∀ p ∈ (s.setStage i stage).tasks, Faithful p := by
    intro p hp
    rcases mem_tasks_setStage ht hp with hp | rfl
    · exact hs p hp
    · exact hstage
  cases h with
  | cancel => exact hs
  | passTime _ => exact hs
  | grant ht _ _ => exact hset ht fun x hx => by cases hx
  | refuse ht _ =>
    refine hset ht fun x hx => ?_
    obtain rfl := Option.some.inj hx
    exact answersFor_of_error _ _
  | start ht => exact hset ht fun x hx => by cases hx
  | finish ht _ =>
    refine hset ht fun x hx => ?_
    obtain rfl := Option.some.inj hx
    exact answersFor_workOutcome _ _ _
  | release ht =>
    refine hset ht fun x hx => ?_
    exact hs _ (List.mem_of_getElem? ht) x hx

theorem answersFor_outcomeOf {p : Task ν × Stage ν} (h : Faithful p) :
    AnswersFor p.1 (outcomeOf p) := by
  unfold outcomeOf
  rcases hx : p.2.outcome? with _ | x
  · exact answersFor_of_error _ _
  · exact h x hx

/-- **A dispatch gives one outcome for each task**, in the order of the tasks, and no records but
those that the work of the task has given. -/
theorem forall₂_answersFor_dispatch (env : Surroundings σ ν) (run : RunId) (capacity : Nat)
    (cancelAt : Option Nat) (now : Nat) (tasks : List (Task ν)) (w : σ) :
    List.Forall₂ AnswersFor tasks
      (dispatch env run capacity cancelAt now tasks w).outcomes := by
  have htasks := proceed_preserves (I := fun s => s.tasks.map (·.1) = tasks)
    (fun h hs => (tasks_apply h).trans hs) env run cancelAt (actionBound tasks.length)
    (s := initial capacity now tasks) w (by simp [initial, Function.comp_def])
  have hfaithful := proceed_preserves (I := fun s => ∀ p ∈ s.tasks, Faithful p)
    (fun h => faithful_step (step_of_apply h)) env run cancelAt (actionBound tasks.length)
    (s := initial capacity now tasks) w (by
      intro p hp
      obtain ⟨t, -, rfl⟩ := List.mem_map.1 hp
      exact faithful_initial t)
  rw [dispatch]
  conv => arg 2; rw [← htasks]
  rw [List.forall₂_map_left_iff, List.forall₂_map_right_iff, List.forall₂_same]
  exact fun p hp => answersFor_outcomeOf (hfaithful p hp)

end Vigil.Dispatch
