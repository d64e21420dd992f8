import Mathlib.Algebra.Group.Action.Defs
import Mathlib.Algebra.Order.BigOperators.Group.List
import Mathlib.Algebra.Order.Ring.Nat
import Vigil.Proofs.Run.Machine

/-!
# A dispatch ends all its tasks

The machine of a dispatch stops when no step is chosen any more, and the number of its steps is
bounded beforehand.  Neither of the two leaves a task on its way:

* `exists_step` -- as long as a task has not ended, a step is chosen, and it is possible;
* `stepBound_lt` -- each step that is chosen uses up some of the steps that are left
  (`stepBound`), also if it only lets time pass or cancels the run;
* `forall₂_ended_dispatch` -- **the main result**: when a dispatch is over every task has ended,
  and the outcomes that it reports are those with which the tasks have ended;
* `decided_step`, `forall₂_decided_dispatch` -- each of them comes to what its work comes to, unless
  it is cancelled.
-/

namespace Vigil

variable {σ ν : Type}

/-- What a task may come to, in a run that was cancelled or not. -/
inductive Task.ComesTo (t : Task ν) (cancelled : Bool) :
    Except AgentError (List (RawFinding ν)) → Prop
  | unregistered (hwork : t.work = none) : ComesTo t cancelled (.error t.unregistered)
  /-- The agent gives an answer in time, be it records or an error. -/
  | answered {w : Work ν} (hwork : t.work = some w) (htimely : t.isTimely w = true)
    {result : Except AgentError (List (RawFinding ν))} (hending : w.ending = .answer result) :
    ComesTo t cancelled result
  | crashed {w : Work ν} (hwork : t.work = some w) (htimely : t.isTimely w = true)
    (hending : w.ending = .crash) :
    ComesTo t cancelled (.error (.execution s!"agent '{t.agent}' panicked"))
  | late {w : Work ν} (hwork : t.work = some w) (htimely : t.isTimely w = false) :
    ComesTo t cancelled (.error t.timeoutError)
  | interrupted (h : cancelled = true) : ComesTo t cancelled (.error .cancelled)

theorem Task.ComesTo.mono {t : Task ν} {cancelled later : Bool}
    {result : Except AgentError (List (RawFinding ν))} (h : t.ComesTo cancelled result)
    (himp : cancelled = true → later = true) : t.ComesTo later result := by
  cases h with
  | unregistered hwork => exact .unregistered hwork
  | answered hwork htimely hending => exact .answered hwork htimely hending
  | crashed hwork htimely hending => exact .crashed hwork htimely hending
  | late hwork htimely => exact .late hwork htimely
  | interrupted h => exact .interrupted (himp h)

theorem Task.comesTo_answer {t : Task ν} {w : Work ν} (hwork : t.work = some w)
    (cancelled : Bool) : t.ComesTo cancelled (t.answer w) := by
  rw [Task.answer]
  split
  · rename_i htimely
    split
    · rename_i hending
      exact .answered hwork htimely hending
    · rename_i hending
      exact .crashed hwork htimely hending
  · rename_i htimely
    exact .late hwork (Bool.eq_false_iff.2 htimely)

namespace Dispatch

variable {s s' : State ν} {a : Action} {e : Option ProgressEvent}
  {cancelAt : Option Nat} {wanted : Bool}

/-- Has a task at this stage come to its end? -/
def Stage.isEnded : Stage ν → Bool
  | ended _ => true
  | _ => false

/-! ## The steps that are left -/

/-- How many steps a task may still give rise to, the passing of time up to its end included. -/
def stepsLeft (s : State ν) (p : Task ν × Stage ν) : Nat :=
  match p.2 with
  | .waiting => 5
  | .granted => 4
  | .working since => if isDue s p.1 since then 2 else 3
  | .reported _ => 1
  | .ended _ => 0

/-- How many steps the cancellation of the run may still give rise to: itself, and the passing of
time up to it. -/
def cancelStepsLeft (cancelAt : Option Nat) (s : State ν) : Nat :=
  if s.cancelled then 0 else if cancelIsDue cancelAt false s then 1 else 2

/-- How many steps are left. -/
def stepBound (cancelAt : Option Nat) (s : State ν) : Nat :=
  (s.tasks.map (stepsLeft s)).sum + cancelStepsLeft cancelAt s

theorem stepBound_initial_le (capacity now : Nat) (tasks : List (Task ν)) :
    stepBound cancelAt (initial capacity now tasks) ≤ actionBound tasks.length := by
  have htasks : ((initial capacity now tasks).tasks.map
      (stepsLeft (initial capacity now tasks))).sum ≤ tasks.length * 5 := by
    have hall : ∀ n ∈ (initial capacity now tasks).tasks.map
        (stepsLeft (initial capacity now tasks)), n ≤ 5 := by
      intro n hn
      obtain ⟨p, hp, rfl⟩ := List.mem_map.1 hn
      obtain ⟨t, -, rfl⟩ := List.mem_map.1 hp
      simp only [initialStage]
      cases t.work <;> simp [stepsLeft]
    have hsum := List.sum_le_card_nsmul _ 5 hall
    simpa only [initial, List.length_map, smul_eq_mul] using hsum
  have hcancel : cancelStepsLeft cancelAt (initial capacity now tasks) ≤ 2 := by
    unfold cancelStepsLeft
    split <;> (try split) <;> omega
  rw [stepBound, actionBound]
  omega

/-! ## Which step is chosen -/

theorem exists_of_first?_eq_some {p : Task ν → Stage ν → Bool} {i : Nat}
    (h : first? s p = some i) : ∃ t stage, s.tasks[i]? = some (t, stage) ∧ p t stage = true := by
  obtain ⟨hi, hp, -⟩ := List.findIdx?_eq_some_iff_getElem.1 h
  exact ⟨s.tasks[i].1, s.tasks[i].2, List.getElem?_eq_getElem hi, hp⟩

theorem forall_of_first?_eq_none {p : Task ν → Stage ν → Bool} (h : first? s p = none) :
    ∀ q ∈ s.tasks, p q.1 q.2 = false :=
  List.findIdx?_eq_none_iff.1 h

/-- Cancellation is not to come before everything else. -/
def IsQuiet (cancelAt : Option Nat) (wanted : Bool) (s : State ν) : Prop :=
  s.cancelled = false → cancelIsDue cancelAt wanted s = false

theorem next_of_not_isQuiet (h : ¬ IsQuiet cancelAt wanted s) :
    s.cancelled = false ∧ next cancelAt wanted s = some .cancel := by
  simp only [IsQuiet, Classical.not_imp, Bool.not_eq_false] at h
  obtain ⟨hgoing, hdue⟩ := h
  refine ⟨hgoing, ?_⟩
  rw [next, if_pos (by rw [hgoing, hdue]; rfl)]

theorem next_of_isQuiet (h : IsQuiet cancelAt wanted s) :
    next cancelAt wanted s =
      ((first? s fun _ stage => stage.isReported).map Action.release).or
        (((first? s (isEnding s)).map Action.finish).or
          (((first? s fun _ stage => stage.isGranted).map Action.start).or
            (((first? s fun _ stage => stage.isWaiting).bind (admission? s)).or
              (waiting? cancelAt s)))) := by
  have hcancel : ¬ (!s.cancelled && cancelIsDue cancelAt wanted s) = true := by
    rw [Bool.and_eq_true, Bool.not_eq_true']
    rintro ⟨hgoing, hdue⟩
    rw [h hgoing] at hdue
    cases hdue
  rw [next, if_neg hcancel]
  simp only [HOrElse.hOrElse, OrElse.orElse, Option.orElse_eq_or]

/-- A waiting task is refused or granted a permit. -/
theorem eq_of_admission? {i : Nat} (h : admission? s i = some a) :
    a = .refuse i ∨ a = .grant i := by
  unfold admission? at h
  split at h
  · exact Or.inl (Option.some.inj h).symm
  · split at h
    · exact Or.inr (Option.some.inj h).symm
    · cases h

/-- Time passes only if no task can go on by itself. -/
theorem next_eq_passTime {time : Nat} (hquiet : IsQuiet cancelAt wanted s)
    (h : next cancelAt wanted s = some (.passTime time)) :
    (∀ p ∈ s.tasks, isEnding s p.1 p.2 = false) ∧ waiting? cancelAt s = some (.passTime time) := by
  rw [next_of_isQuiet hquiet] at h
  simp only [Option.or_eq_some_iff, Option.map_eq_some_iff, Option.map_eq_none_iff,
    reduceCtorEq, and_false, exists_false, false_or, Option.bind_eq_some_iff] at h
  obtain ⟨-, hending, -, h⟩ := h
  refine ⟨forall_of_first?_eq_none hending, ?_⟩
  rcases h with ⟨i, -, hadmission⟩ | ⟨-, hwaiting⟩
  · rcases eq_of_admission? hadmission with h | h <;> cases h
  · exact hwaiting

theorem next_ne_cancel (hquiet : IsQuiet cancelAt wanted s) :
    next cancelAt wanted s ≠ some .cancel := by
  intro h
  rw [next_of_isQuiet hquiet] at h
  simp only [Option.or_eq_some_iff, Option.map_eq_some_iff, Option.map_eq_none_iff,
    reduceCtorEq, and_false, exists_false, false_or, Option.bind_eq_some_iff] at h
  obtain ⟨-, -, -, ⟨i, -, hadmission⟩ | ⟨-, hwaiting⟩⟩ := h
  · rcases eq_of_admission? hadmission with h | h <;> cases h
  · unfold waiting? at hwaiting
    split at hwaiting
    · obtain ⟨time, -, htime⟩ := Option.map_eq_some_iff.1 hwaiting
      cases htime
    · cases hwaiting

/-! ## Each step uses up what is left -/

theorem sum_map_modify {α : Type} (f : α → Nat) (g : α → α) {l : List α} {i : Nat} {x : α}
    (h : l[i]? = some x) : ((l.modify i g).map f).sum + f x = (l.map f).sum + f (g x) := by
  induction l generalizing i with
  | nil => cases h
  | cons y l ih =>
    cases i with
    | zero =>
      obtain rfl : y = x := Option.some.inj h
      simp only [List.modify_zero_cons, List.map_cons, List.sum_cons]
      omega
    | succ i =>
      have hrest := ih (i := i) h
      simp only [List.modify_succ_cons, List.map_cons, List.sum_cons]
      omega

/-- As long as cancellation is not due it has no steps left to gain. -/
theorem cancelStepsLeft_le (hquiet : IsQuiet cancelAt false s)
    (hcancelled : s'.cancelled = s.cancelled) :
    cancelStepsLeft cancelAt s' ≤ cancelStepsLeft cancelAt s := by
  unfold cancelStepsLeft
  rw [hcancelled]
  by_cases hc : s.cancelled = true
  · simp only [if_pos hc, Nat.le_refl]
  · rw [Bool.not_eq_true] at hc
    rw [hc, hquiet hc]
    simp only [Bool.false_eq_true, if_false]
    split <;> omega

/-- A task that comes closer to its end uses up a step. -/
theorem stepBound_setStage_lt {i : Nat} {t : Task ν} {old stage : Stage ν}
    (hquiet : IsQuiet cancelAt false s) (ht : s.tasks[i]? = some (t, old))
    (hlt : stepsLeft s (t, stage) < stepsLeft s (t, old)) :
    stepBound cancelAt (s.setStage i stage) < stepBound cancelAt s := by
  have htasks := sum_map_modify (stepsLeft s) (fun p => (p.1, stage)) ht
  have hcancel : cancelStepsLeft cancelAt (s.setStage i stage) ≤ cancelStepsLeft cancelAt s :=
    cancelStepsLeft_le hquiet rfl
  have hleft : stepsLeft (s.setStage i stage) = stepsLeft s := rfl
  rw [stepBound, stepBound, hleft]
  simp only [State.setStage] at htasks hcancel ⊢
  omega

/-- A task that is closer to its end later on. -/
theorem stepsLeft_le {p : Task ν × Stage ν}
    (h : ∀ t since, isDue s t since = true → isDue s' t since = true) :
    stepsLeft s' p ≤ stepsLeft s p := by
  obtain ⟨t, stage⟩ := p
  cases stage with
  | working since =>
    simp only [stepsLeft]
    by_cases hdue : isDue s t since = true
    · rw [if_pos hdue, if_pos (h t since hdue)]
    · rw [if_neg hdue]
      split <;> omega
  | _ => exact Nat.le_refl _

theorem stepBound_cancel_lt (hgoing : s.cancelled = false) :
    stepBound cancelAt { s with cancelled := true } < stepBound cancelAt s := by
  have htasks : (s.tasks.map (stepsLeft { s with cancelled := true })).sum ≤
      (s.tasks.map (stepsLeft s)).sum :=
    List.sum_le_sum fun p _ => stepsLeft_le fun t since _ => by rw [isDue, Bool.true_or]
  have hcancel : 0 < cancelStepsLeft cancelAt s := by
    rw [cancelStepsLeft, hgoing, if_neg Bool.false_ne_true]
    split <;> omega
  have hnone : cancelStepsLeft cancelAt { s with cancelled := true } = 0 := if_pos rfl
  rw [stepBound, stepBound, hnone]
  simp only at htasks ⊢
  omega

/-- What the time that passes leads to: a working task is to end, or the run is to be
cancelled. -/
theorem due_of_waiting? {time : Nat} (hwaiting : waiting? cancelAt s = some (.passTime time)) :
    s.now < time ∧
      ((∃ p ∈ s.tasks, ∃ since, p.2 = .working since ∧
          isDue { s with now := time } p.1 since = true) ∨
        cancelIsDue cancelAt false { s with now := time } = true) := by
  unfold waiting? at hwaiting
  split at hwaiting
  swap
  · cases hwaiting
  obtain ⟨time', hmoment, htime⟩ := Option.map_eq_some_iff.1 hwaiting
  obtain rfl : time' = time := Action.passTime.inj htime
  have hmem := List.min?_mem hmoment
  obtain ⟨hmem, hlt⟩ := List.mem_filter.1 hmem
  refine ⟨of_decide_eq_true hlt, ?_⟩
  rcases List.mem_append.1 hmem with hmem | hmem
  · -- The moment at which the run is cancelled from outside.
    refine Or.inr ?_
    rw [cancelIsDue, Option.mem_toList.1 hmem]
    simp
  · obtain ⟨⟨t, stage⟩, hp, hmoments⟩ := List.mem_flatMap.1 hmem
    cases stage with
    | working since =>
      simp only [moments] at hmoments
      rcases hwork : t.work with _ | w
      · rw [hwork] at hmoments
        cases hmoments
      · rw [hwork] at hmoments
        rcases List.mem_cons.1 hmoments with hend | hask
        · refine Or.inl ⟨_, hp, since, rfl, ?_⟩
          simp [isDue, hwork, hend]
        · -- The agent asks for the run to be cancelled.
          obtain ⟨d, hd, hsum⟩ := Option.map_eq_some_iff.1 (Option.mem_toList.1 hask)
          refine Or.inr ?_
          have hasks : asksCancel time' t (.working since) = true := by
            simp [asksCancel, hwork, hd, hsum]
          simp only [cancelIsDue, Bool.or_eq_true, List.any_eq_true]
          exact Or.inr ⟨_, hp, hasks⟩
    | _ => cases hmoments

/-- Work that is to end is still to end later on. -/
theorem isDue_of_le {time : Nat} (hnow : s.now ≤ time) {t : Task ν} {since : Nat}
    (h : isDue s t since = true) : isDue { s with now := time } t since = true := by
  unfold isDue at h ⊢
  rcases Bool.or_eq_true_iff.1 h with h | h
  · exact Bool.or_eq_true_iff.2 (Or.inl h)
  · refine Bool.or_eq_true_iff.2 (Or.inr ?_)
    rcases hwork : t.work with _ | w
    · rfl
    · simp only [hwork, Option.all_some, decide_eq_true_eq] at h ⊢
      omega

/-- While an agent works on, the run is not cancelled. -/
theorem going_of_waiting? (hending : ∀ p ∈ s.tasks, isEnding s p.1 p.2 = false)
    (hwaiting : waiting? cancelAt s = some a) : s.cancelled = false := by
  unfold waiting? at hwaiting
  split at hwaiting
  · rename_i hworking
    obtain ⟨⟨t, stage⟩, hp, hp'⟩ := List.any_eq_true.1 hworking
    cases stage with
    | working since =>
      have hbefore := hending _ hp
      rw [isEnding, isDue, Bool.or_eq_false_iff] at hbefore
      exact hbefore.1
    | _ => cases hp'
  · cases hwaiting

theorem stepBound_passTime_lt {time : Nat} (hquiet : IsQuiet cancelAt false s)
    (hending : ∀ p ∈ s.tasks, isEnding s p.1 p.2 = false)
    (hwaiting : waiting? cancelAt s = some (.passTime time)) :
    stepBound cancelAt { s with now := time } < stepBound cancelAt s := by
  obtain ⟨hnow, hdue⟩ := due_of_waiting? hwaiting
  have hlater (t : Task ν) (since : Nat) (h : isDue s t since = true) :
      isDue { s with now := time } t since = true :=
    isDue_of_le hnow.le h
  have htasks : (s.tasks.map (stepsLeft { s with now := time })).sum ≤
      (s.tasks.map (stepsLeft s)).sum :=
    List.sum_le_sum fun p _ => stepsLeft_le hlater
  have hcancel : cancelStepsLeft cancelAt { s with now := time } ≤ cancelStepsLeft cancelAt s :=
    cancelStepsLeft_le hquiet rfl
  rw [stepBound, stepBound]
  rcases hdue with ⟨p, hp, since, hstage, hdue⟩ | hdue
  · have hlt : (s.tasks.map (stepsLeft { s with now := time })).sum <
        (s.tasks.map (stepsLeft s)).sum := by
      refine List.sum_lt_sum _ _ (fun p _ => stepsLeft_le hlater) ⟨p, hp, ?_⟩
      have hbefore := hending p hp
      rw [hstage, isEnding] at hbefore
      simp only [stepsLeft, hstage, hdue, hbefore, Bool.false_eq_true, if_true, if_false]
      omega
    simp only at hlt ⊢
    omega
  · have hgoing := going_of_waiting? hending hwaiting
    have hbefore : cancelStepsLeft cancelAt s = 2 := by
      rw [cancelStepsLeft, hquiet hgoing, hgoing, if_neg Bool.false_ne_true,
        if_neg Bool.false_ne_true]
    have hafter : cancelStepsLeft cancelAt { s with now := time } ≤ 1 := by
      rw [cancelStepsLeft, if_pos hdue]
      split <;> omega
    simp only at htasks hafter ⊢
    omega

theorem IsQuiet.of_wanted (h : IsQuiet cancelAt wanted s) : IsQuiet cancelAt false s := by
  intro hgoing
  have hnot := h hgoing
  unfold cancelIsDue at hnot ⊢
  simp only [Bool.or_eq_false_iff] at hnot ⊢
  exact ⟨⟨trivial, hnot.1.2⟩, hnot.2⟩

/-- **Each step that is chosen uses up some of the steps that are left.** -/
theorem stepBound_lt (hnext : next cancelAt wanted s = some a) (h : Step s a s' e) :
    stepBound cancelAt s' < stepBound cancelAt s := by
  by_cases hquiet : IsQuiet cancelAt wanted s
  swap
  · obtain ⟨hgoing, hcancel⟩ := next_of_not_isQuiet hquiet
    rw [hcancel] at hnext
    obtain rfl := Option.some.inj hnext
    cases h
    exact stepBound_cancel_lt hgoing
  have hquiet' := hquiet.of_wanted
  cases h with
  | cancel => exact absurd hnext (next_ne_cancel hquiet)
  | passTime _ =>
    obtain ⟨hending, hwaiting⟩ := next_eq_passTime hquiet hnext
    exact stepBound_passTime_lt hquiet' hending hwaiting
  | grant ht _ _ => exact stepBound_setStage_lt hquiet' ht (by simp [stepsLeft])
  | refuse ht _ => exact stepBound_setStage_lt hquiet' ht (by simp [stepsLeft])
  | start ht =>
    refine stepBound_setStage_lt hquiet' ht ?_
    simp only [stepsLeft]
    split <;> omega
  | finish ht hdue => exact stepBound_setStage_lt hquiet' ht (by simp [stepsLeft, hdue])
  | release ht => exact stepBound_setStage_lt hquiet' ht (by simp [stepsLeft])

/-! ## A step is chosen as long as a task is on its way -/

/-- If no task can go on by itself and none is waiting in vain, time is to pass. -/
theorem exists_waiting? (cancelAt : Option Nat)
    (hending : ∀ p ∈ s.tasks, isEnding s p.1 p.2 = false) {p : Task ν × Stage ν}
    (hp : p ∈ s.tasks) (hworking : p.2.isWorking = true) :
    ∃ time, s.now ≤ time ∧ waiting? cancelAt s = some (.passTime time) := by
  obtain ⟨t, stage⟩ := p
  cases stage with
  | working since =>
    have hbefore := hending _ hp
    simp only [isEnding, isDue, Bool.or_eq_false_iff] at hbefore
    rcases hwork : t.work with _ | w
    · simp [hwork] at hbefore
    · have hlater : s.now < since + t.span w := by
        simpa [hwork] using hbefore.2
      have hmoments : since + t.span w ∈ moments t (.working since) := by
        simp only [moments, hwork]
        exact List.mem_cons_self
      rcases hmoment : nextMoment? cancelAt s with _ | time
      · -- The end of this work is a moment to come.
        rw [nextMoment?, List.min?_eq_none_iff, List.filter_eq_nil_iff] at hmoment
        have hpast := hmoment _ (List.mem_append_right _ (List.mem_flatMap.2 ⟨_, hp, hmoments⟩))
        exact absurd (decide_eq_true hlater) hpast
      · have htime : waiting? cancelAt s = some (.passTime time) := by
          rw [waiting?, if_pos (List.any_eq_true.2 ⟨_, hp, rfl⟩), hmoment]
          rfl
        exact ⟨time, Nat.le_of_lt (due_of_waiting? htime).1, htime⟩
  | _ => cases hworking

/-- A waiting task gets something unless other tasks hold all permits. -/
theorem exists_admission? (hcapacity : 1 ≤ s.capacity)
    (hidle : ∀ p ∈ s.tasks, p.2.holdsPermit = false) (i : Nat) :
    ∃ a, admission? s i = some a := by
  have hheld : s.heldPermits < s.capacity := by
    have hnone : s.heldPermits = 0 := by
      rw [State.heldPermits, List.countP_eq_zero]
      intro p hp
      rw [hidle p hp]
      exact Bool.false_ne_true
    omega
  unfold admission?
  by_cases hcancelled : s.cancelled = true
  · exact ⟨_, if_pos hcancelled⟩
  · rw [if_neg hcancelled]
    exact ⟨_, if_pos hheld⟩

/-- What is chosen for a waiting task is possible. -/
theorem exists_apply_of_admission? {i : Nat} {t : Task ν} (ht : s.tasks[i]? = some (t, .waiting))
    (h : admission? s i = some a) : ∃ s' e, s.apply a = some (s', e) := by
  unfold admission? at h
  split at h
  · rename_i hcancelled
    obtain rfl := Option.some.inj h
    simp [State.apply, ht, hcancelled]
  · rename_i hgoing
    split at h
    · rename_i hfree
      obtain rfl := Option.some.inj h
      simp [State.apply, ht, hfree, hgoing]
    · cases h

/-- If a task is on its way, none goes on by itself and none is admitted, then an agent is working:
otherwise no permit would be held. -/
theorem exists_isWorking (hcapacity : 1 ≤ s.capacity) {p : Task ν × Stage ν} (hp : p ∈ s.tasks)
    (hended : p.2.isEnded = false) (hreported : ∀ q ∈ s.tasks, q.2.isReported = false)
    (hgranted : ∀ q ∈ s.tasks, q.2.isGranted = false)
    (hadmission : (first? s fun _ stage => stage.isWaiting).bind (admission? s) = none) :
    ∃ q ∈ s.tasks, q.2.isWorking = true := by
  by_contra hnone
  simp only [not_exists, not_and, Bool.not_eq_true] at hnone
  rcases hwaiting : first? s (fun _ stage => stage.isWaiting) with _ | i
  · have hr := hreported p hp
    have hg := hgranted p hp
    have hw := hnone p hp
    have hwait := forall_of_first?_eq_none hwaiting p hp
    revert hr hg hw hwait hended
    cases p.2 <;> simp [Stage.isReported, Stage.isGranted, Stage.isWorking, Stage.isWaiting,
      Stage.isEnded]
  · have hidle : ∀ q ∈ s.tasks, q.2.holdsPermit = false := by
      intro q hq
      have hr := hreported q hq
      have hg := hgranted q hq
      have hw := hnone q hq
      revert hr hg hw
      cases q.2 <;> simp [Stage.isReported, Stage.isGranted, Stage.isWorking, Stage.holdsPermit]
    obtain ⟨a, ha⟩ := exists_admission? hcapacity hidle i
    rw [hwaiting, Option.bind_some, ha] at hadmission
    cases hadmission

/-- **As long as a task has not ended, a step is chosen, and it is possible.** -/
theorem exists_step (hcapacity : 1 ≤ s.capacity) {p : Task ν × Stage ν} (hp : p ∈ s.tasks)
    (hended : p.2.isEnded = false) (cancelAt : Option Nat) (wanted : Bool) :
    ∃ a s' e, next cancelAt wanted s = some a ∧ s.apply a = some (s', e) := by
  by_cases hquiet : IsQuiet cancelAt wanted s
  swap
  · obtain ⟨-, hcancel⟩ := next_of_not_isQuiet hquiet
    exact ⟨_, _, _, hcancel, rfl⟩
  rw [next_of_isQuiet hquiet]
  -- The cases follow the order in which steps are chosen.
  rcases hreported : first? s (fun _ stage => stage.isReported) with _ | i
  swap
  · obtain ⟨t, stage, ht, hstage⟩ := exists_of_first?_eq_some hreported
    cases stage with
    | reported x => exact ⟨.release i, _, _, rfl, by simp only [State.apply, ht]; rfl⟩
    | _ => cases hstage
  rcases hending : first? s (isEnding s) with _ | i
  swap
  · obtain ⟨t, stage, ht, hstage⟩ := exists_of_first?_eq_some hending
    cases stage with
    | working since =>
      exact ⟨.finish i, _, _, rfl, by simp only [State.apply, ht]; exact if_pos hstage⟩
    | _ => cases hstage
  rcases hgranted : first? s (fun _ stage => stage.isGranted) with _ | i
  swap
  · obtain ⟨t, stage, ht, hstage⟩ := exists_of_first?_eq_some hgranted
    cases stage with
    | granted => exact ⟨.start i, _, _, rfl, by simp only [State.apply, ht]; rfl⟩
    | _ => cases hstage
  simp only [Option.map_none, Option.none_or]
  rcases hadmission : (first? s fun _ stage => stage.isWaiting).bind (admission? s) with _ | a
  swap
  · obtain ⟨i, hwaiting, ha⟩ := Option.bind_eq_some_iff.1 hadmission
    obtain ⟨t, stage, ht, hstage⟩ := exists_of_first?_eq_some hwaiting
    cases stage with
    | waiting =>
      obtain ⟨s', e, happly⟩ := exists_apply_of_admission? ht ha
      exact ⟨a, s', e, rfl, happly⟩
    | _ => cases hstage
  -- Nobody is admitted: so some agent is working, and time passes.
  obtain ⟨q, hq, hworking⟩ := exists_isWorking hcapacity hp hended
    (forall_of_first?_eq_none hreported) (forall_of_first?_eq_none hgranted) hadmission
  obtain ⟨time, hnow, htime⟩ := exists_waiting? cancelAt
    (forall_of_first?_eq_none hending) hq hworking
  exact ⟨_, _, _, htime, by simp only [State.apply]; exact if_pos hnow⟩

/-! ## The end of a dispatch -/

theorem capacity_step (h : Step s a s' e) : s'.capacity = s.capacity := by
  cases h <;> rfl

/-- A dispatch that has as many steps as are left ends all tasks. -/
theorem isEnded_proceed (env : Surroundings σ ν) (run : RunId) (cancelAt : Option Nat) {n : Nat}
    (hcapacity : 1 ≤ s.capacity) (hn : stepBound cancelAt s ≤ n) (w : σ) :
    ∀ p ∈ (proceed env run cancelAt n s w).state.tasks, p.2.isEnded = true := by
  induction n generalizing s w with
  | zero =>
    intro p hp
    rw [proceed] at hp
    have hsum : (s.tasks.map (stepsLeft s)).sum = 0 := by
      rw [stepBound] at hn
      omega
    have hzero : stepsLeft s p = 0 := List.sum_eq_zero_iff.1 hsum _ (List.mem_map_of_mem hp)
    obtain ⟨t, stage⟩ := p
    cases stage with
    | ended _ => rfl
    | working since =>
      simp only [stepsLeft] at hzero
      split at hzero <;> cases hzero
    | _ => cases hzero
  | succ n ih =>
    rw [proceed]
    split
    · rename_i hnone
      intro p hp
      by_contra hended
      rw [Bool.not_eq_true] at hended
      obtain ⟨a, s', e, hnext, happly⟩ :=
        exists_step hcapacity hp hended cancelAt (env.wantsCancel w)
      rw [hnext, Option.bind_some, happly] at hnone
      cases hnone
    · rename_i s' e hsome
      obtain ⟨a, hnext, happly⟩ := Option.bind_eq_some_iff.1 hsome
      have hstep := step_of_apply happly
      have hlt := stepBound_lt hnext hstep
      exact ih (by rw [capacity_step hstep]; exact hcapacity) (by omega) _

/-- The state in which a dispatch leaves its tasks. -/
def lastState (env : Surroundings σ ν) (run : RunId) (capacity : Nat) (cancelAt : Option Nat)
    (now : Nat) (tasks : List (Task ν)) (w : σ) : State ν :=
  (proceed env run cancelAt (actionBound tasks.length) (initial capacity now tasks) w).state

/-- **When a dispatch is over every task has ended**, and the dispatch reports the outcomes with
which they have ended. -/
theorem forall₂_ended_dispatch (env : Surroundings σ ν) (run : RunId) {capacity : Nat}
    (hcapacity : 1 ≤ capacity) (cancelAt : Option Nat) (now : Nat) (tasks : List (Task ν))
    (w : σ) :
    List.Forall₂ (fun p x => p.2 = .ended x)
      (lastState env run capacity cancelAt now tasks w).tasks
      (dispatch env run capacity cancelAt now tasks w).outcomes := by
  have hended := isEnded_proceed env run cancelAt (s := initial capacity now tasks) hcapacity
    (stepBound_initial_le capacity now tasks) w
  rw [dispatch, lastState, List.forall₂_map_right_iff, List.forall₂_same]
  intro p hp
  have hp' := hended p hp
  obtain ⟨t, stage⟩ := p
  cases stage with
  | ended x => rfl
  | _ => cases hp'

/-! ## What the tasks come to -/

/-- The outcome is what the task may come to. -/
def Decides (cancelled : Bool) (t : Task ν) (x : Outcome ν) : Prop :=
  t.ComesTo cancelled x.result

/-- The task has no outcome but such a one. -/
def Decided (cancelled : Bool) (p : Task ν × Stage ν) : Prop :=
  ∀ x, p.2.outcome? = some x → Decides cancelled p.1 x

theorem decides_workOutcome (t : Task ν) (cancelled : Bool) (duration : Nat) :
    Decides cancelled t (workOutcome t cancelled duration) := by
  rw [workOutcome]
  split
  · rename_i hwork
    exact .unregistered hwork
  · rename_i hwork
    split
    · rename_i hcancelled
      exact .interrupted hcancelled
    · exact Task.comesTo_answer hwork cancelled

theorem decided_initial (t : Task ν) : Decided false (t, initialStage t) := by
  intro x hx
  rw [initialStage] at hx
  split at hx
  · rename_i hwork
    obtain rfl := Option.some.inj hx
    exact .unregistered hwork
  · cases hx

/-- **A step decides nothing otherwise.** -/
theorem decided_step (h : Step s a s' e) (hs : ∀ p ∈ s.tasks, Decided s.cancelled p) :
    ∀ p ∈ s'.tasks, Decided s'.cancelled p := by
  -- Only the stage that the step sets has to be looked at.
  have hset {i : Nat} {t : Task ν} {old stage : Stage ν} (ht : s.tasks[i]? = some (t, old))
      (hstage : Decided s.cancelled (t, stage)) :
      ∀ p ∈ (s.setStage i stage).tasks, Decided s.cancelled p := by
    intro p hp
    rcases mem_tasks_setStage ht hp with hp | rfl
    · exact hs p hp
    · exact hstage
  cases h with
  | cancel => exact fun p hp x hx => (hs p hp x hx).mono fun _ => rfl
  | passTime _ => exact hs
  | grant ht _ _ => exact hset ht fun x hx => by cases hx
  | refuse ht hcancelled =>
    refine hset ht fun x hx => ?_
    obtain rfl := Option.some.inj hx
    exact .interrupted hcancelled
  | start ht => exact hset ht fun x hx => by cases hx
  | finish ht _ =>
    refine hset ht fun x hx => ?_
    obtain rfl := Option.some.inj hx
    exact decides_workOutcome _ _ _
  | release ht => exact hset ht fun x hx => hs _ (List.mem_of_getElem? ht) x hx

/-- **Each task of a dispatch comes to what its own work comes to**, unless it is cancelled. -/
theorem forall₂_decided_dispatch (env : Surroundings σ ν) (run : RunId) {capacity : Nat}
    (hcapacity : 1 ≤ capacity) (cancelAt : Option Nat) (now : Nat) (tasks : List (Task ν))
    (w : σ) :
    List.Forall₂ (Decides (dispatch env run capacity cancelAt now tasks w).cancelled) tasks
      (dispatch env run capacity cancelAt now tasks w).outcomes := by
  have htasks : (lastState env run capacity cancelAt now tasks w).tasks.map (·.1) = tasks :=
    proceed_preserves (I := fun s => s.tasks.map (·.1) = tasks)
      (fun h hs => (tasks_apply h).trans hs) env run cancelAt (actionBound tasks.length)
      (s := initial capacity now tasks) w (by simp [initial, Function.comp_def])
  have hdecided : ∀ p ∈ (lastState env run capacity cancelAt now tasks w).tasks,
      Decided (lastState env run capacity cancelAt now tasks w).cancelled p :=
    proceed_preserves (I := fun s => ∀ p ∈ s.tasks, Decided s.cancelled p)
      (fun h => decided_step (step_of_apply h)) env run cancelAt (actionBound tasks.length)
      (s := initial capacity now tasks) w (by
        intro p hp
        obtain ⟨t, -, rfl⟩ := List.mem_map.1 hp
        exact decided_initial t)
  have hcancelled : (lastState env run capacity cancelAt now tasks w).cancelled = true →
      (dispatch env run capacity cancelAt now tasks w).cancelled = true :=
    fun h => Bool.or_eq_true_iff.2 (.inl h)
  have hended := forall₂_ended_dispatch env run hcapacity cancelAt now tasks w
  have hresults : List.Forall₂
      (fun p => Decides (dispatch env run capacity cancelAt now tasks w).cancelled p.1)
      (lastState env run capacity cancelAt now tasks w).tasks
      (dispatch env run capacity cancelAt now tasks w).outcomes :=
    ((List.forall₂_and_left _ _).2 ⟨hdecided, hended⟩).imp fun p x h =>
      (h.1 x (by rw [h.2]; rfl)).mono hcancelled
  rwa [← List.forall₂_map_left_iff, htasks] at hresults

end Dispatch

end Vigil
