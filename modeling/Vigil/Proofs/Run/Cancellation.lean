import Vigil.Proofs.Exact
import Vigil.Proofs.Run.Settlement
import Vigil.Proofs.Run.Stages
import Vigil.Proofs.Triage.Calls
import Vigil.Run.Cancellation

/-!
# What becomes of a cancellation

Whether a run is to be cancelled is looked at once after its tasks are over, and triage goes by what
was seen then.

* `cancelled_of_mem_passed` -- no cancellation that is due at a moment before is overlooked;
* `exists_token_dispatch` -- so what is seen is the state of a token that the agents' own tokens are
  derived from;
* `run_triage_of_cancelled` -- **the main result**: a run that is cancelled by that moment says so,
  calls no provider, and has its findings judged by the rules; a run that is not goes on with its
  providers, whatever is wanted later;
* `honoursCancellation_of_cancelled` -- so a cancellation that comes before the tasks are over is
  honoured to the end;
* `not_honoursCancellation_lateCancellation` -- and one that comes later is not: the run calls a
  provider after it, and does not say that it was cancelled.
-/

namespace Vigil

variable {α σ ν : Type}

/-! ## While the tasks are carried out -/

namespace Dispatch

theorem cancelled_step {s s' : State ν} {a : Action} {e : Option ProgressEvent}
    (h : Step s a s' e) (hs : s.cancelled = true) : s'.cancelled = true := by
  cases h with
  | cancel => rfl
  | _ => exact hs

theorem cancelled_proceed (env : Surroundings σ ν) (run : RunId) (cancelAt : Option Nat) (n : Nat)
    {s : State ν} (hs : s.cancelled = true) (w : σ) :
    (proceed env run cancelAt n s w).state.cancelled = true :=
  proceed_preserves (I := fun s => s.cancelled = true) (fun h => cancelled_step (step_of_apply h))
    env run cancelAt n w hs

/-- The moments of a dispatch: the states that it goes through, each with the world that has
observed what was announced before. -/
def passed (env : Surroundings σ ν) (run : RunId) (cancelAt : Option Nat) :
    Nat → State ν → σ → List (State ν × σ)
  | 0, s, w => [(s, w)]
  | n + 1, s, w =>
    match (next cancelAt (env.wantsCancel w) s).bind s.apply with
    | none => [(s, w)]
    | some (s', event) =>
      let ms := (event.bind fun e => e.agent?.map fun a => Message.progress a run e).toList
      (s, w) :: passed env run cancelAt n s' (env.observeAll ms w)

/-- The end of a dispatch is the last of its moments. -/
theorem getLast?_passed (env : Surroundings σ ν) (run : RunId) (cancelAt : Option Nat) (n : Nat)
    (s : State ν) (w : σ) :
    (passed env run cancelAt n s w).getLast? =
      some ((proceed env run cancelAt n s w).state, (proceed env run cancelAt n s w).world) := by
  induction n generalizing s w with
  | zero => rfl
  | succ n ih =>
    rcases happly : (next cancelAt (env.wantsCancel w) s).bind s.apply with _ | ⟨s', event⟩
    · rw [passed, proceed, happly]
      rfl
    · rw [passed, proceed, happly]
      dsimp only
      rw [List.getLast?_cons, ih]
      rfl

/-- If the run is to be cancelled, and is not yet, nothing comes before that. -/
theorem next_of_cancelIsDue {s : State ν} {cancelAt : Option Nat} {wanted : Bool}
    (hgoing : s.cancelled = false) (hdue : cancelIsDue cancelAt wanted s = true) :
    (next cancelAt wanted s).bind s.apply = some ({ s with cancelled := true }, none) := by
  rw [next, if_pos (by rw [hgoing, hdue]; rfl)]
  rfl

/-- **A cancellation while the tasks are carried out is seen**: if the run is to be cancelled at any
moment of a dispatch that has as many steps as are left, the dispatch leaves it cancelled. -/
theorem cancelled_of_mem_passed {env : Surroundings σ ν} {run : RunId} {cancelAt : Option Nat}
    {n : Nat} {s : State ν} {w : σ} (hn : stepBound cancelAt s ≤ n) {m : State ν × σ}
    (hm : m ∈ passed env run cancelAt n s w)
    (hdue : cancelIsDue cancelAt (env.wantsCancel m.2) m.1 = true) :
    (proceed env run cancelAt n s w).state.cancelled = true := by
  by_cases hs : s.cancelled = true
  · exact cancelled_proceed env run cancelAt n hs w
  rw [Bool.not_eq_true] at hs
  induction n generalizing s w with
  | zero =>
    -- The cancellation is one of the steps that are left.
    rw [stepBound, cancelStepsLeft, hs, if_neg Bool.false_ne_true] at hn
    split at hn <;> omega
  | succ n ih =>
    by_cases hfirst : cancelIsDue cancelAt (env.wantsCancel w) s = true
    · rw [proceed, next_of_cancelIsDue hs hfirst]
      exact cancelled_proceed env run cancelAt n rfl _
    rcases happly : (next cancelAt (env.wantsCancel w) s).bind s.apply with _ | ⟨s', event⟩
    · rw [passed, happly] at hm
      obtain rfl := List.mem_singleton.1 hm
      exact absurd hdue hfirst
    · rw [passed, happly] at hm
      rw [proceed, happly]
      rcases List.mem_cons.1 hm with rfl | hm
      · exact absurd hdue hfirst
      obtain ⟨a, hnext, hstep⟩ := Option.bind_eq_some_iff.1 happly
      have hless := stepBound_lt hnext (step_of_apply hstep)
      by_cases hs' : s'.cancelled = true
      · exact cancelled_proceed env run cancelAt n hs' _
      · exact ih (by omega) hm (Bool.not_eq_true _ ▸ hs')

section Dispatch

variable (env : Surroundings σ ν) (run : RunId) (capacity : Nat) (cancelAt : Option Nat)
  (now : Nat) (tasks : List (Task ν)) (w : σ)

/-- The moments of a whole dispatch. -/
def history : List (State ν × σ) :=
  passed env run cancelAt (actionBound tasks.length) (initial capacity now tasks) w

theorem cancelled_lastState_of_mem_history {m : State ν × σ}
    (hm : m ∈ history env run capacity cancelAt now tasks w)
    (hdue : cancelIsDue cancelAt (env.wantsCancel m.2) m.1 = true) :
    (lastState env run capacity cancelAt now tasks w).cancelled = true :=
  cancelled_of_mem_passed (stepBound_initial_le capacity now tasks) hm hdue

/-- At its end a dispatch has been cancelled if it is to be. -/
theorem cancelled_lastState_of_cancelIsDue
    (hdue : cancelIsDue cancelAt
      (env.wantsCancel (dispatch env run capacity cancelAt now tasks w).world)
      (lastState env run capacity cancelAt now tasks w) = true) :
    (lastState env run capacity cancelAt now tasks w).cancelled = true :=
  cancelled_lastState_of_mem_history env run capacity cancelAt now tasks w
    (List.mem_of_getLast? (getLast?_passed ..)) hdue

/-- What a dispatch reports is the state of its machine: the look at what the world wants, when the
last task is over, tells nothing new. -/
theorem cancelled_dispatch :
    (dispatch env run capacity cancelAt now tasks w).cancelled =
      (lastState env run capacity cancelAt now tasks w).cancelled := by
  refine Bool.or_eq_left_iff_imp.2 fun hwanted => ?_
  refine cancelled_lastState_of_cancelIsDue env run capacity cancelAt now tasks w ?_
  rw [cancelIsDue]
  exact Bool.or_eq_true_iff.2 (.inl (Bool.or_eq_true_iff.2 (.inl hwanted)))

end Dispatch

/-! ## The token of a run -/

/-- What an action of the machine means for the token of the run. -/
def signal (t : Token) (c : Cancellation) : Action → Cancellation
  | .cancel => c.cancel t
  | .passTime time => c.advance (time - c.now)
  | _ => c

/-- The token of a run, with its deadline, if there is one. -/
def supervise (now : Nat) (cancelAt : Option Nat) : Token × Cancellation :=
  let (t, c) := Cancellation.fresh { now }
  (t, cancelAt.elim c fun time => c.cancelAfter t (time - now))

/-- The token is cancelled if the machine is, or if the moment has come at which it is to be; and no
other token is, or will be. -/
structure Tracks (c : Cancellation) (t : Token) (cancelAt : Option Nat) (s : State ν) : Prop where
  now : c.now = s.now
  isCancelled_iff : c.isCancelled t = true ↔
    s.cancelled = true ∨ ∃ time, cancelAt = some time ∧ time ≤ s.now
  cancelled : ∀ n ∈ c.cancelled, n ∈ t.lineage
  deadlines : ∀ d ∈ c.deadlines, d.2 ∈ t.lineage ∧ s.now < d.1 ∧ cancelAt = some d.1
  pending : ∀ time, cancelAt = some time → s.now < time → (time, t.id) ∈ c.deadlines

section Tracks

variable {c : Cancellation} {t : Token} {cancelAt : Option Nat} {s s' : State ν} {a : Action}
  {e : Option ProgressEvent}

/-- Deadlines may be looked at whenever what has come is due, and what has not is still there. -/
theorem tracks_expire (hnow : c.now = s.now) (hcancelled : ∀ n ∈ c.cancelled, n ∈ t.lineage)
    (hdeadlines : ∀ d ∈ c.deadlines, d.2 ∈ t.lineage ∧ cancelAt = some d.1)
    (hdue : c.isCancelled t = true →
      s.cancelled = true ∨ ∃ time, cancelAt = some time ∧ time ≤ s.now)
    (htold : s.cancelled = true → c.isCancelled t = true)
    (hpending : ∀ time, cancelAt = some time →
      (time, t.id) ∈ c.deadlines ∨ time ≤ s.now ∧ c.isCancelled t = true) :
    Tracks c.expire t cancelAt s where
  now := hnow
  isCancelled_iff := by
    rw [Cancellation.isCancelled_expire]
    constructor
    · rintro (hold | ⟨d, hd, hcome, -⟩)
      · exact hdue hold
      · exact .inr ⟨d.1, (hdeadlines d hd).2, hnow ▸ hcome⟩
    · rintro (hs | ⟨time, htime, hcome⟩)
      · exact .inl (htold hs)
      · rcases hpending time htime with hd | ⟨-, hold⟩
        · exact .inr ⟨_, hd, hnow.symm ▸ hcome, List.mem_cons_self⟩
        · exact .inl hold
  cancelled n hn := by
    rcases Cancellation.mem_cancelled_expire.1 hn with ⟨d, hd, -, rfl⟩ | hold
    · exact (hdeadlines d hd).1
    · exact hcancelled n hold
  deadlines d hd := by
    obtain ⟨hd, hlater⟩ := Cancellation.mem_deadlines_expire.1 hd
    exact ⟨(hdeadlines d hd).1, hnow ▸ hlater, (hdeadlines d hd).2⟩
  pending time htime hlater :=
    Cancellation.mem_deadlines_expire.2
      ⟨(hpending time htime).resolve_right fun hpast => by omega, hnow.symm ▸ hlater⟩

/-- The deadlines that time passes cancel the token just when the machine takes notice of it. -/
theorem Tracks.advance (h : Tracks c t cancelAt s) {time : Nat} (hnow : s.now ≤ time) :
    Tracks (c.advance (time - c.now)) t cancelAt { s with now := time } := by
  have htime : c.now + (time - c.now) = time := by
    rw [h.now]
    omega
  rw [Cancellation.advance, htime]
  refine tracks_expire rfl h.cancelled (fun d hd => (h.deadlines d hd).imp_right And.right)
    (fun hold => ?_) (fun hs => h.isCancelled_iff.2 (.inl hs)) fun time' htime' => ?_
  · exact (h.isCancelled_iff.1 hold).imp_right
      fun ⟨time', htime', hcome⟩ => ⟨time', htime', hcome.trans hnow⟩
  · rcases Nat.lt_or_ge s.now time' with hlater | hcome
    · exact .inl (h.pending time' htime' hlater)
    · exact .inr ⟨hcome.trans hnow, h.isCancelled_iff.2 (.inr ⟨time', htime', hcome⟩)⟩

/-- **A step keeps the token with the machine.** -/
theorem Tracks.step (h : Tracks c t cancelAt s) (hstep : Step s a s' e) :
    Tracks (signal t c a) t cancelAt s' := by
  cases hstep with
  | cancel =>
    refine ⟨h.now, iff_of_true (c.isCancelled_cancel_self t) (.inl rfl), fun n hn => ?_,
      h.deadlines, h.pending⟩
    rcases List.mem_cons.1 hn with rfl | hold
    · exact List.mem_cons_self
    · exact h.cancelled n hold
  | passTime hnow => exact h.advance hnow
  | _ => exact ⟨h.now, h.isCancelled_iff, h.cancelled, h.deadlines, h.pending⟩

/-- So do all the steps of a dispatch. -/
theorem Tracks.steps (h : Tracks c t cancelAt s) {as : List Action} (hsteps : Steps s as s') :
    Tracks (as.foldl (signal t) c) t cancelAt s' := by
  induction hsteps generalizing c with
  | nil => exact h
  | cons hstep _ ih => exact ih (h.step hstep)

/-- A token without a deadline can be given one. -/
theorem Tracks.cancelAfter (h : Tracks c t none s) {time : Nat} (hnow : s.now ≤ time) :
    Tracks (c.cancelAfter t (time - c.now)) t (some time) s := by
  have htime : c.now + (time - c.now) = time := by
    rw [h.now]
    omega
  have hnone : c.deadlines = [] :=
    List.eq_nil_iff_forall_not_mem.2 fun d hd => by cases (h.deadlines d hd).2.2
  rw [Cancellation.cancelAfter, htime, hnone, List.nil_append]
  refine tracks_expire h.now h.cancelled (fun d hd => ?_) (fun hold => ?_)
    (fun hs => h.isCancelled_iff.2 (.inl hs)) fun time' htime' => ?_
  · obtain rfl := List.mem_singleton.1 hd
    exact ⟨List.mem_cons_self, rfl⟩
  · exact (h.isCancelled_iff.1 hold).imp_right fun ⟨_, hcome, _⟩ => by cases hcome
  · obtain rfl := Option.some.inj htime'
    exact .inl (List.mem_singleton.2 rfl)

/-- Of a deadline that has come, it does not matter when it came. -/
theorem Tracks.past {time time' : Nat} (h : Tracks c t (some time) s) (hcome : time ≤ s.now)
    (hcome' : time' ≤ s.now) : Tracks c t (some time') s where
  now := h.now
  isCancelled_iff :=
    iff_of_true (h.isCancelled_iff.2 (.inr ⟨time, rfl, hcome⟩)) (.inr ⟨time', rfl, hcome'⟩)
  cancelled := h.cancelled
  deadlines d hd := by
    obtain ⟨-, hlater, htime⟩ := h.deadlines d hd
    obtain rfl := Option.some.inj htime
    omega
  pending time'' htime'' hlater := by
    obtain rfl := Option.some.inj htime''
    omega

theorem tracks_initial (capacity now : Nat) (cancelAt : Option Nat) (tasks : List (Task ν)) :
    Tracks (supervise now cancelAt).2 (supervise now cancelAt).1 cancelAt
      (initial capacity now tasks) := by
  have hfresh : Tracks (Cancellation.fresh { now }).2 (Cancellation.fresh { now }).1 none
      (initial capacity now tasks) := by
    refine ⟨rfl, ?_, ?_, ?_, ?_⟩ <;> simp [Cancellation.fresh, Cancellation.isCancelled, initial]
  cases cancelAt with
  | none => exact hfresh
  | some time =>
    rcases Nat.le_total now time with hle | hle
    · exact hfresh.cancelAfter hle
    · have hsame : supervise now (some time) = supervise now (some now) := by
        simp only [supervise, Option.elim_some, Nat.sub_eq_zero_of_le hle, Nat.sub_self]
      rw [hsame]
      exact (hfresh.cancelAfter le_rfl).past le_rfl hle

end Tracks

/-- **What a dispatch reports is the state of a token** that has been told of its actions, and that
of all tokens which are derived from it and have not been cancelled by themselves. -/
theorem exists_token_dispatch (env : Surroundings σ ν) (run : RunId) (capacity : Nat)
    (cancelAt : Option Nat) (now : Nat) (tasks : List (Task ν)) (w : σ) :
    ∃ as, Steps (initial capacity now tasks) as
        (lastState env run capacity cancelAt now tasks w) ∧
      let t := (supervise now cancelAt).1
      let c := as.foldl (signal t) (supervise now cancelAt).2
      c.isCancelled t = (dispatch env run capacity cancelAt now tasks w).cancelled ∧
        ∀ child : Token, child.ancestors = t.lineage → child.id ∉ t.lineage →
          c.isCancelled child = (dispatch env run capacity cancelAt now tasks w).cancelled := by
  obtain ⟨as, hsteps⟩ := exists_steps_proceed env run cancelAt (actionBound tasks.length)
    (initial capacity now tasks) w
  refine ⟨as, hsteps, ?_⟩
  intro t c
  have htracks : Tracks c t cancelAt (lastState env run capacity cancelAt now tasks w) :=
    (tracks_initial capacity now cancelAt tasks).steps hsteps
  have htoken : c.isCancelled t = (dispatch env run capacity cancelAt now tasks w).cancelled := by
    rw [cancelled_dispatch, Bool.eq_iff_iff, htracks.isCancelled_iff]
    refine or_iff_left_of_imp fun ⟨time, htime, hcome⟩ => ?_
    refine cancelled_lastState_of_cancelIsDue env run capacity cancelAt now tasks w ?_
    have hdue : cancelAt.any (· ≤ (lastState env run capacity cancelAt now tasks w).now) =
        true := (Option.any_eq_true _ _).2 ⟨time, htime, decide_eq_true hcome⟩
    rw [cancelIsDue, hdue, Bool.or_true, Bool.true_or]
  refine ⟨htoken, fun child hancestors hid => ?_⟩
  rw [← htoken]
  exact Cancellation.isCancelled_eq_of_ancestors hancestors fun h => hid (htracks.cancelled _ h)

end Dispatch

namespace Orchestrator

variable [Quantity ν]

/-! ## The triage of a run -/

/-- The run with an empty list beside its world, in which calls can be written down. -/
def Journey.recorded (j : Journey σ ν) : Journey (σ × List (Call σ ν)) ν :=
  ⟨j.run, j.messages, j.events, (j.world, [])⟩

/-- The calls that the triage of a run makes. -/
def Journey.calls (j : Journey σ ν) (e : TriageEngine σ ν) : List (Call σ ν) :=
  (j.recorded.triage e.recorded).world.2

/-- The triage of a run honours a cancellation: no provider is called once the run is to be
cancelled; a run that is to be cancelled before its triage is over says so; and if that was so when
its triage began, the rules judge its findings. -/
structure HonoursCancellation (env : Surroundings σ ν) (e : TriageEngine σ ν) (j : Journey σ ν) :
    Prop where
  uncalled : ∀ c ∈ j.calls e, env.wantsCancel c.world = false
  reported : env.wantsCancel (j.triage e).world = true → j.run.cancelled = true
  byRules : env.wantsCancel j.world = true →
    (j.triage e).findings = (e.triageByRules j.run.findings j.world).findings

section Triage

variable {j : Journey σ ν} (e : TriageEngine σ ν)

theorem triage_of_cancelled (h : j.run.cancelled = true) :
    j.triage e = e.triageByRules j.run.findings j.world :=
  if_pos h

theorem triage_of_not_cancelled (h : j.run.cancelled = false) :
    j.triage e = e.triage j.run.findings j.world := by
  rw [Journey.triage, h, if_neg Bool.false_ne_true]

/-- A cancelled run calls no provider. -/
theorem calls_of_cancelled (h : j.run.cancelled = true) : j.calls e = [] := by
  have htriage := triage_of_cancelled (j := j.recorded) e.recorded h
  rw [Journey.calls, htriage, TriageEngine.world_triageByRules]
  rfl

/-- A run that is not cancelled makes the calls of its triage. -/
theorem calls_of_not_cancelled (h : j.run.cancelled = false) :
    j.calls e = e.calls j.run.findings j.world := by
  have htriage := triage_of_not_cancelled (j := j.recorded) e.recorded h
  rw [Journey.calls, htriage]
  rfl

theorem honoursCancellation_of_cancelled (env : Surroundings σ ν) (h : j.run.cancelled = true) :
    HonoursCancellation env e j where
  uncalled := by
    rw [calls_of_cancelled e h]
    exact fun c hc => by cases hc
  reported := fun _ => h
  byRules := fun _ => by rw [triage_of_cancelled e h]

end Triage

/-! ## The whole run -/

section Run

variable (o : Orchestrator α σ ν) (env : Surroundings σ ν) (occasion : Occasion)
  (target : AnalysisTarget) (criteria : SelectionCriteria) (w : σ)

/-- The run when its triage begins. -/
def untriaged : Journey σ ν :=
  ((((o.dispatched env occasion target criteria w).aggregated env
    (o.report env occasion target criteria w).outcomes).correlated env o.correlation).update
      countCorrelated).enter env .triaging

theorem cancelled_untriaged :
    (o.untriaged env occasion target criteria w).run.cancelled =
      (o.report env occasion target criteria w).cancelled := by
  have hcorrelated (j : Journey σ ν) (stage : Option (CorrelationConfig ν)) :
      (j.correlated env stage).run.cancelled = j.run.cancelled := by
    cases stage <;> rfl
  exact hcorrelated _ o.correlation

theorem completed_eq_of_triage {e : TriageEngine σ ν} (he : o.triage = some e) :
    o.completed env occasion target criteria w =
      (((o.untriaged env occasion target criteria w).withTriage env e).enter env .done).complete env
        (o.report env occasion target criteria w).now := by
  rw [completed, staged, he]
  rfl

/-- The moments of the run while its tasks are carried out. -/
def history : List (Dispatch.State ν × σ) :=
  Dispatch.history env occasion.id
    (o.config.capacity (o.registry.select target criteria).agents.length) occasion.cancelAt
    occasion.start (o.tasks target criteria) (o.opened env occasion target criteria w).world

/-- A run that is to be cancelled while its tasks are carried out is cancelled. -/
theorem cancelled_report_of_mem_history {m : Dispatch.State ν × σ}
    (hm : m ∈ o.history env occasion target criteria w)
    (hdue : Dispatch.cancelIsDue occasion.cancelAt (env.wantsCancel m.2) m.1 = true) :
    (o.report env occasion target criteria w).cancelled = true :=
  (Dispatch.cancelled_dispatch ..).trans
    (Dispatch.cancelled_lastState_of_mem_history _ _ _ _ _ _ _ hm hdue)

variable {o env occasion target criteria w}

/-- **What becomes of a cancellation.**  A run with triage says that it was cancelled exactly if it
was when its last task was over, and it was if at any moment until then the run was to be, because
somebody wanted it, its deadline had come or an agent had asked for it.  Then it calls no provider,
and its findings are judged by the rules; otherwise it makes the calls and has the findings of a
triage with its providers, whatever is wanted from then on. -/
theorem run_triage_of_cancelled {e : TriageEngine σ ν} (he : o.triage = some e) {r : Run ν}
    (h : (o.run env occasion target criteria w).1.answer = .ok r) :
    r.cancelled = (o.report env occasion target criteria w).cancelled ∧
      (∀ m ∈ o.history env occasion target criteria w,
        Dispatch.cancelIsDue occasion.cancelAt (env.wantsCancel m.2) m.1 = true →
          r.cancelled = true) ∧
      (r.cancelled = true →
        HonoursCancellation env e (o.untriaged env occasion target criteria w) ∧
          (o.untriaged env occasion target criteria w).calls e = [] ∧
          r.findings = (e.triageByRules (o.untriaged env occasion target criteria w).run.findings
            (o.untriaged env occasion target criteria w).world).findings) ∧
      (r.cancelled = false →
        (o.untriaged env occasion target criteria w).calls e =
            e.calls (o.untriaged env occasion target criteria w).run.findings
              (o.untriaged env occasion target criteria w).world ∧
          r.findings = (e.triage (o.untriaged env occasion target criteria w).run.findings
            (o.untriaged env occasion target criteria w).world).findings) := by
  obtain rfl := answer_run_eq_ok o env occasion target criteria w h
  have hcompleted := o.completed_eq_of_triage env occasion target criteria w he
  have hcancelled : (o.completed env occasion target criteria w).run.cancelled =
      (o.untriaged env occasion target criteria w).run.cancelled := by
    rw [hcompleted]
    rfl
  have hfindings : (o.completed env occasion target criteria w).run.findings =
      ((o.untriaged env occasion target criteria w).triage e).findings := by
    rw [hcompleted]
    rfl
  rw [hcancelled, hfindings]
  have hreported := o.cancelled_untriaged env occasion target criteria w
  refine ⟨hreported, fun m hm hdue => hreported.trans
    (o.cancelled_report_of_mem_history env occasion target criteria w hm hdue), fun hc => ?_,
    fun hc => ?_⟩
  · rw [triage_of_cancelled e hc]
    exact ⟨honoursCancellation_of_cancelled e env hc, calls_of_cancelled e hc, rfl⟩
  · rw [triage_of_not_cancelled e hc]
    exact ⟨calls_of_not_cancelled e hc, rfl⟩

end Run

/-! ## Two cancellations -/

/-- A service that cannot be reached. -/
def unreachable : Provider Bool ℚ where
  name := "unreachable"
  model := "none"
  estimate := fun _ _ => 0
  classify := fun _ w => (.error (.unavailable "no connection"), w)

/-- A triage that asks that service. -/
def loneEngine : TriageEngine Bool ℚ :=
  (TriageEngine.of .standard).addProvider
    { provider := unreachable, priority := 0, maxCostPerCall := 1 }

/-- One agent, which reports one leak, and that triage. -/
def lonePipeline : Orchestrator String Bool ℚ where
  registry :=
    { entries := [("lone", { descriptor := { name := "lone" }, factory := fun _ => "lone" })] }
  config := {}
  triage := some loneEngine
  work := fun _ _ =>
    { duration := some 5
      ending := .answer (.ok [.record
        { findingType := some "Leak", file := some "m.c", line := some 10 }]) }

/-- What the lone pipeline is run on. -/
def loneTarget : AnalysisTarget := ⟨"m.c", some "c"⟩

/-- Somebody who cancels a run at the first step of some kind. -/
def cancelledOn (kind : ProgressEvent → Bool) : Surroundings Bool ℚ where
  observe := fun m w => w || m.payload.progress?.any fun p => kind p.2
  wantsCancel := id

/-- Somebody who cancels a run when an agent has finished. -/
def promptCancellation : Surroundings Bool ℚ :=
  cancelledOn fun e => match e with
    | .agentFinished .. => true
    | _ => false

/-- Somebody who cancels a run when its findings are aggregated. -/
def lateCancellation : Surroundings Bool ℚ :=
  cancelledOn (· == .phaseChanged .aggregated)

/-- A cancellation that comes with the end of the last agent is honoured. -/
theorem run_triage_of_cancelled_promptCancellation :
    ∃ r, (lonePipeline.run promptCancellation { id := ⟨"prompt"⟩ } loneTarget {} false).1.answer =
        .ok r ∧ r.cancelled = true ∧
      HonoursCancellation promptCancellation loneEngine
        (lonePipeline.untriaged promptCancellation { id := ⟨"prompt"⟩ } loneTarget {} false) := by
  have hcancelled :
      (lonePipeline.report promptCancellation { id := ⟨"prompt"⟩ } loneTarget {} false).cancelled =
        true := by
    decide +kernel
  have hanswer := congrArg Finished.answer (run_of_succeeded lonePipeline promptCancellation
    { id := ⟨"prompt"⟩ } loneTarget {} false (by decide +kernel) (by decide +kernel))
  obtain ⟨hreported, -, hhonours, -⟩ := run_triage_of_cancelled (e := loneEngine) rfl hanswer
  have hr := hreported.trans hcancelled
  exact ⟨_, hanswer, hr, (hhonours hr).1⟩

/-- **A cancellation after that is not honoured**: the run calls a provider once it is to be
cancelled, and it does not say that it was cancelled. -/
theorem not_honoursCancellation_lateCancellation :
    ∃ r, (lonePipeline.run lateCancellation { id := ⟨"late"⟩ } loneTarget {} false).1.answer =
        .ok r ∧ r.cancelled = false ∧
      ¬ HonoursCancellation lateCancellation loneEngine
        (lonePipeline.untriaged lateCancellation { id := ⟨"late"⟩ } loneTarget {} false) := by
  have hanswer := congrArg Finished.answer (run_of_succeeded lonePipeline lateCancellation
    { id := ⟨"late"⟩ } loneTarget {} false (by decide +kernel) (by decide +kernel))
  have hcalled : ((lonePipeline.untriaged lateCancellation { id := ⟨"late"⟩ } loneTarget {}
      false).calls loneEngine).any (fun c => lateCancellation.wantsCancel c.world) = true := by
    decide +kernel
  refine ⟨_, hanswer, by decide +kernel, fun hhonours => ?_⟩
  obtain ⟨c, hc, hwanted⟩ := List.any_eq_true.1 hcalled
  rw [hhonours.uncalled c hc] at hwanted
  cases hwanted

end Orchestrator

end Vigil
