import Mathlib.Data.List.Induction
import Vigil.Audit.Log
import Vigil.Proofs.Triage.Fallback
import Vigil.Proofs.Triage.Steps

/-!
# Runs that share an engine and a log

Several calls of triage are on their way at once, on one engine and with one log, and in any order
each of them makes its next step.  What a call records is entered for its own run, and what it
spends it keeps for itself; so, as long as providers answer as a function of the request, no call
can tell that there are others.

* `Shared.step` and `Shared.after` -- the steps of calls that share a log and a world;
* `HasDone` -- what is left of an activity after so many of its turns, and what it has recorded;
* `hasDone_after` -- in any schedule, a call has done just what its own turns amount to;
* `triage_isolated` -- **the main result**: calls for different runs return and record what they
  would alone, whatever the schedule, and the log stays numbered and only grows.
-/

namespace Vigil

variable {σ ν α : Type}

/-! ## Calls that share a log -/

/-- Calls on their way, each with its run, the log that they share, and the world. -/
structure Shared (σ ν α : Type) where
  calls : List (RunId × Activity σ ν α)
  log : AuditLog ν
  world : σ

namespace Shared

/-- The result of a call, if the call is over. -/
def answer? (s : Shared σ ν α) (i : Nat) : Option α :=
  match s.calls[i]? with
  | some (_, .ended result) => some result
  | _ => none

theorem eq_ended_of_answer? {s : Shared σ ν α} {i : Nat} {run : RunId} {rest : Activity σ ν α}
    {result : α} (hrest : s.calls[i]? = some (run, rest)) (h : s.answer? i = some result) :
    rest = .ended result := by
  rw [answer?, hrest] at h
  cases rest with
  | ended a => rw [Option.some.inj h]
  | attempt handle r remaining next => cases h
  | record event next => cases h

variable [Quantity ν]

/-- One of the calls makes its next step; its events are recorded for its run. -/
def step (s : Shared σ ν α) (i : Nat) : Shared σ ν α :=
  match s.calls[i]? with
  | none => s
  | some (run, a) =>
    let m := a.advance s.world
    ⟨s.calls.set i (run, m.rest), s.log.recordAll (some run) m.events, m.world⟩

/-- The calls make steps in turn, as the schedule says. -/
def after (s : Shared σ ν α) (schedule : List Nat) : Shared σ ν α :=
  schedule.foldl step s

theorem after_append (s : Shared σ ν α) (schedule schedule' : List Nat) :
    s.after (schedule ++ schedule') = (s.after schedule).after schedule' :=
  List.foldl_append

theorem after_concat (s : Shared σ ν α) (schedule : List Nat) (i : Nat) :
    s.after (schedule ++ [i]) = (s.after schedule).step i :=
  s.after_append schedule [i]

/-! ### One step -/

section Step

variable {s : Shared σ ν α} {i : Nat} {run : RunId} {a : Activity σ ν α}

theorem step_of_none (h : s.calls[i]? = none) : s.step i = s := by
  rw [step, h]

theorem step_of_some (h : s.calls[i]? = some (run, a)) :
    s.step i = ⟨s.calls.set i (run, (a.advance s.world).rest),
      s.log.recordAll (some run) (a.advance s.world).events, (a.advance s.world).world⟩ := by
  rw [step, h]

theorem runs_step (s : Shared σ ν α) (i : Nat) :
    (s.step i).calls.map (·.1) = s.calls.map (·.1) := by
  cases h : s.calls[i]? with
  | none => rw [step_of_none h]
  | some call =>
    obtain ⟨run, a⟩ := call
    rw [step_of_some h, List.map_set]
    refine List.ext_getElem? fun j => ?_
    by_cases hij : i = j
    · obtain ⟨hi, hcall⟩ := List.getElem?_eq_some_iff.1 h
      subst hij
      rw [List.getElem?_set_self (by rwa [List.length_map]), List.getElem?_map, h]
      rfl
    · rw [List.getElem?_set_ne hij]

/-- A call that makes a step advances, and records its events for its own run. -/
theorem step_self (h : s.calls[i]? = some (run, a)) :
    (s.step i).calls[i]? = some (run, (a.advance s.world).rest) ∧
      (s.step i).log.eventsFor run = s.log.eventsFor run ++ (a.advance s.world).events := by
  obtain ⟨hi, -⟩ := List.getElem?_eq_some_iff.1 h
  rw [step_of_some h]
  exact ⟨List.getElem?_set_self hi, s.log.eventsFor_recordAll run _⟩

/-- **The step of another call changes nothing for a call**, if their runs are different. -/
theorem step_of_ne (hruns : (s.calls.map (·.1)).Nodup) (h : s.calls[i]? = some (run, a)) {j : Nat}
    (hij : j ≠ i) :
    (s.step j).calls[i]? = some (run, a) ∧
      (s.step j).log.eventsFor run = s.log.eventsFor run := by
  cases hj : s.calls[j]? with
  | none =>
    rw [step_of_none hj]
    exact ⟨h, rfl⟩
  | some call =>
    obtain ⟨other, b⟩ := call
    have hother : other ≠ run := by
      intro hsame
      have hi' : (s.calls.map (·.1))[i]? = some run := by rw [List.getElem?_map, h]; rfl
      have hj' : (s.calls.map (·.1))[j]? = some run := by
        rw [List.getElem?_map, hj, ← hsame]
        rfl
      obtain ⟨hlt, -⟩ := List.getElem?_eq_some_iff.1 hj'
      exact hij ((List.getElem?_inj hlt hruns).1 (hj'.trans hi'.symm))
    rw [step_of_some hj]
    exact ⟨(List.getElem?_set_ne hij).trans h, s.log.eventsFor_recordAll_of_ne hother _⟩

end Step

/-! ### All steps -/

theorem runs_after (s : Shared σ ν α) (schedule : List Nat) :
    (s.after schedule).calls.map (·.1) = s.calls.map (·.1) := by
  induction schedule generalizing s with
  | nil => rfl
  | cons i rest ih => exact (ih (s.step i)).trans (s.runs_step i)

/-- The log stays numbered. -/
theorem isNumbered_after {s : Shared σ ν α} (h : s.log.IsNumbered) (schedule : List Nat) :
    (s.after schedule).log.IsNumbered := by
  induction schedule generalizing s with
  | nil => exact h
  | cons i rest ih =>
    refine ih (s := s.step i) ?_
    cases hi : s.calls[i]? with
    | none =>
      rw [step_of_none hi]
      exact h
    | some call =>
      rw [step_of_some hi]
      exact h.recordAll _ _

/-- The log only grows. -/
theorem prefix_after (s : Shared σ ν α) (schedule : List Nat) :
    s.log.entries <+: (s.after schedule).log.entries := by
  induction schedule generalizing s with
  | nil => exact List.prefix_refl _
  | cons i rest ih =>
    refine List.IsPrefix.trans ?_ (ih (s.step i))
    cases hi : s.calls[i]? with
    | none => simp only [step_of_none hi, List.prefix_refl]
    | some call =>
      rw [step_of_some hi]
      exact s.log.prefix_recordAll _ _

end Shared

/-! ## What a call has done -/

namespace Activity

variable [Quantity ν]

/-- After so many turns, `rest` is left of the activity, and these events have been recorded: with
them, the rest comes to what the activity comes to alone, in whatever world. -/
structure HasDone (a : Activity σ ν α) (turns : Nat) (rest : Activity σ ν α)
    (recorded : List (AuditEvent ν)) : Prop where
  isStateless : rest.IsStateless
  result : ∀ w, (a.alone w).1.result = (rest.alone w).1.result
  events : ∀ w, (a.alone w).1.events = recorded ++ (rest.alone w).1.events
  steps : ∀ w, (a.alone w).1.steps - turns = (rest.alone w).1.steps

theorem HasDone.refl {a : Activity σ ν α} (h : a.IsStateless) : a.HasDone 0 a [] :=
  ⟨h, fun _ => rfl, fun _ => rfl, fun _ => rfl⟩

/-- One more turn, in whatever world. -/
theorem HasDone.advance {a rest : Activity σ ν α} {turns : Nat} {recorded : List (AuditEvent ν)}
    (h : a.HasDone turns rest recorded) (w : σ) :
    a.HasDone (turns + 1) (rest.advance w).rest (recorded ++ (rest.advance w).events) := by
  have hstep (w' : σ) := account_advance h.isStateless w w'
  constructor
  · exact (hstep w).1
  · intro w'
    exact (h.result w').trans (hstep w').2.1
  · intro w'
    rw [h.events w', (hstep w').2.2.1, List.append_assoc]
  · intro w'
    rw [← (hstep w').2.2.2, ← h.steps w', Nat.sub_add_eq]

end Activity

namespace Shared

variable [Quantity ν]

/-- **In any schedule, a call has done just what its own turns amount to.** -/
theorem hasDone_after {s : Shared σ ν α} (hruns : (s.calls.map (·.1)).Nodup) {i : Nat}
    {run : RunId} {a : Activity σ ν α} (h : s.calls[i]? = some (run, a)) (ha : a.IsStateless)
    (schedule : List Nat) :
    ∃ rest recorded, (s.after schedule).calls[i]? = some (run, rest) ∧
      (s.after schedule).log.eventsFor run = s.log.eventsFor run ++ recorded ∧
      a.HasDone (schedule.count i) rest recorded := by
  induction schedule using List.reverseRecOn with
  | nil => exact ⟨a, [], h, (List.append_nil _).symm, .refl ha⟩
  | append_singleton schedule j ih =>
    obtain ⟨rest, recorded, hrest, hlog, hdone⟩ := ih
    rw [after_concat, List.count_append, List.count_singleton]
    by_cases hij : j = i
    · subst hij
      obtain ⟨hrest', hlog'⟩ := step_self hrest
      rw [beq_self_eq_true, if_pos rfl]
      refine ⟨_, _, hrest', ?_, hdone.advance (s.after schedule).world⟩
      rw [hlog', hlog, List.append_assoc]
    · have hruns' : ((s.after schedule).calls.map (·.1)).Nodup := by
        rw [runs_after]
        exact hruns
      obtain ⟨hrest', hlog'⟩ := step_of_ne hruns' hrest hij
      rw [if_neg (by simpa using hij), Nat.add_zero]
      exact ⟨rest, recorded, hrest', hlog'.trans hlog, hdone⟩

end Shared

/-! ## Calls of triage -/

/-- A call of triage: the run that it is for, whether it is to use the rules alone, and the
findings. -/
structure TriageCall (ν : Type) where
  run : RunId
  byRules : Bool := false
  findings : List (Finding ν)

namespace TriageCall

variable [Quantity ν]

/-- What the call comes to on an engine without any other. -/
def outcome (c : TriageCall ν) (e : TriageEngine σ ν) (w : σ) : TriageEngine.Outcome σ ν :=
  if c.byRules then e.triageByRules c.findings w else e.triage c.findings w

/-- The steps of the call on an engine. -/
def activity (c : TriageCall ν) (e : TriageEngine σ ν) :
    Activity σ ν (TriageEngine.Answer ν) :=
  e.judging (!c.byRules && e.config.aiEnabled) c.findings (Budget.full e.config.totalCostCeiling)

/-- **Without any other, the steps of a call are the call.** -/
theorem alone_activity (c : TriageCall ν) (e : TriageEngine σ ν) (w : σ) :
    ∃ steps, (c.activity e).alone w =
      (⟨(c.outcome e w).answer, (c.outcome e w).events, steps⟩, (c.outcome e w).world) := by
  have hjudging (useProviders : Bool) :=
    e.alone_judging useProviders c.findings (Budget.full e.config.totalCostCeiling) w
  rw [activity, outcome]
  cases c.byRules with
  | true => exact hjudging false
  | false => exact hjudging e.config.aiEnabled

end TriageCall

namespace TriageEngine

variable [Quantity ν]

/-- Calls that begin on one engine, with one log. -/
def share (e : TriageEngine σ ν) (calls : List (TriageCall ν)) (log : AuditLog ν) (w : σ) :
    Shared σ ν (Answer ν) :=
  ⟨calls.map fun c => (c.run, c.activity e), log, w⟩

section Isolated

variable {e : TriageEngine σ ν} {calls : List (TriageCall ν)}

theorem runs_share (log : AuditLog ν) (w : σ) :
    (e.share calls log w).calls.map (·.1) = calls.map (·.run) := by
  rw [share, List.map_map]
  rfl

theorem getElem?_calls_share {i : Nat} {c : TriageCall ν} (hc : calls[i]? = some c)
    (log : AuditLog ν) (w : σ) :
    (e.share calls log w).calls[i]? = some (c.run, c.activity e) := by
  rw [share, List.getElem?_map, hc]
  rfl

/-- **Runs that share an engine and a log do not interfere.**  Any calls of triage for different
runs make their steps on one engine, in the order of any schedule, with providers that answer as a
function of the request.  At every moment the log is numbered from zero in its own order, and holds
the entries of every earlier moment unchanged.  Each call has, as its own events, a beginning of
those that it would record alone; once it is over, it has recorded just those and returns just the
findings and the summary that it would return alone; and it is over as soon as it has had as many
turns as it would make steps alone. -/
theorem triage_isolated (hproviders : ∀ h ∈ e.providers, h.provider.AnswersByRequest)
    (hruns : (calls.map (·.run)).Nodup) {log : AuditLog ν} (hlog : log.IsNumbered) (w : σ)
    (schedule : List Nat) :
    let start := e.share calls log w
    let s := start.after schedule
    s.log.IsNumbered ∧
      (∀ n, (start.after (schedule.take n)).log.entries <+: s.log.entries) ∧
      ∀ i c, calls[i]? = some c → ∀ w',
        let alone := c.outcome e w'
        s.log.eventsFor c.run <+: log.eventsFor c.run ++ alone.events ∧
          (∀ answer, s.answer? i = some answer →
            answer = (alone.findings, alone.summary) ∧
              s.log.eventsFor c.run = log.eventsFor c.run ++ alone.events) ∧
          (((c.activity e).alone w').1.steps ≤ schedule.count i →
            s.answer? i = some (alone.findings, alone.summary)) := by
  intro start s
  refine ⟨Shared.isNumbered_after hlog schedule, fun n => ?_, fun i c hc w' => ?_⟩
  · have hsplit : s = (start.after (schedule.take n)).after (schedule.drop n) := by
      rw [← Shared.after_append, List.take_append_drop]
    rw [hsplit]
    exact Shared.prefix_after _ _
  intro alone
  obtain ⟨steps, halone⟩ := c.alone_activity e w'
  have hstart : (start.calls.map (·.1)).Nodup := by
    rw [runs_share]
    exact hruns
  obtain ⟨rest, recorded, hrest, hevents, hdone⟩ := Shared.hasDone_after hstart
    (getElem?_calls_share hc log w) (isStateless_judging hproviders _ _ _) schedule
  -- What is left has its own share of the events, and the same result.
  have hresult : (rest.alone w').1.result = (alone.findings, alone.summary) := by
    rw [← hdone.result w', halone]
    rfl
  have hrecorded : alone.events = recorded ++ (rest.alone w').1.events := by
    rw [← hdone.events w', halone]
  refine ⟨?_, fun answer hanswer => ?_, fun hturns => ?_⟩
  · rw [hevents, hrecorded, ← List.append_assoc]
    exact List.prefix_append _ _
  · obtain rfl := Shared.eq_ended_of_answer? hrest hanswer
    refine ⟨hresult, ?_⟩
    have hnothing : (Activity.ended answer : Activity σ ν (Answer ν)).alone w' =
        (⟨answer, [], 0⟩, w') := rfl
    rw [hnothing, List.append_nil] at hrecorded
    rw [hevents, hrecorded]
    rfl
  · have hended := Activity.eq_ended_of_steps_eq_zero
      ((hdone.steps w').symm.trans (Nat.sub_eq_zero_of_le hturns))
    rw [hresult] at hended
    rw [Shared.answer?, hrest, hended]

end Isolated

/-- A provider that counts its calls, and bills one unit for each. -/
def billing : Provider Nat ℚ where
  name := "billing"
  model := "none"
  estimate := fun _ _ => 1
  classify := fun _ n => (.ok ⟨"a true positive", 1, "billing", "none", 1⟩, n + 1)

theorem answersByRequest_billing : billing.AnswersByRequest :=
  ⟨fun _ _ _ => rfl, fun _ _ _ => rfl⟩

/-- A triage with that provider and without signatures, whose budget pays for one answer. -/
def frugalEngine : TriageEngine Nat ℚ where
  config := { (.standard : TriageConfig ℚ) with totalCostCeiling := 1 }
  rules := .of [] 0
  providers := [⟨billing, 0, 1, true⟩]

/-- A call with two leaks. -/
def twoLeaksFor (run : String) : TriageCall ℚ where
  run := ⟨run⟩
  findings := [leak, { leak with id := "leak-2" }]

/-- Two calls take turns on that engine: each can pay for one answer of the provider, as if there
were no other. -/
theorem triage_isolated_frugalEngine :
    let calls := [twoLeaksFor "first", twoLeaksFor "second"]
    let s := (frugalEngine.share calls {} 0).after [0, 1, 0, 1, 0, 1, 0, 1, 0, 1]
    s.log.IsNumbered ∧ s.log.size = 6 ∧
      ∀ i c, calls[i]? = some c →
        s.answer? i = some ((c.outcome frugalEngine 0).findings, ⟨1, 1, 0, 1⟩) := by
  intro calls s
  have hproviders : ∀ h ∈ frugalEngine.providers, h.provider.AnswersByRequest :=
    List.forall_mem_singleton.2 answersByRequest_billing
  have hruns : (calls.map (·.run)).Nodup := by decide
  obtain ⟨hnumbered, -, hcalls⟩ := triage_isolated hproviders hruns AuditLog.isNumbered_empty 0
    [0, 1, 0, 1, 0, 1, 0, 1, 0, 1]
  have hturns : ∀ i < 2, ∀ c ∈ calls[i]?, ((c.activity frugalEngine).alone 0).1.steps ≤
        [0, 1, 0, 1, 0, 1, 0, 1, 0, 1].count i ∧
      (c.outcome frugalEngine 0).summary = ⟨1, 1, 0, 1⟩ := by
    decide +kernel
  refine ⟨hnumbered, by decide +kernel, fun i c hc => ?_⟩
  obtain ⟨hi, -⟩ := List.getElem?_eq_some_iff.1 hc
  obtain ⟨hsteps, hsummary⟩ := hturns i hi c hc
  rw [(hcalls i c hc 0).2.2 hsteps, hsummary]

end TriageEngine

end Vigil
