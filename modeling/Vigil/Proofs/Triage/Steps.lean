import Vigil.Proofs.Triage.Calls

/-!
# Triage, step by step

A call of triage does two things that others can see: it tries providers, and it records events.
`Activity` is what is left of a call between two such steps; what a call keeps for itself, such as
its budget, is in what it does next.  So a call can be carried out in steps (`advance`), with
anything else in between, or from its beginning to its end (`alone`).

* `alone_bind` -- an activity after another, carried out alone;
* `alone_consulting`, `alone_judging` -- carried out alone, the activities of a chain and of a batch
  are `consult` and `judge`;
* `IsStateless` -- all providers that an activity may try answer as a function of the request;
* `account_eq` and `account_advance` -- such an activity comes to the same in every world, and one
  step takes from it what the step has done.
-/

namespace Vigil

variable {σ ν α β : Type}

/-- What is left of a call: nothing but its result, an attempt of a provider, or an event to
record. -/
inductive Activity (σ ν α : Type) where
  | ended (result : α)
  | attempt (h : Handle σ ν) (r : Request) (remaining : ν) (next : Attempt ν → Activity σ ν α)
  | record (event : AuditEvent ν) (next : Activity σ ν α)

/-- What a call comes to: its result, the events that it records, and the number of its steps. -/
structure Account (ν α : Type) where
  result : α
  events : List (AuditEvent ν)
  steps : Nat

namespace Activity

/-- One activity after another. -/
def bind : Activity σ ν α → (α → Activity σ ν β) → Activity σ ν β
  | ended a, k => k a
  | attempt h r remaining next, k => attempt h r remaining fun x => (next x).bind k
  | record event next, k => record event (next.bind k)

/-- The activity with another result. -/
def map (f : α → β) (a : Activity σ ν α) : Activity σ ν β :=
  a.bind fun x => ended (f x)

/-- Record several events, in order. -/
def recordAll (events : List (AuditEvent ν)) (next : Activity σ ν α) : Activity σ ν α :=
  events.foldr record next

variable [Quantity ν]

/-! ## Steps -/

/-- A step: what is left, the events that it records, and the world afterwards. -/
structure Step (σ ν α : Type) where
  rest : Activity σ ν α
  events : List (AuditEvent ν)
  world : σ

/-- Make one step, if any is left. -/
def advance : Activity σ ν α → σ → Step σ ν α
  | ended a, w => ⟨ended a, [], w⟩
  | attempt h r remaining next, w =>
    let (x, w) := h.attempt r remaining w
    ⟨next x, [], w⟩
  | record event next, w => ⟨next, [event], w⟩

/-- Carry out an activity without anything in between: what it comes to, and the world
afterwards. -/
def alone : Activity σ ν α → σ → Account ν α × σ
  | ended a, w => (⟨a, [], 0⟩, w)
  | attempt h r remaining next, w =>
    let (x, w) := h.attempt r remaining w
    let (o, w) := (next x).alone w
    ({ o with steps := o.steps + 1 }, w)
  | record event next, w =>
    let (o, w) := next.alone w
    ({ o with events := event :: o.events, steps := o.steps + 1 }, w)

/-! ## One activity after another -/

theorem alone_bind (a : Activity σ ν α) (k : α → Activity σ ν β) (w : σ) :
    (a.bind k).alone w =
      let (o, w) := a.alone w
      let (p, w) := (k o.result).alone w
      (⟨p.result, o.events ++ p.events, o.steps + p.steps⟩, w) := by
  induction a generalizing w with
  | ended a => simp only [bind, alone, List.nil_append, Nat.zero_add]
  | attempt h r remaining next ih =>
    simp only [bind, alone, ih, Nat.add_right_comm _ 1]
  | record event next ih =>
    simp only [bind, alone, ih, List.cons_append, Nat.add_right_comm _ 1]

theorem alone_map (f : α → β) (a : Activity σ ν α) (w : σ) :
    (a.map f).alone w =
      (⟨f (a.alone w).1.result, (a.alone w).1.events, (a.alone w).1.steps⟩, (a.alone w).2) := by
  simp only [map, alone_bind, alone, List.append_nil, Nat.add_zero]

theorem alone_recordAll (events : List (AuditEvent ν)) (next : Activity σ ν α) (w : σ) :
    (recordAll events next).alone w =
      (⟨(next.alone w).1.result, events ++ (next.alone w).1.events,
        events.length + (next.alone w).1.steps⟩, (next.alone w).2) := by
  induction events with
  | nil => simp only [recordAll, List.foldr_nil, List.nil_append, List.length_nil, Nat.zero_add]
  | cons event rest ih =>
    rw [recordAll] at ih ⊢
    rw [List.foldr_cons, alone, ih]
    simp only [List.cons_append, List.length_cons, Nat.add_right_comm _ _ 1]

end Activity

/-! ## The steps of triage -/

namespace TriageEngine

open Activity

variable [Quantity ν]

/-- The steps of consulting the enabled providers of a chain. -/
def consulting (findingId : String) (request : Request) :
    List (Handle σ ν) → Budget ν →
      Activity σ ν (Option (Classification ν × Option Severity) × Budget ν)
  | [], b => ended (none, b)
  | h :: rest, b =>
    if h.enabled then
      attempt h request b.remaining fun
        | .classified r =>
          match Verdict.parse r.content with
          | .ok v => ended (some (classificationOf r v, v.severity), b.charge r.cost)
          | .error reason =>
            record (failure findingId h (.invalidResponse reason))
              (consulting findingId request rest (b.charge r.cost))
        | .costExceeded estimated limit =>
          record (.costCeilingExceeded findingId h.provider.name estimated limit)
            (consulting findingId request rest b)
        | .failed e => record (failure findingId h e) (consulting findingId request rest b)
    else consulting findingId request rest b

-- How verdicts are read does not matter here, and unfolding it would take long.
attribute [local irreducible] Verdict.parse in
theorem consulting_cons (id : String) (r : Request) (h : Handle σ ν) (rest : List (Handle σ ν))
    (b : Budget ν) :
    consulting id r (h :: rest) b =
      if h.enabled then
        attempt h r b.remaining fun
          | .classified response =>
            match Verdict.parse response.content with
            | .ok v =>
              ended (some (classificationOf response v, v.severity), b.charge response.cost)
            | .error reason =>
              record (failure id h (.invalidResponse reason))
                (consulting id r rest (b.charge response.cost))
          | .costExceeded estimated limit =>
            record (.costCeilingExceeded id h.provider.name estimated limit)
              (consulting id r rest b)
          | .failed e => record (failure id h e) (consulting id r rest b)
      else consulting id r rest b := rfl

/-- The findings and the counts of a call. -/
abbrev Answer (ν : Type) := List (Finding ν) × TriageSummary ν

/-- An answer with a finding in front that was left as it is. -/
def Answer.keep (f : Finding ν) (a : Answer ν) : Answer ν :=
  (f :: a.1, a.2)

/-- An answer with a finding in front that was judged, by a provider or not. -/
def Answer.judged (g : Finding ν) (byProvider : Bool) (a : Answer ν) : Answer ν :=
  (g :: a.1,
    { a.2 with
      byProviders := a.2.byProviders + if byProvider then 1 else 0
      byRules := a.2.byRules + if byProvider then 0 else 1
      humanReview := a.2.humanReview + if g.needsReview then 1 else 0 })

/-- The steps of judging the pending findings of a list. -/
def judging (e : TriageEngine σ ν) (useProviders : Bool) :
    List (Finding ν) → Budget ν → Activity σ ν (Answer ν)
  | [], b => ended ([], ⟨0, 0, 0, b.spent⟩)
  | f :: rest, b =>
    if f.isTriaged then (judging e useProviders rest b).map (Answer.keep f)
    else
      let consultation :=
        if useProviders then consulting f.id (e.requestFor f) e.providers b else ended (none, b)
      consultation.bind fun (decision, b) =>
        let (c, suggested) := decision.getD (classificationByRules e.rules f, none)
        let g := settle f c suggested
        recordAll (verdictEvents g c)
          ((judging e useProviders rest b).map (Answer.judged g decision.isSome))

/-- The findings and the counts of an outcome. -/
def Outcome.answer (o : Outcome σ ν) : Answer ν :=
  (o.findings, o.summary)

/-- **The steps of a chain are its consultation.** -/
theorem alone_consulting (id : String) (r : Request) (hs : List (Handle σ ν)) (b : Budget ν)
    (w : σ) :
    ∃ steps, (consulting id r hs b).alone w =
      (⟨((consult id r hs b w).decision, (consult id r hs b w).budget),
        (consult id r hs b w).events, steps⟩, (consult id r hs b w).world) := by
  induction hs generalizing b w with
  | nil => exact ⟨0, rfl⟩
  | cons h rest ih =>
    have hafter (event : AuditEvent ν) (b : Budget ν) (w : σ) :
        ∃ steps, (record event (consulting id r rest b)).alone w =
          (⟨((consult id r rest b w).decision, (consult id r rest b w).budget),
            event :: (consult id r rest b w).events, steps⟩, (consult id r rest b w).world) := by
      obtain ⟨steps, hrest⟩ := ih b w
      exact ⟨steps + 1, by rw [alone, hrest]⟩
    rw [consulting_cons, consult_cons]
    by_cases henabled : h.enabled = true
    · rw [if_pos henabled, if_pos henabled, alone]
      rcases h.attempt r b.remaining w with ⟨response | ⟨estimated, limit⟩ | error, w'⟩
      · dsimp only
        cases (Verdict.parse response.content : Except String (Verdict ν)) with
        | ok v => exact ⟨1, rfl⟩
        | error reason =>
          obtain ⟨steps, hrest⟩ := hafter _ _ _
          exact ⟨steps + 1, by dsimp only; rw [hrest]; rfl⟩
      · obtain ⟨steps, hrest⟩ := hafter _ _ _
        exact ⟨steps + 1, by dsimp only; rw [hrest]; rfl⟩
      · obtain ⟨steps, hrest⟩ := hafter _ _ _
        exact ⟨steps + 1, by dsimp only; rw [hrest]; rfl⟩
    · rw [if_neg henabled, if_neg henabled]
      exact ih b w

theorem alone_consultation (e : TriageEngine σ ν) (useProviders : Bool) (f : Finding ν)
    (b : Budget ν) (w : σ) :
    ∃ steps, (if useProviders then consulting f.id (e.requestFor f) e.providers b
        else ended (none, b) : Activity σ ν _).alone w =
      (⟨((e.consultation useProviders f b w).decision, (e.consultation useProviders f b w).budget),
        (e.consultation useProviders f b w).events, steps⟩,
        (e.consultation useProviders f b w).world) := by
  cases useProviders with
  | false => exact ⟨0, rfl⟩
  | true => exact alone_consulting f.id (e.requestFor f) e.providers b w

/-- **The steps of a batch are its judgement.** -/
theorem alone_judging (e : TriageEngine σ ν) (useProviders : Bool) (l : List (Finding ν))
    (b : Budget ν) (w : σ) :
    ∃ steps, (e.judging useProviders l b).alone w =
      (⟨(e.judge useProviders l b w).answer, (e.judge useProviders l b w).events, steps⟩,
        (e.judge useProviders l b w).world) := by
  induction l generalizing b w with
  | nil => exact ⟨0, rfl⟩
  | cons f rest ih =>
    rw [judging, judge]
    by_cases hf : f.isTriaged = true
    · obtain ⟨steps, hrest⟩ := ih b w
      rw [if_pos hf, if_pos hf, alone_map, hrest]
      exact ⟨steps, rfl⟩
    · obtain ⟨first, hconsulted⟩ := e.alone_consultation useProviders f b w
      obtain ⟨steps, hrest⟩ := ih (e.consultation useProviders f b w).budget
        (e.consultation useProviders f b w).world
      rw [if_neg hf, if_neg hf, alone_bind, hconsulted]
      dsimp only
      rw [alone_recordAll, alone_map, hrest]
      dsimp only
      rw [← List.append_assoc]
      exact ⟨_, rfl⟩

end TriageEngine

/-! ## Providers that answer as a function of the request -/

/-- What the provider answers to a request, and what it says that the answer will cost, does not
depend on the world. -/
structure Provider.AnswersByRequest (p : Provider σ ν) : Prop where
  estimate : ∀ r w w', p.estimate r w = p.estimate r w'
  answer : ∀ r w w', (p.classify r w).1 = (p.classify r w').1

section Stateless

variable [Quantity ν]

theorem Handle.attempt_of_answersByRequest {h : Handle σ ν} (hp : h.provider.AnswersByRequest)
    (r : Request) (remaining : ν) (w w' : σ) :
    (h.attempt r remaining w).1 = (h.attempt r remaining w').1 := by
  have hestimate := hp.estimate r w w'
  have hrefuses : h.refuses r remaining w = h.refuses r remaining w' :=
    congrArg (Quantity.below (h.limit remaining)) hestimate
  by_cases hr : h.refuses r remaining w' = true
  · rw [Handle.attempt_of_refuses (hrefuses.trans hr), Handle.attempt_of_refuses hr, hestimate]
  · rw [Bool.not_eq_true] at hr
    rw [Handle.attempt_of_not_refuses (hrefuses.trans hr), Handle.attempt_of_not_refuses hr]
    exact congrArg Attempt.ofAnswer (hp.answer r w w')

namespace Activity

/-- All providers that the activity may try answer as a function of the request. -/
inductive IsStateless : Activity σ ν α → Prop
  | ended (result : α) : IsStateless (ended result)
  | attempt {h : Handle σ ν} {r : Request} {remaining : ν} {next : Attempt ν → Activity σ ν α}
    (hprovider : h.provider.AnswersByRequest) (hnext : ∀ x, IsStateless (next x)) :
    IsStateless (attempt h r remaining next)
  | record {event : AuditEvent ν} {next : Activity σ ν α} (hnext : IsStateless next) :
    IsStateless (record event next)

omit [Quantity ν] in
theorem IsStateless.bind {a : Activity σ ν α} (h : a.IsStateless) {k : α → Activity σ ν β}
    (hk : ∀ x, (k x).IsStateless) : (a.bind k).IsStateless := by
  induction h with
  | ended result => exact hk result
  | attempt hprovider hnext ih => exact .attempt hprovider ih
  | record hnext ih => exact .record ih

omit [Quantity ν] in
theorem IsStateless.map {a : Activity σ ν α} (h : a.IsStateless) (f : α → β) :
    (a.map f).IsStateless :=
  h.bind fun x => .ended (f x)

omit [Quantity ν] in
theorem IsStateless.recordAll {a : Activity σ ν α} (h : a.IsStateless)
    (events : List (AuditEvent ν)) : (recordAll events a).IsStateless := by
  induction events with
  | nil => exact h
  | cons event rest ih => exact .record ih

variable {a : Activity σ ν α}

/-- **Carried out alone, such an activity comes to the same in every world.** -/
theorem account_eq (h : a.IsStateless) (w w' : σ) : (a.alone w).1 = (a.alone w').1 := by
  induction h generalizing w w' with
  | ended result => rfl
  | @attempt handle r remaining next hprovider hnext ih =>
    have hsame := Handle.attempt_of_answersByRequest hprovider r remaining w w'
    have hrest := ih (handle.attempt r remaining w).1 (handle.attempt r remaining w).2
      (handle.attempt r remaining w').2
    rw [alone, alone]
    dsimp only
    rw [hrest, hsame]
  | record hnext ih =>
    rw [alone, alone]
    dsimp only
    rw [ih w w']

/-- **One step of such an activity**: what is left comes to the same, less the events that the step
has recorded and the step itself, in whatever worlds the step is made and the rest is carried
out. -/
theorem account_advance (h : a.IsStateless) (w w' : σ) :
    (a.advance w).rest.IsStateless ∧
      (a.alone w').1.result = ((a.advance w).rest.alone w').1.result ∧
      (a.alone w').1.events = (a.advance w).events ++ ((a.advance w).rest.alone w').1.events ∧
      (a.alone w').1.steps - 1 = ((a.advance w).rest.alone w').1.steps := by
  cases h with
  | ended result => exact ⟨.ended result, rfl, rfl, rfl⟩
  | @attempt handle r remaining next hprovider hnext =>
    have hsame := Handle.attempt_of_answersByRequest hprovider r remaining w' w
    have hrest := account_eq (hnext (handle.attempt r remaining w).1)
      (handle.attempt r remaining w').2 w'
    rw [advance, alone]
    dsimp only
    rw [hsame, hrest]
    exact ⟨hnext _, rfl, rfl, rfl⟩
  | record hnext => exact ⟨hnext, rfl, rfl, rfl⟩

/-- An activity without a step left is over, with its result. -/
theorem eq_ended_of_steps_eq_zero {w : σ} (h : (a.alone w).1.steps = 0) :
    a = ended (a.alone w).1.result := by
  cases a with
  | ended result => rfl
  | attempt handle r remaining next => exact absurd h (Nat.succ_ne_zero _)
  | record event next => exact absurd h (Nat.succ_ne_zero _)

end Activity

namespace TriageEngine

open Activity

theorem isStateless_consulting (id : String) (r : Request) {hs : List (Handle σ ν)}
    (h : ∀ handle ∈ hs, handle.provider.AnswersByRequest) (b : Budget ν) :
    (consulting id r hs b).IsStateless := by
  induction hs generalizing b with
  | nil => exact .ended _
  | cons handle rest ih =>
    have hrest := ih fun handle hhandle => h handle (List.mem_cons_of_mem _ hhandle)
    rw [consulting_cons]
    by_cases henabled : handle.enabled = true
    · rw [if_pos henabled]
      refine .attempt (h handle List.mem_cons_self) fun x => ?_
      cases x with
      | classified response =>
        dsimp only
        split
        · exact .ended _
        · exact .record (hrest _)
      | costExceeded estimated limit => exact .record (hrest _)
      | failed e => exact .record (hrest _)
    · rw [if_neg henabled]
      exact hrest b

theorem isStateless_judging {e : TriageEngine σ ν}
    (h : ∀ handle ∈ e.providers, handle.provider.AnswersByRequest) (useProviders : Bool)
    (l : List (Finding ν)) (b : Budget ν) : (e.judging useProviders l b).IsStateless := by
  induction l generalizing b with
  | nil => exact .ended _
  | cons f rest ih =>
    rw [judging]
    by_cases hf : f.isTriaged = true
    · rw [if_pos hf]
      exact (ih b).map _
    · rw [if_neg hf]
      refine IsStateless.bind ?_ fun x => ((ih x.2).map _).recordAll _
      cases useProviders with
      | false => exact .ended _
      | true => exact isStateless_consulting f.id (e.requestFor f) h b

end TriageEngine

end Stateless

end Vigil
