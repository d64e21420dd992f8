import Vigil.Audit.Log
import Vigil.Proofs.Triage.Calls

/-!
# The audit trail of triage

What a call of triage records is set here beside the findings that it gives back and beside the
calls of providers that were made meanwhile.

* `Fruitless` -- a provider that is tried gives no verdict: the event that tells of it, and the call
  that was made, if one was made at all;
* `Consulted` -- a chain of providers, tried one after the other up to the first verdict;
* `Judgement` -- all that is recorded of one pending finding: the fruitless tries, and what
  `closing` reads off the judged finding;
* `Trail` -- so it is for each pending finding of a call, in order, and nothing else is recorded;
* `triage_audit_trail` -- **the main result**: the events and the calls of triage are such a trail,
  and the log grows by exactly these events.

A call of triage begins with a full budget, and each provider that it calls finds the budget and the
world as the calls before it have left them.

* `MadeAt` -- a call that can be made at a moment: an enabled provider makes it, and its estimate is
  not refused;
* `Ledger` -- calls made one after the other, with the moments at which they begin and end;
* `ledger_triage` -- **the main result**: the calls of triage are such a ledger, and the budget at
  its end is the one that is left.
-/

namespace Vigil

variable {σ ν : Type}

/-! ## Calls in their time -/

namespace Call

/-- What the provider answered. -/
def answer (c : Call σ ν) : Except (ProviderError ν) (Response ν) :=
  (c.provider.classify c.request c.world).1

/-- The world that the call left behind. -/
def worldAfter (c : Call σ ν) : σ :=
  (c.provider.classify c.request c.world).2

end Call

namespace TriageEngine

/-- A moment of triage: what is left of the budget, and the world. -/
structure Moment (σ ν : Type) where
  budget : Budget ν
  world : σ

/-- The moment after some calls. -/
def Moment.after [Quantity ν] (m : Moment σ ν) (calls : List (Call σ ν)) : Moment σ ν :=
  calls.foldl (fun m c => ⟨m.budget.chargeAnswer c.answer, c.worldAfter⟩) m

/-- The providers that are consulted, in order. -/
def chain (e : TriageEngine σ ν) (useProviders : Bool) : List (Handle σ ν) :=
  if useProviders then e.providers.filter (·.enabled) else []

variable [Quantity ν]

@[simp]
theorem Moment.after_nil (m : Moment σ ν) : m.after [] = m := rfl

@[simp]
theorem Moment.after_append (m : Moment σ ν) (calls calls' : List (Call σ ν)) :
    m.after (calls ++ calls') = (m.after calls).after calls' :=
  List.foldl_append

/-! ## Consulting a chain -/

/-- A provider that is tried about a finding gives no verdict: the event that tells of it, and the
call that was made, if one was made. -/
inductive Fruitless (id : String) (r : Request) (m : Moment σ ν) (h : Handle σ ν) :
    AuditEvent ν → Option (Call σ ν) → Prop
  /-- The estimate is refused, and there is no call. -/
  | refused (hr : h.refuses r m.budget.remaining m.world = true) :
    Fruitless id r m h
      (.costCeilingExceeded id h.provider.name (h.provider.estimate r m.world)
        (h.limit m.budget.remaining)) none
  /-- The provider answers that the call would cost too much. -/
  | tooCostly (hr : h.refuses r m.budget.remaining m.world = false) {estimated limit : ν}
    (ha : (h.provider.classify r m.world).1 = .error (.costCeilingExceeded estimated limit)) :
    Fruitless id r m h (.costCeilingExceeded id h.provider.name estimated limit)
      (some ⟨h.provider, r, m.world⟩)
  /-- The provider fails in any other way. -/
  | failed (hr : h.refuses r m.budget.remaining m.world = false) {e : ProviderError ν}
    (ha : (h.provider.classify r m.world).1 = .error e)
    (he : ∀ estimated limit, e ≠ .costCeilingExceeded estimated limit) :
    Fruitless id r m h (.providerFailed id h.provider.name e.message)
      (some ⟨h.provider, r, m.world⟩)
  /-- The response holds no verdict that can be read. -/
  | unreadable (hr : h.refuses r m.budget.remaining m.world = false) {response : Response ν}
    (ha : (h.provider.classify r m.world).1 = .ok response) {reason : String}
    (hv : (Verdict.parse response.content : Except String (Verdict ν)) = .error reason) :
    Fruitless id r m h
      (.providerFailed id h.provider.name
        (ProviderError.invalidResponse reason : ProviderError ν).message)
      (some ⟨h.provider, r, m.world⟩)

/-- Providers are tried in vain one after the other, each at the moment at which the one before it
has left off: the events, one for each, and the calls. -/
inductive Tried (id : String) (r : Request) :
    Moment σ ν → List (Handle σ ν) → List (AuditEvent ν) → List (Call σ ν) → Prop
  | nil (m : Moment σ ν) : Tried id r m [] [] []
  | cons {m : Moment σ ν} {h : Handle σ ν} {event : AuditEvent ν} {call : Option (Call σ ν)}
    (htry : Fruitless id r m h event call) {hs : List (Handle σ ν)}
    {events : List (AuditEvent ν)} {calls : List (Call σ ν)}
    (hrest : Tried id r (m.after call.toList) hs events calls) :
    Tried id r m (h :: hs) (event :: events) (call.toList ++ calls)

/-- What there is to show of a chain that is consulted: the decision, if there is one, the events
and the calls. -/
inductive Consulted (id : String) (r : Request) (m : Moment σ ν) (hs : List (Handle σ ν)) :
    Option (Classification ν × Option Severity) → List (AuditEvent ν) → List (Call σ ν) → Prop
  /-- All providers are tried in vain. -/
  | undecided {events : List (AuditEvent ν)} {calls : List (Call σ ν)}
    (htried : Tried id r m hs events calls) : Consulted id r m hs none events calls
  /-- Those before the winner are tried in vain, the winner gives a verdict, and those behind it are
  not tried.  The classification is made of the response and of its verdict, whose own confidence
  goes before that of the response. -/
  | decided {tried untried : List (Handle σ ν)} {winner : Handle σ ν}
    (hchain : hs = tried ++ winner :: untried) {events : List (AuditEvent ν)}
    {calls : List (Call σ ν)} (htried : Tried id r m tried events calls)
    (hr : winner.refuses r (m.after calls).budget.remaining (m.after calls).world = false)
    {response : Response ν}
    (ha : (winner.provider.classify r (m.after calls).world).1 = .ok response) {v : Verdict ν}
    (hv : Verdict.parse response.content = .ok v) :
    Consulted id r m hs
      (some
        ({ truePositive := v.truePositive
           provider := response.provider
           model := some response.model
           confidence := v.confidence.getD response.confidence
           rationale := v.rationale
           cost := response.cost }, v.severity))
      events (calls ++ [⟨winner.provider, r, (m.after calls).world⟩])

section Consulted

variable {id : String} {r : Request} {m : Moment σ ν} {h : Handle σ ν} {hs : List (Handle σ ν)}
  {event : AuditEvent ν} {call : Option (Call σ ν)} {events : List (AuditEvent ν)}
  {calls : List (Call σ ν)} {decision : Option (Classification ν × Option Severity)}

/-- One more provider that is tried in vain, before the others. -/
theorem Consulted.cons (htry : Fruitless id r m h event call)
    (hrest : Consulted id r (m.after call.toList) hs decision events calls) :
    Consulted id r m (h :: hs) decision (event :: events) (call.toList ++ calls) := by
  cases hrest with
  | undecided htried => exact undecided (htried.cons htry)
  | decided hchain htried hr ha hv =>
    rw [← Moment.after_append] at hr ha ⊢
    rw [← List.append_assoc]
    exact decided (congrArg (h :: ·) hchain) (htried.cons htry) hr ha hv

theorem Tried.sublist_calls (h : Tried id r m hs events calls) :
    (calls.map (·.provider)).Sublist (hs.map (·.provider)) := by
  induction h with
  | nil m => exact List.Sublist.refl _
  | cons htry hrest ih =>
    cases htry with
    | refused hr => exact ih.cons _
    | tooCostly hr ha => exact ih.cons_cons _
    | failed hr ha he => exact ih.cons_cons _
    | unreadable hr ha hv => exact ih.cons_cons _

/-- **No place of a chain is called twice**, and none behind the winner is called. -/
theorem Consulted.sublist_calls (h : Consulted id r m hs decision events calls) :
    (calls.map (·.provider)).Sublist (hs.map (·.provider)) := by
  cases h with
  | undecided htried => exact htried.sublist_calls
  | decided hchain htried hr ha hv =>
    rw [hchain, List.map_append, List.map_append]
    exact htried.sublist_calls.append ((List.nil_sublist _).cons_cons _)

end Consulted

/-- What a consultation comes to, with the calls that were written down behind earlier ones, is what
there is to show of a chain that was consulted. -/
def Consultation.Shows (id : String) (r : Request) (m : Moment σ ν) (hs : List (Handle σ ν))
    (before : List (Call σ ν)) (c : Consultation (σ × List (Call σ ν)) ν) : Prop :=
  ∃ calls, c.world = ((m.after calls).world, before ++ calls) ∧
    c.budget = (m.after calls).budget ∧ Consulted id r m hs c.decision c.events calls

/-- One more provider, tried in vain before the others. -/
theorem Consultation.Shows.after {id : String} {r : Request} {m : Moment σ ν} {h : Handle σ ν}
    {event : AuditEvent ν} {call : Option (Call σ ν)} (htry : Fruitless id r m h event call)
    {hs : List (Handle σ ν)} {before : List (Call σ ν)}
    {c : Consultation (σ × List (Call σ ν)) ν}
    (hc : c.Shows id r (m.after call.toList) hs (before ++ call.toList)) :
    (c.after event).Shows id r m (h :: hs) before := by
  obtain ⟨calls, hworld, hbudget, hrest⟩ := hc
  refine ⟨call.toList ++ calls, ?_, ?_, hrest.cons htry⟩
  · rw [Moment.after_append, ← List.append_assoc]
    exact hworld
  · rw [Moment.after_append]
    exact hbudget

/-- A provider that is called about a finding, before the others of its chain: they are tried if it
gives no verdict, whatever it has cost. -/
theorem shows_consult_of_not_refuses {id : String} {r : Request} {h : Handle σ ν} {b : Budget ν}
    {w : σ} (henabled : h.enabled = true) (hr : h.refuses r b.remaining w = false)
    {rest hs : List (Handle σ ν)} {before : List (Call σ ν)}
    (hrest : ∀ b w before,
      (consult id r (rest.map Handle.recorded) b (w, before)).Shows id r ⟨b, w⟩ hs before) :
    (consult id r (h.recorded :: rest.map Handle.recorded) b (w, before)).Shows id r ⟨b, w⟩
      (h :: hs) before := by
  have henabled' : h.recorded.enabled = true := henabled
  have hr' : h.recorded.refuses r b.remaining (w, before) = false := hr
  have hclassify : h.recorded.provider.classify r (w, before) =
    ((h.provider.classify r w).1, (h.provider.classify r w).2,
      before ++ [⟨h.provider, r, w⟩]) := rfl
  rw [consult_cons, if_pos henabled', Handle.attempt_of_not_refuses hr', hclassify]
  have hothers {b' : Budget ν} (hb : b' = b.chargeAnswer (h.provider.classify r w).1) :
      (consult id r (rest.map Handle.recorded) b' ((h.provider.classify r w).2,
        before ++ [⟨h.provider, r, w⟩])).Shows id r (Moment.after ⟨b, w⟩ [⟨h.provider, r, w⟩]) hs
          (before ++ [⟨h.provider, r, w⟩]) := by
    rw [hb]
    exact hrest _ _ _
  rcases ha : (h.provider.classify r w).1 with error | response
  · rw [ha] at hothers
    cases error with
    | costCeilingExceeded estimated limit =>
      exact Consultation.Shows.after (Fruitless.tooCostly hr ha) (hothers rfl)
    | _ =>
      exact Consultation.Shows.after (Fruitless.failed hr ha fun _ _ h => by cases h) (hothers rfl)
  · rw [ha] at hothers
    dsimp only [Attempt.ofAnswer]
    split
    · rename_i v hv
      have hchain : h :: hs = [] ++ h :: hs := rfl
      exact ⟨[⟨h.provider, r, w⟩], rfl, (congrArg b.chargeAnswer ha).symm,
        Consulted.decided hchain (Tried.nil _) hr ha hv⟩
    · rename_i reason hv
      exact Consultation.Shows.after (Fruitless.unreadable hr ha hv) (hothers rfl)

/-- **A consultation tries the enabled providers of its chain**, up to the first verdict. -/
theorem shows_consult (id : String) (r : Request) (hs : List (Handle σ ν)) (b : Budget ν) (w : σ)
    (before : List (Call σ ν)) :
    (consult id r (hs.map Handle.recorded) b (w, before)).Shows id r ⟨b, w⟩
      (hs.filter (·.enabled)) before := by
  induction hs generalizing b w before with
  | nil => exact ⟨[], by rw [List.append_nil]; rfl, rfl, Consulted.undecided (Tried.nil _)⟩
  | cons h rest ih =>
    have henabled : h.recorded.enabled = h.enabled := rfl
    have hrefuses : h.recorded.refuses r b.remaining (w, before) = h.refuses r b.remaining w := rfl
    rw [List.map_cons]
    cases he : h.enabled with
    | false =>
      rw [consult_cons, henabled, he, List.filter_cons_of_neg (Bool.not_eq_true _ ▸ he)]
      exact ih b w before
    | true =>
      rw [List.filter_cons_of_pos he]
      cases hr : h.refuses r b.remaining w with
      | true =>
        rw [consult_cons, henabled, if_pos he, Handle.attempt_of_refuses (hrefuses.trans hr)]
        refine Consultation.Shows.after (Fruitless.refused hr) ?_
        rw [Option.toList_none, List.append_nil]
        exact ih b w before
      | false => exact shows_consult_of_not_refuses he hr ih

/-! ## Judging a finding -/

/-- The events that close the judgement of a finding, as the finding itself shows them: that a human
must review it, if it waits for that, with the greater of its two severities; and the classification
that it holds, with its status. -/
def closing (g : Finding ν) : List (AuditEvent ν) :=
  (if g.status = .needsHumanReview then
    [.humanReviewRequired g.id (max g.severity g.effectiveSeverity)] else []) ++
  (g.classification.map fun c => .classified g.id c g.status).toList

omit [Quantity ν] in
theorem verdictEvents_settle (f : Finding ν) (c : Classification ν) (suggested : Option Severity) :
    verdictEvents (settle f c suggested) c = closing (settle f c suggested) := by
  have hclassification : (settle f c suggested).classification = some c := rfl
  rw [verdictEvents, closing, hclassification]
  simp only [Finding.needsReview, beq_iff_eq, reviewSeverity, Option.map_some, Option.toList_some]

/-- All that there is to show of the judgement of a pending finding: what it becomes, the events and
the calls. -/
inductive Judgement (e : TriageEngine σ ν) (useProviders : Bool) (m : Moment σ ν) (f : Finding ν) :
    Finding ν → List (AuditEvent ν) → List (Call σ ν) → Prop
  /-- A provider gives a verdict, and it counts. -/
  | byProvider {c : Classification ν} {suggested : Option Severity}
    {attempts : List (AuditEvent ν)} {calls : List (Call σ ν)}
    (h : Consulted f.id (e.requestFor f) m (e.chain useProviders) (some (c, suggested)) attempts
      calls) :
    Judgement e useProviders m f (settle f c suggested)
      (attempts ++ closing (settle f c suggested)) calls
  /-- All providers that are to be consulted are tried in vain, and the rules count. -/
  | byRules {attempts : List (AuditEvent ν)} {calls : List (Call σ ν)}
    (h : Consulted f.id (e.requestFor f) m (e.chain useProviders) none attempts calls) :
    Judgement e useProviders m f (settle f (classificationByRules e.rules f) none)
      (attempts ++ closing (settle f (classificationByRules e.rules f) none)) calls

/-- All that there is to show of a call of triage: the findings before and after, the events and the
calls. -/
inductive Trail (e : TriageEngine σ ν) (useProviders : Bool) :
    Moment σ ν → List (Finding ν) → List (Finding ν) → List (AuditEvent ν) →
      List (Call σ ν) → Prop
  | nil (m : Moment σ ν) : Trail e useProviders m [] [] [] []
  /-- A finding that is not pending is left as it is, and nothing is recorded of it. -/
  | keep {m : Moment σ ν} {f : Finding ν} (hf : f.status ≠ .pending) {l gs : List (Finding ν)}
    {events : List (AuditEvent ν)} {calls : List (Call σ ν)}
    (hrest : Trail e useProviders m l gs events calls) :
    Trail e useProviders m (f :: l) (f :: gs) events calls
  /-- A pending finding is judged, and no place of the chain is called twice for it. -/
  | judge {m : Moment σ ν} {f g : Finding ν} (hf : f.status = .pending)
    {events : List (AuditEvent ν)} {calls : List (Call σ ν)}
    (hjudged : Judgement e useProviders m f g events calls)
    (honce : (calls.map (·.provider)).Sublist ((e.chain useProviders).map (·.provider)))
    {l gs : List (Finding ν)}
    {events' : List (AuditEvent ν)} {calls' : List (Call σ ν)}
    (hrest : Trail e useProviders (m.after calls) l gs events' calls') :
    Trail e useProviders m (f :: l) (g :: gs) (events ++ events') (calls ++ calls')

theorem judgement_of_consulted {e : TriageEngine σ ν} {useProviders : Bool} {m : Moment σ ν}
    {f : Finding ν} {decision : Option (Classification ν × Option Severity)}
    {attempts : List (AuditEvent ν)} {calls : List (Call σ ν)}
    (h : Consulted f.id (e.requestFor f) m (e.chain useProviders) decision attempts calls) :
    let d := decision.getD (classificationByRules e.rules f, none)
    Judgement e useProviders m f (settle f d.1 d.2)
      (attempts ++ verdictEvents (settle f d.1 d.2) d.1) calls := by
  intro d
  rw [verdictEvents_settle]
  rcases decision with _ | ⟨c, suggested⟩
  · exact Judgement.byRules h
  · exact Judgement.byProvider h

/-! ## All judgements of a call -/

section Judge

variable {e : TriageEngine σ ν} {useProviders : Bool} {f : Finding ν}

theorem judge_cons_of_not_pending (hf : f.status ≠ .pending) (l : List (Finding ν)) (b : Budget ν)
    (w : σ) : e.judge useProviders (f :: l) b w = (e.judge useProviders l b w).keep f := by
  have htriaged : f.isTriaged = true := by simpa [Finding.isTriaged] using hf
  rw [judge, if_pos htriaged]

theorem judge_cons_of_pending (hf : f.status = .pending) (l : List (Finding ν)) (b : Budget ν)
    (w : σ) :
    e.judge useProviders (f :: l) b w =
      let c := e.consultation useProviders f b w
      let d := c.decision.getD (classificationByRules e.rules f, none)
      (e.judge useProviders l c.budget c.world).judged (settle f d.1 d.2) c.decision.isSome
        (c.events ++ verdictEvents (settle f d.1 d.2) d.1) := by
  have htriaged : ¬ f.isTriaged = true := by simp [Finding.isTriaged, hf]
  rw [judge, if_neg htriaged]

end Judge

theorem shows_consultation (e : TriageEngine σ ν) (useProviders : Bool) (f : Finding ν)
    (b : Budget ν) (w : σ) (before : List (Call σ ν)) :
    (e.recorded.consultation useProviders f b (w, before)).Shows f.id (e.requestFor f) ⟨b, w⟩
      (e.chain useProviders) before := by
  cases useProviders with
  | false => exact ⟨[], by rw [List.append_nil]; rfl, rfl, Consulted.undecided (Tried.nil _)⟩
  | true => exact shows_consult f.id (e.requestFor f) e.providers b w before

/-- **What a call of triage does is a trail**, from whatever moment it begins. -/
theorem trail_judge (e : TriageEngine σ ν) (useProviders : Bool) (l : List (Finding ν))
    (b : Budget ν) (w : σ) (before : List (Call σ ν)) :
    ∃ calls, (e.recorded.judge useProviders l b (w, before)).world.2 = before ++ calls ∧
      Trail e useProviders ⟨b, w⟩ l (e.recorded.judge useProviders l b (w, before)).findings
        (e.recorded.judge useProviders l b (w, before)).events calls := by
  induction l generalizing b w before with
  | nil => exact ⟨[], (List.append_nil _).symm, Trail.nil _⟩
  | cons f rest ih =>
    by_cases hf : f.status = .pending
    · rw [judge_cons_of_pending hf]
      have hshows := e.shows_consultation useProviders f b w before
      generalize e.recorded.consultation useProviders f b (w, before) = c at hshows ⊢
      obtain ⟨calls, hworld, hbudget, hconsulted⟩ := hshows
      obtain ⟨calls', hworld', hrest⟩ := ih (Moment.after ⟨b, w⟩ calls).budget
        (Moment.after ⟨b, w⟩ calls).world (before ++ calls)
      dsimp only
      rw [hbudget, hworld]
      exact ⟨calls ++ calls', hworld'.trans (List.append_assoc _ _ _),
        Trail.judge hf (judgement_of_consulted hconsulted) hconsulted.sublist_calls hrest⟩
    · rw [judge_cons_of_not_pending hf]
      obtain ⟨calls, hworld, hrest⟩ := ih b w before
      exact ⟨calls, hworld, Trail.keep hf hrest⟩

/-- What a call of triage with a full budget does, as its providers write it down. -/
theorem trail_triageWith (e : TriageEngine σ ν) (useProviders : Bool) (l : List (Finding ν))
    (w : σ) :
    Trail e useProviders ⟨Budget.full e.config.totalCostCeiling, w⟩ l
      (e.triageWith useProviders l w).findings (e.triageWith useProviders l w).events
      (e.recorded.triageWith useProviders l (w, [])).world.2 := by
  obtain ⟨calls, hworld, htrail⟩ :=
    e.trail_judge useProviders l (Budget.full e.config.totalCostCeiling) w []
  have hrecorded := e.triageWith_recorded useProviders l (w, [])
  have hcalls : (e.recorded.triageWith useProviders l (w, [])).world.2 = calls :=
    hworld.trans (List.nil_append _)
  rw [hcalls, ← hrecorded]
  exact htrail

/-- **The audit trail of triage is an exact trace of its decisions**: with the providers and by the
rules alone, the events and the calls are those of a trail from the findings that are given to the
findings that come back, and a log grows at its end by these events, in order. -/
theorem triage_audit_trail (e : TriageEngine σ ν) (l : List (Finding ν)) (w : σ) (log : AuditLog ν)
    (run : Option RunId) :
    let start : Moment σ ν := ⟨Budget.full e.config.totalCostCeiling, w⟩
    let o := e.triage l w
    let plain := e.triageByRules l w
    Trail e e.config.aiEnabled start l o.findings o.events (e.calls l w) ∧
      Trail e false start l plain.findings plain.events [] ∧
      (log.recordAll run o.events).entries =
        log.entries ++ o.events.mapIdx (fun i event => ⟨log.size + i, run, event⟩) ∧
      (log.recordAll run plain.events).entries =
        log.entries ++ plain.events.mapIdx (fun i event => ⟨log.size + i, run, event⟩) := by
  intro start o plain
  refine ⟨e.trail_triageWith _ l w, ?_, log.entries_recordAll run _, log.entries_recordAll run _⟩
  have hcalls : (e.recorded.triageWith false l (w, [])).world = (w, []) :=
    e.recorded.world_triageByRules l (w, [])
  have htrail := e.trail_triageWith false l w
  rw [hcalls] at htrail
  exact htrail

/-! ## Ledgers -/

section Ledgers

/-- The moment at which a call of triage begins. -/
def start (e : TriageEngine σ ν) (w : σ) : Moment σ ν :=
  ⟨Budget.full e.config.totalCostCeiling, w⟩

/-- A call is one that an engine makes at a moment. -/
def MadeAt (e : TriageEngine σ ν) (m : Moment σ ν) (c : Call σ ν) : Prop :=
  ∃ h ∈ e.providers, h.enabled = true ∧
    h.refuses c.request m.budget.remaining m.world = false ∧
    c = ⟨h.provider, c.request, m.world⟩

/-- An engine makes calls, one after the other, and comes from one moment to another. -/
inductive Ledger (e : TriageEngine σ ν) (m : Moment σ ν) : List (Call σ ν) → Moment σ ν → Prop
  | nil : Ledger e m [] m
  | call {calls : List (Call σ ν)} {m' : Moment σ ν} (h : Ledger e m calls m') {c : Call σ ν}
    (hc : MadeAt e m' c) : Ledger e m (calls ++ [c]) (m'.after [c])

variable {e : TriageEngine σ ν} {m m' : Moment σ ν} {calls : List (Call σ ν)}

theorem Ledger.eq_after (h : Ledger e m calls m') : m' = m.after calls := by
  induction h with
  | nil => rfl
  | call h hc ih => rw [Moment.after_append, ← ih]

/-- **Each call was made at the moment to which those before it have led.** -/
theorem Ledger.madeAt (h : Ledger e m calls m') {before later : List (Call σ ν)} {c : Call σ ν}
    (hsplit : calls = before ++ c :: later) : MadeAt e (m.after before) c := by
  induction h generalizing later with
  | nil => exact absurd hsplit (by simp)
  | @call calls m' h last hc ih =>
    rcases List.eq_nil_or_concat later with rfl | ⟨later, d, rfl⟩
    · obtain ⟨rfl, hlast⟩ := List.append_inj' hsplit rfl
      rw [← List.head_eq_of_cons_eq hlast, ← h.eq_after]
      exact hc
    · have hsplit' : calls ++ [last] = (before ++ c :: later) ++ [d] := by
        rw [hsplit, List.append_assoc, List.cons_append, List.concat_eq_append]
      exact ih (List.append_inj' hsplit' rfl).1

/-! ## The calls of triage -/

/-- **The calls of triage are a ledger**, which begins with a full budget and the world as it is
found, and ends with the budget and the world that triage leaves. -/
theorem ledger_triage (e : TriageEngine σ ν) (l : List (Finding ν)) (w : σ) :
    Ledger e (e.start w) (e.calls l w) ⟨(e.triage l w).budget, (e.triage l w).world⟩ := by
  have hrecorded : (e.recorded.triage l (w, [])).mapWorld Prod.fst = e.triage l w :=
    e.triageWith_recorded e.config.aiEnabled l (w, [])
  rw [← hrecorded]
  refine judge_preserves (e := e.recorded) (w := (w, []))
    (I := fun b w' => Ledger e (e.start w) w'.2 ⟨b, w'.1⟩) ?_ e.config.aiEnabled l Ledger.nil
  intro r h hh henabled b w' hr hledger
  obtain ⟨g, hg, rfl⟩ := List.mem_map.1 hh
  exact hledger.call ⟨g, hg, henabled, hr, rfl⟩

/-- The cost in the summary is what the calls have charged in the end. -/
theorem cost_eq_spent_after (e : TriageEngine σ ν) (l : List (Finding ν)) (w : σ) :
    (e.triage l w).summary.cost = ((e.start w).after (e.calls l w)).budget.spent :=
  congrArg (·.budget.spent) (e.ledger_triage l w).eq_after

end Ledgers

end TriageEngine

end Vigil
