import Vigil.Audit.Log
import Vigil.Proofs.Processing
import Vigil.Proofs.Run.Account
import Vigil.Proofs.Run.Publication
import Vigil.Proofs.Triage.Fallback

/-!
# The books of a run

A run counts its agents and findings at one place, keeps a result for each agent at another, and
records what went wrong at a third.  `tally` counts the events of each kind that the counters speak
of; it is additive, so what each stage adds to the log can be looked at by itself.

* `tally_eventsOf`, `tally_trail` -- what a task and a call of triage add to the tally;
* `eq_pending_of_mem_normalize`, `eq_pending_of_mem_correlate` -- what comes to triage is pending,
  so triage classifies all of it;
* `stats_correlated`, `stats_triaged` -- a stage changes the one counter that is its own;
* `run_reconciles` -- **the main result**: whenever a run has an outcome, its results, its counters
  and its log agree.
-/

namespace Vigil

variable {α σ ν : Type}

/-! ## Counting events -/

/-- The numbers of skipped agents, failed agents, malformed records and classifications. -/
@[ext]
structure Tally where
  skipped : Nat
  failed : Nat
  malformed : Nat
  classified : Nat
deriving DecidableEq, Repr

instance : Add Tally where
  add s t := ⟨s.skipped + t.skipped, s.failed + t.failed, s.malformed + t.malformed,
    s.classified + t.classified⟩

theorem Tally.mk_add_mk (a b c d a' b' c' d' : Nat) :
    (⟨a, b, c, d⟩ + ⟨a', b', c', d'⟩ : Tally) = ⟨a + a', b + b', c + c', d + d'⟩ := rfl

/-- The tally of some events. -/
def tally (events : List (AuditEvent ν)) : Tally where
  skipped := events.countP (·.kind == "agent_skipped")
  failed := events.countP (·.kind == "agent_failed")
  malformed := events.countP (·.kind == "malformed_finding")
  classified := events.countP (·.kind == "classified")

theorem tally_append (events events' : List (AuditEvent ν)) :
    tally (events ++ events') = tally events + tally events' := by
  simp only [tally, List.countP_append, Tally.mk_add_mk]

/-- Attempts of providers do not count. -/
theorem tally_of_isAttempt {events : List (AuditEvent ν)}
    (h : ∀ event ∈ events, event.isAttempt = true) : tally events = ⟨0, 0, 0, 0⟩ := by
  have hnone (kind : String) (hkind : ∀ event : AuditEvent ν, event.isAttempt = true →
      (event.kind == kind) = false) : events.countP (·.kind == kind) = 0 := by
    refine List.countP_eq_zero.2 fun event hevent => ?_
    rw [hkind event (h event hevent)]
    exact Bool.false_ne_true
  have hkinds : ∀ event : AuditEvent ν, event.isAttempt = true →
      event.kind = "provider_failed" ∨ event.kind = "cost_ceiling_exceeded" := by
    intro event hattempt
    cases event with
    | providerFailed => exact Or.inl rfl
    | costCeilingExceeded => exact Or.inr rfl
    | _ => cases hattempt
  refine Tally.ext (hnone _ ?_) (hnone _ ?_) (hnone _ ?_) (hnone _ ?_)
  all_goals
    intro event hattempt
    rcases hkinds event hattempt with h | h <;> rw [h] <;> decide

/-! ## What triage classifies -/

namespace TriageEngine

variable [Quantity ν]

theorem tally_consulted {id : String} {r : Request} {m : Moment σ ν} {hs : List (Handle σ ν)}
    {decision : Option (Classification ν × Option Severity)} {events : List (AuditEvent ν)}
    {calls : List (Call σ ν)} (h : Consulted id r m hs decision events calls) :
    tally events = ⟨0, 0, 0, 0⟩ := by
  refine tally_of_isAttempt fun event hevent => ?_
  have hattempt := List.filter_eq_nil_iff.1 h.filter_events event hevent
  simpa using hattempt

omit [Quantity ν] in
theorem tally_closing {g : Finding ν} {c : Classification ν} (h : g.classification = some c) :
    tally (closing g) = ⟨0, 0, 0, 1⟩ := by
  rw [closing, h]
  split <;> rfl

/-- The judgement of a finding is recorded as one classification. -/
theorem tally_judgement {e : TriageEngine σ ν} {useProviders : Bool} {m : Moment σ ν}
    {f g : Finding ν} {events : List (AuditEvent ν)} {calls : List (Call σ ν)}
    (h : Judgement e useProviders m f g events calls) : tally events = ⟨0, 0, 0, 1⟩ := by
  cases h with
  | byProvider hconsulted => rw [tally_append, tally_consulted hconsulted, tally_closing rfl]; rfl
  | byRules hconsulted => rw [tally_append, tally_consulted hconsulted, tally_closing rfl]; rfl

/-- **Triage records one classification for each pending finding**, and nothing else that counts. -/
theorem tally_trail {e : TriageEngine σ ν} {useProviders : Bool} {m : Moment σ ν}
    {l gs : List (Finding ν)} {events : List (AuditEvent ν)} {calls : List (Call σ ν)}
    (h : Trail e useProviders m l gs events calls) :
    tally events = ⟨0, 0, 0, l.countP (·.status = .pending)⟩ := by
  induction h with
  | nil m => rfl
  | keep hf hrest ih =>
    rw [ih, List.countP_cons_of_neg]
    simpa using hf
  | judge hf hjudged honce hrest ih =>
    rw [tally_append, tally_judgement hjudged, ih, Tally.mk_add_mk, List.countP_cons_of_pos,
      Nat.add_comm 1]
    simpa using hf

end TriageEngine

/-! ## What comes to triage -/

section Pending

variable [Quantity ν]

theorem eq_pending_of_mem_normalize {agent : String} {batch : List (RawFinding ν)} {f : Finding ν}
    (hf : f ∈ (normalize agent batch).findings) : f.status = .pending := by
  obtain ⟨r, -, g, n, hg, rfl⟩ := Normalize.exists_of_mem_normalize hf
  exact (Normalize.reported_of_one hg).status

theorem Correlate.mem_of_leader? {g : List (Finding ν)} {x : Finding ν} (hx : x ∈ leader? g) :
    x ∈ g := by
  cases g with
  | nil => cases hx
  | cons f rest =>
    obtain rfl := Option.some.inj hx
    exact (picks_leader.foldl f rest).1

/-- Correlation of pending findings gives pending findings. -/
theorem eq_pending_of_mem_correlate {c : CorrelationConfig ν} {l : List (Finding ν)}
    (h : ∀ f ∈ l, f.status = .pending) {m : Finding ν} (hm : m ∈ correlate c l) :
    m.status = .pending := by
  obtain ⟨g, hg, hmerges⟩ := Correlate.merges_of_mem_correlate hm
  obtain ⟨x, hx, hstatus⟩ := hmerges.status
  rw [hstatus]
  exact h x (Correlate.mem_chains_sort.1 ⟨g, hg, Correlate.mem_of_leader? hx⟩)

end Pending

namespace Orchestrator

/-! ## The tasks of a run -/

section Outcomes

variable [Quantity ν]

/-- Each record of a task is accepted or rejected. -/
theorem length_rawRecords (x : Outcome ν) :
    (rawRecords x).length = (normalized x).findings.length + (normalized x).rejected.length := by
  rw [rawRecords, normalized]
  cases x.result with
  | error e => rfl
  | ok raw =>
    have hsizes := length_accepted_add_rejections x.agent 0 (raw.map (Normalize.one x.agent))
    rw [List.length_map] at hsizes
    simp only [normalize, length_numberIds, hsizes]

omit [Quantity ν] in
theorem rawFindingCount_resultOf (x : Outcome ν) :
    (resultOf x).rawFindingCount = (rawRecords x).length := by
  rw [resultOf, rawRecords]
  cases x.result <;> rfl

omit [Quantity ν] in
theorem agent_resultOf (x : Outcome ν) : (resultOf x).agent = x.agent := by
  rw [resultOf]
  cases x.result <;> rfl

/-- A task is recorded by its rejections, or by its failure. -/
theorem tally_eventsOf (x : Outcome ν) :
    tally (eventsOf x) = ⟨0, if x.isSuccess then 0 else 1, (normalized x).rejected.length, 0⟩ := by
  rw [eventsOf, normalized, Outcome.isSuccess]
  cases x.result with
  | error e => rfl
  | ok raw =>
    simp [tally, List.countP_map, Function.comp_def, AuditEvent.kind]

theorem tally_flatMap_eventsOf (outcomes : List (Outcome ν)) :
    tally (outcomes.flatMap eventsOf) =
      ⟨0, outcomes.countP (!·.isSuccess),
        (outcomes.flatMap fun x => (normalized x).rejected).length, 0⟩ := by
  induction outcomes with
  | nil => rfl
  | cons x rest ih =>
    rw [List.flatMap_cons, tally_append, tally_eventsOf, ih, Tally.mk_add_mk, List.countP_cons,
      List.flatMap_cons, List.length_append, Nat.add_comm (List.countP _ _)]
    cases x.isSuccess <;> rfl

omit [Quantity ν] in
theorem countP_isSuccess_resultOf (outcomes : List (Outcome ν)) :
    (outcomes.map resultOf).countP (·.isSuccess) = outcomes.countP (·.isSuccess) := by
  have hsuccess (x : Outcome ν) : (resultOf x).isSuccess = x.isSuccess := by
    rw [resultOf, Outcome.isSuccess]
    cases x.result with
    | error e => cases e <;> rfl
    | ok raw => rfl
  rw [List.countP_map]
  exact List.countP_congr fun x _ => by rw [Function.comp_apply, hsuccess]

theorem countP_isSuccess_skipped (ds : List AgentDescriptor) :
    (ds.map fun d => AnalysisResult.skipped d.name notInstalled).countP (·.isSuccess) = 0 := by
  rw [List.countP_map, List.countP_eq_zero]
  exact fun d _ => Bool.false_ne_true

theorem sum_rawFindingCount_skipped (ds : List AgentDescriptor) :
    ((ds.map fun d => AnalysisResult.skipped d.name notInstalled).map
      (·.rawFindingCount)).sum = 0 := by
  rw [List.map_map]
  exact List.sum_map_zero

/-- The records of all tasks are accepted or rejected. -/
theorem length_flatMap_rawRecords (outcomes : List (Outcome ν)) :
    (outcomes.flatMap rawRecords).length =
      (outcomes.flatMap fun x => (normalized x).findings).length +
        (outcomes.flatMap fun x => (normalized x).rejected).length := by
  induction outcomes with
  | nil => rfl
  | cons x rest ih =>
    simp only [List.flatMap_cons, List.length_append, length_rawRecords, ih]
    omega

omit [Quantity ν] in
theorem sum_rawFindingCount (outcomes : List (Outcome ν)) :
    ((outcomes.map resultOf).map (·.rawFindingCount)).sum =
      (outcomes.flatMap rawRecords).length := by
  rw [List.map_map, List.length_flatMap]
  exact congrArg List.sum (List.map_congr_left fun x _ => rawFindingCount_resultOf x)

end Outcomes

/-! ## The stages of a run -/

section Stages

variable [Quantity ν] (env : Surroundings σ ν) (j : Journey σ ν)

/-- What a stage of correlation, if it is attached, says about the findings it merges away. -/
def rateBy : Option (CorrelationConfig ν) → ν → List (Finding ν) → ν
  | none, rate, _ => rate
  | some c, _, fs => Correlate.dedupRate fs.length (correlate c fs).length

/-- Correlation changes no counter but its own. -/
theorem stats_correlated (stage : Option (CorrelationConfig ν)) :
    (j.correlated env stage).run.stats =
      { j.run.stats with dedupRate := rateBy stage j.run.stats.dedupRate j.run.findings } := by
  cases stage <;> rfl

/-- Triage changes no counter but its own. -/
theorem stats_triaged (stage : Option (TriageEngine σ ν)) :
    ∃ cost, (j.triaged env stage).run.stats = { j.run.stats with triageCost := cost } := by
  cases stage with
  | none => exact ⟨_, rfl⟩
  | some e => exact ⟨_, rfl⟩

theorem events_correlated (stage : Option (CorrelationConfig ν)) :
    (j.correlated env stage).events = j.events := by
  cases stage <;> rfl

theorem length_findings_triaged (stage : Option (TriageEngine σ ν)) :
    (j.triaged env stage).run.findings.length = j.run.findings.length := by
  rw [Journey.findings_triaged]
  cases stage with
  | none => rfl
  | some e =>
    rw [triagedBy]
    split <;> exact TriageEngine.length_judge ..

/-- Triage, if it is attached, records one classification for each finding, if all are pending. -/
theorem tally_triaged (stage : Option (TriageEngine σ ν))
    (hpending : ∀ f ∈ j.run.findings, f.status = .pending) :
    tally (j.triaged env stage).events =
      tally j.events + ⟨0, 0, 0, if stage.isSome then j.run.findings.length else 0⟩ := by
  cases stage with
  | none => rfl
  | some e =>
    have hall : j.run.findings.countP (·.status = .pending) = j.run.findings.length :=
      List.countP_eq_length.2 fun f hf => decide_eq_true (hpending f hf)
    have htally (useProviders : Bool) (w : σ) :
        tally (e.triageWith useProviders j.run.findings w).events =
          ⟨0, 0, 0, j.run.findings.length⟩ := by
      rw [TriageEngine.tally_trail (e.trail_triageWith useProviders j.run.findings w), hall]
    have hevents : (j.triaged env (some e)).events =
        j.events ++ ((j.enter env .triaging).triage e).events := rfl
    rw [hevents, tally_append, Journey.triage]
    split
    · exact congrArg _ (htally false _)
    · exact congrArg _ (htally e.config.aiEnabled _)

end Stages

/-! ## The whole run -/

section Run

variable [Quantity ν] (o : Orchestrator α σ ν) (env : Surroundings σ ν) (occasion : Occasion)
  (target : AnalysisTarget) (criteria : SelectionCriteria) (w : σ)

/-- The results, the counters and the log of a run agree. -/
structure Reconciles (r : Run ν) (events : List (AuditEvent ν)) : Prop where
  /-- One result for each matching agent that is not available, then one for each selected one. -/
  results : ∃ dispatched : List AnalysisResult,
    r.results =
      ((o.registry.filter (criteria.filterFor target)).filter (!·.available)).map
        (fun d => .skipped d.name notInstalled) ++ dispatched ∧
    dispatched.map (·.agent) = (o.registry.select target criteria).agents.map (·.name)
  selectedAgents : r.stats.selectedAgents = r.stats.successfulAgents + r.stats.failedAgents
  length_results : r.results.length = r.stats.selectedAgents + r.stats.skippedAgents
  skippedAgents : r.stats.skippedAgents =
    ((o.registry.filter (criteria.filterFor target)).filter (!·.available)).length
  successfulAgents : r.stats.successfulAgents = r.results.countP (·.isSuccess)
  reportedFindings : r.stats.totalRawFindings = (r.results.map (·.rawFindingCount)).sum
  totalRawFindings : r.stats.totalRawFindings =
    r.stats.normalizedFindings + r.stats.rejectedFindings
  correlatedFindings : r.stats.correlatedFindings = r.findings.length
  /-- The share of the normalized findings that are merged away; zero if nothing was normalized. -/
  dedupRate : o.correlation.isSome = true → r.stats.dedupRate =
    if r.stats.normalizedFindings = 0 then 0
    else 1 - Quantity.ofNat r.stats.correlatedFindings /
      Quantity.ofNat r.stats.normalizedFindings
  /-- The log grows, for this run, by just as many events of each kind as are counted. -/
  logged : ∀ log : AuditLog ν,
    tally ((log.recordAll (some r.id) events).eventsFor r.id) =
      tally (log.eventsFor r.id) +
        ⟨r.stats.skippedAgents, r.stats.failedAgents, r.stats.rejectedFindings,
          if o.triage.isSome then r.findings.length else 0⟩

/-- The findings that the tasks of the run report are pending. -/
theorem eq_pending_of_mem_reported {f : Finding ν}
    (hf : f ∈ (o.reported env occasion target criteria w).flatMap (·.2)) :
    f.status = .pending := by
  rw [reported, ← flatMap_normalized] at hf
  obtain ⟨x, -, hfx⟩ := List.mem_flatMap.1 hf
  rw [normalized] at hfx
  split at hfx
  · exact eq_pending_of_mem_normalize hfx
  · cases hfx

theorem eq_pending_of_mem_counted {f : Finding ν}
    (hf : f ∈ (o.counted env occasion target criteria w).run.findings) : f.status = .pending := by
  rw [findings_counted] at hf
  cases hc : o.correlation with
  | none =>
    rw [hc] at hf
    exact o.eq_pending_of_mem_reported env occasion target criteria w hf
  | some c =>
    rw [hc] at hf
    exact eq_pending_of_mem_correlate
      (fun f hf => o.eq_pending_of_mem_reported env occasion target criteria w hf) hf

/-- The counters of a run at its end. -/
theorem stats_completed :
    ∃ cost, (o.completed env occasion target criteria w).run.stats =
      { selectedAgents := (o.registry.select target criteria).agents.length
        successfulAgents :=
          (o.report env occasion target criteria w).outcomes.countP (·.isSuccess)
        failedAgents := (o.report env occasion target criteria w).outcomes.countP (!·.isSuccess)
        skippedAgents := (o.registry.select target criteria).unavailable.length
        totalRawFindings :=
          ((o.report env occasion target criteria w).outcomes.flatMap rawRecords).length
        normalizedFindings := ((o.report env occasion target criteria w).outcomes.flatMap
          fun x => (normalized x).findings).length
        rejectedFindings := ((o.report env occasion target criteria w).outcomes.flatMap
          fun x => (normalized x).rejected).length
        correlatedFindings := (o.counted env occasion target criteria w).run.findings.length
        dedupRate := rateBy o.correlation 0 ((o.report env occasion target criteria
          w).outcomes.flatMap fun x => (normalized x).findings)
        triageCost := cost } := by
  obtain ⟨cost, htriaged⟩ :=
    stats_triaged env (o.counted env occasion target criteria w) o.triage
  have hcompleted : (o.completed env occasion target criteria w).run.stats =
      ((o.counted env occasion target criteria w).triaged env o.triage).run.stats := rfl
  have hcounted : (o.counted env occasion target criteria w).run.stats =
      { (((o.dispatched env occasion target criteria w).aggregated env (o.report env occasion
          target criteria w).outcomes).correlated env o.correlation).run.stats with
        correlatedFindings := (o.counted env occasion target criteria w).run.findings.length } :=
    rfl
  refine ⟨cost, ?_⟩
  rw [hcompleted, htriaged, hcounted, stats_correlated]
  rfl

/-- What a run with an outcome has recorded. -/
theorem tally_completed :
    tally (o.completed env occasion target criteria w).events =
      ⟨(o.registry.select target criteria).unavailable.length,
        (o.report env occasion target criteria w).outcomes.countP (!·.isSuccess),
        ((o.report env occasion target criteria w).outcomes.flatMap
          fun x => (normalized x).rejected).length,
        if o.triage.isSome then (o.completed env occasion target criteria w).run.findings.length
        else 0⟩ := by
  have hskipped : tally ((o.registry.select target criteria).unavailable.map fun d =>
      (.agentSkipped d.name notInstalled : AuditEvent ν)) =
        ⟨(o.registry.select target criteria).unavailable.length, 0, 0, 0⟩ := by
    simp [tally, List.countP_map, Function.comp_def, AuditEvent.kind]
  have hevents : (o.counted env occasion target criteria w).events =
      (o.registry.select target criteria).unavailable.map
          (fun d => .agentSkipped d.name notInstalled) ++
        (o.report env occasion target criteria w).outcomes.flatMap eventsOf :=
    events_correlated env _ o.correlation
  have hcompleted : (o.completed env occasion target criteria w).events =
      ((o.counted env occasion target criteria w).triaged env o.triage).events := rfl
  have hlength : (o.completed env occasion target criteria w).run.findings.length =
      (o.counted env occasion target criteria w).run.findings.length :=
    length_findings_triaged env _ o.triage
  rw [hcompleted, hlength, tally_triaged env _ o.triage fun f hf =>
    o.eq_pending_of_mem_counted env occasion target criteria w hf, hevents, tally_append, hskipped,
    tally_flatMap_eventsOf]
  simp only [Tally.mk_add_mk, Nat.add_zero, Nat.zero_add]

omit [Quantity ν] in
theorem countP_isSuccess_add (outcomes : List (Outcome ν)) :
    outcomes.countP (·.isSuccess) + outcomes.countP (!·.isSuccess) = outcomes.length := by
  rw [List.length_eq_countP_add_countP (·.isSuccess)]
  simp only [Bool.not_eq_true, Bool.decide_eq_false]

theorem length_outcomes :
    (o.report env occasion target criteria w).outcomes.length =
      (o.registry.select target criteria).agents.length := by
  have hagents := congrArg List.length (o.map_agent_outcomes env occasion target criteria w)
  rwa [List.length_map, List.length_map] at hagents

theorem results_completed :
    (o.completed env occasion target criteria w).run.results =
      (o.registry.select target criteria).unavailable.map
          (fun d => .skipped d.name notInstalled) ++
        (o.report env occasion target criteria w).outcomes.map resultOf :=
  results_staged o env _ (o.dispatched env occasion target criteria w)

/-- The rate of a run compares the findings before correlation with those after it. -/
theorem dedupRate_completed (hcorrelation : o.correlation.isSome = true) :
    (o.completed env occasion target criteria w).run.stats.dedupRate =
      Correlate.dedupRate
        (o.completed env occasion target criteria w).run.stats.normalizedFindings
        (o.completed env occasion target criteria w).run.stats.correlatedFindings := by
  obtain ⟨c, hc⟩ := Option.isSome_iff_exists.1 hcorrelation
  obtain ⟨cost, hstats⟩ := o.stats_completed env occasion target criteria w
  have hcounted : (o.counted env occasion target criteria w).run.findings =
      correlate c ((o.report env occasion target criteria w).outcomes.flatMap
        fun x => (normalized x).findings) := by
    rw [findings_counted, hc, reported, ← flatMap_normalized]
    rfl
  rw [hstats, hc, hcounted]
  rfl

/-- **A run that has gone through its stages reconciles.** -/
theorem reconciles_completed :
    o.Reconciles target criteria (o.completed env occasion target criteria w).run
      (o.completed env occasion target criteria w).events := by
  have hresults := o.results_completed env occasion target criteria w
  have hlength := o.length_outcomes env occasion target criteria w
  have hcounts := countP_isSuccess_add (o.report env occasion target criteria w).outcomes
  have hrecords := length_flatMap_rawRecords (o.report env occasion target criteria w).outcomes
  have hfindings : (o.completed env occasion target criteria w).run.findings.length =
      (o.counted env occasion target criteria w).run.findings.length :=
    length_findings_triaged env _ o.triage
  obtain ⟨cost, hstats⟩ := o.stats_completed env occasion target criteria w
  constructor
  case results =>
    refine ⟨_, hresults, ?_⟩
    rw [← o.map_agent_outcomes env occasion target criteria w, List.map_map]
    exact List.map_congr_left fun x _ => agent_resultOf x
  case selectedAgents =>
    rw [hstats]
    exact (hcounts.trans hlength).symm
  case length_results =>
    rw [hresults, hstats, List.length_append, List.length_map, List.length_map, hlength,
      Nat.add_comm]
  case skippedAgents =>
    rw [hstats]
    rfl
  case successfulAgents =>
    rw [hresults, hstats, List.countP_append, countP_isSuccess_skipped, countP_isSuccess_resultOf,
      Nat.zero_add]
  case reportedFindings =>
    rw [hresults, hstats, List.map_append, List.sum_append, sum_rawFindingCount,
      sum_rawFindingCount_skipped, Nat.zero_add]
  case totalRawFindings =>
    rw [hstats]
    exact hrecords
  case correlatedFindings =>
    rw [hfindings, hstats]
  case dedupRate =>
    exact fun hcorrelation => o.dedupRate_completed env occasion target criteria w hcorrelation
  case logged =>
    intro log
    rw [AuditLog.eventsFor_recordAll, tally_append, tally_completed, hstats]

variable {o env occasion target criteria w}

/-- **The books of a run reconcile.**  Whenever a run has an outcome, with whatever agents, criteria
and failures, it shows one result for each agent that it wanted; its counters add up and agree with
the results and with the findings; and its log holds just the events that they count. -/
theorem run_reconciles {r : Run ν} (h : (o.run env occasion target criteria w).1.answer = .ok r) :
    o.Reconciles target criteria r (o.run env occasion target criteria w).1.journey.events := by
  have hrun := o.run_of_ok env occasion target criteria w h
  obtain rfl := o.answer_run_eq_ok env occasion target criteria w h
  rw [hrun]
  exact o.reconciles_completed env occasion target criteria w

end Run

theorem run_reconciles_smallPipeline :
    ∃ r, (smallPipeline.run {} { id := ⟨"small"⟩ } smallTarget {} ()).1.answer = .ok r ∧
      smallPipeline.Reconciles smallTarget {} r
        (smallPipeline.run {} { id := ⟨"small"⟩ } smallTarget {} ()).1.journey.events ∧
      r.stats.normalizedFindings = 3 ∧
      r.stats.dedupRate = 1 - Quantity.ofNat r.stats.correlatedFindings / Quantity.ofNat 3 := by
  have hanswer := congrArg Finished.answer run_smallPipeline
  have hreconciles := run_reconciles hanswer
  obtain ⟨_, hstats⟩ := smallPipeline.stats_completed {} { id := ⟨"small"⟩ } smallTarget {} ()
  have hnormalized : (smallPipeline.completed {} { id := ⟨"small"⟩ } smallTarget {}
      ()).run.stats.normalizedFindings = 3 := by
    refine (congrArg RunStats.normalizedFindings hstats).trans ?_
    show ((smallPipeline.report {} { id := ⟨"small"⟩ } smallTarget {} ()).outcomes.flatMap
      fun x => (normalized x).findings).length = 3
    rw [report, tasks, select_smallPipeline]
    decide +kernel
  refine ⟨_, hanswer, hreconciles, hnormalized, ?_⟩
  rw [hreconciles.dedupRate rfl, hnormalized]
  rfl

/-- In exact numbers the rate is the share of the normalized findings that were merged away. -/
theorem Reconciles.dedupRate_exact {o : Orchestrator α σ ℚ} {target : AnalysisTarget}
    {criteria : SelectionCriteria} {r : Run ℚ} {events : List (AuditEvent ℚ)}
    (h : o.Reconciles target criteria r events) (hcorrelation : o.correlation.isSome = true) :
    r.stats.dedupRate =
      if r.stats.normalizedFindings = 0 then 0
      else 1 - (r.stats.correlatedFindings : ℚ) / r.stats.normalizedFindings := by
  have hofNat (n : Nat) : (Quantity.ofNat n : ℚ) = n := by
    have hscaled : (Quantity.ofNat n : ℚ) = n / 10 ^ 0 := rfl
    rw [hscaled, pow_zero, div_one]
  rw [h.dedupRate hcorrelation, hofNat, hofNat]

end Orchestrator

end Vigil
