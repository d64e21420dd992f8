import Vigil.Proofs.Correlate.Severity
import Vigil.Proofs.Triage.Billing
import Vigil.Proofs.Triage.Fallback

/-!
# The severity that a verdict names

A verdict may name a severity.  The judgement writes it down only if it is not the severity that was
reported, while the severity that counts is read off an earlier adjustment if there is one.  So a
verdict that confirms the reported severity does not put an end to an earlier adjustment.

* `namedSeverity` -- the severity that the winner of a consultation names, read off the calls;
* `Trail.judgement_at` -- the judgement of a finding, wherever it stands among others;
* `JudgedAmong` -- what a call of triage makes of a finding, and which calls it makes about it;
* `severity_takes_effect_iff` -- **the main result**: the severity that is named counts afterwards,
  and without one the severity stays what it was, unless a verdict confirms the reported severity of
  a finding that was adjusted before;
* `not_takesEffect_inheritedLeak` -- a verdict that does not count, about a finding that correlation
  has made.
-/

namespace Vigil

variable {σ ν : Type}

/-! ## The severity that counts -/

/-- A suggestion takes effect: the severity that it names counts, and if it names none, the one that
counted before. -/
def Finding.TakesEffect (suggested : Option Severity) (f g : Finding ν) : Prop :=
  g.effectiveSeverity = suggested.getD f.effectiveSeverity

namespace TriageEngine

theorem effectiveSeverity_adjust (f : Finding ν) (suggested : Option Severity) :
    (adjust f suggested).effectiveSeverity =
      if suggested = some f.severity then f.effectiveSeverity
      else suggested.getD f.effectiveSeverity := by
  cases suggested with
  | none => rfl
  | some s =>
    by_cases hs : s = f.severity
    · rw [adjust, if_pos hs, if_pos (congrArg some hs)]
    · rw [adjust, if_neg hs, if_neg fun h => hs (Option.some.inj h)]
      rfl

/-- The status and the classification do not matter for the severity. -/
theorem effectiveSeverity_settle (f : Finding ν) (c : Classification ν)
    (suggested : Option Severity) :
    (settle f c suggested).effectiveSeverity = (adjust f suggested).effectiveSeverity := rfl

/-- **When a suggestion takes effect.** -/
theorem takesEffect_settle_iff (f : Finding ν) (c : Classification ν)
    (suggested : Option Severity) :
    f.TakesEffect suggested (settle f c suggested) ↔
      (suggested = some f.severity → f.effectiveSeverity = f.severity) := by
  rw [Finding.TakesEffect, effectiveSeverity_settle, effectiveSeverity_adjust]
  by_cases hs : suggested = some f.severity
  · rw [if_pos hs, hs]
    exact ⟨fun h _ => h, fun h => h rfl⟩
  · rw [if_neg hs]
    exact iff_of_true rfl fun h => absurd h hs

/-! ## The severity that the winner names -/

variable [Quantity ν]

/-- The severity that the verdict names, if the last of the calls about a finding has brought one:
only the winner of a consultation brings a verdict, and nobody is called after it. -/
def namedSeverity (calls : List (Call σ ν)) : Option Severity :=
  (calls.getLast?.bind Call.verdict?).bind (·.severity)

section Consulted

variable {id : String} {r : Request} {m : Moment σ ν} {hs : List (Handle σ ν)}
  {decision : Option (Classification ν × Option Severity)} {events : List (AuditEvent ν)}
  {calls : List (Call σ ν)}

theorem Fruitless.verdict?_eq_none {h : Handle σ ν} {event : AuditEvent ν}
    {call : Option (Call σ ν)} (htry : Fruitless id r m h event call) :
    ∀ c ∈ call, c.verdict? = none := by
  intro c hc
  cases htry with
  | refused hr => cases hc
  | tooCostly hr ha =>
    obtain rfl := Option.some.inj hc
    simp [Call.verdict?, Call.response?, ha, Except.toOption]
  | failed hr ha he =>
    obtain rfl := Option.some.inj hc
    simp [Call.verdict?, Call.response?, ha, Except.toOption]
  | unreadable hr ha hv =>
    obtain rfl := Option.some.inj hc
    simp [Call.verdict?, Call.response?, ha, hv, Except.toOption]

theorem Tried.verdict?_eq_none (h : Tried id r m hs events calls) :
    ∀ c ∈ calls, c.verdict? = none := by
  induction h with
  | nil m => exact fun c hc => absurd hc List.not_mem_nil
  | cons htry hrest ih =>
    intro c hc
    rcases List.mem_append.1 hc with hc | hc
    · exact htry.verdict?_eq_none c (Option.mem_toList.1 hc)
    · exact ih c hc

/-- **The severity that a consultation suggests is the one that its winner names.** -/
theorem Consulted.namedSeverity_eq (h : Consulted id r m hs decision events calls) :
    namedSeverity calls = decision.bind (·.2) := by
  cases h with
  | undecided htried =>
    rw [namedSeverity, Option.bind_none]
    cases hlast : calls.getLast? with
    | none => rfl
    | some c =>
      rw [Option.bind_some, htried.verdict?_eq_none c (List.mem_of_getLast? hlast)]
      rfl
  | decided hchain htried hr ha hv =>
    rw [namedSeverity, List.getLast?_concat, Option.bind_some]
    simp [Call.verdict?, Call.response?, ha, hv, Except.toOption]

end Consulted

section Judgement

variable {e : TriageEngine σ ν} {useProviders : Bool} {m : Moment σ ν} {f g : Finding ν}
  {events : List (AuditEvent ν)} {calls : List (Call σ ν)}

/-- A judgement is a settlement with the severity that the winner names. -/
theorem Judgement.exists_eq_settle (h : Judgement e useProviders m f g events calls) :
    ∃ c, g = settle f c (namedSeverity calls) := by
  cases h with
  | byProvider hconsulted => exact ⟨_, by rw [hconsulted.namedSeverity_eq]; rfl⟩
  | byRules hconsulted => exact ⟨_, by rw [hconsulted.namedSeverity_eq]; rfl⟩

/-- **The judgement of a pending finding, wherever it stands among others**: it has its own part of
the calls, and begins where those before it have led. -/
theorem Trail.judgement_at {l gs : List (Finding ν)} (h : Trail e useProviders m l gs events calls)
    {before after : List (Finding ν)} (hl : l = before ++ f :: after) (hf : f.status = .pending) :
    ∃ g earlier asked later events', gs[before.length]? = some g ∧
      calls = earlier ++ (asked ++ later) ∧
      Judgement e useProviders (m.after earlier) f g events' asked := by
  induction h generalizing before with
  | nil m => exact absurd hl (by simp)
  | @keep m f' hf' l gs events calls hrest ih =>
    rcases before with _ | ⟨b, before⟩
    · obtain ⟨rfl, -⟩ := List.cons.inj hl
      exact absurd hf hf'
    · exact ih (List.cons.inj hl).2
  | @judge m f' g' hf' events' calls' hjudged honce l gs events'' calls'' hrest ih =>
    rcases before with _ | ⟨b, before⟩
    · obtain ⟨rfl, -⟩ := List.cons.inj hl
      exact ⟨g', [], calls', calls'', events', rfl, rfl, hjudged⟩
    · obtain ⟨g, earlier, asked, later, events, hg, hcalls, hjudgement⟩ := ih (List.cons.inj hl).2
      refine ⟨g, calls' ++ earlier, asked, later, events, hg, ?_, ?_⟩
      · rw [hcalls, List.append_assoc]
      · rw [Moment.after_append]
        exact hjudgement

end Judgement

/-! ## A call of triage -/

/-- A call of triage makes `g` of the finding `f` among others, and these are the calls that it
makes about it. -/
structure JudgedAmong (e : TriageEngine σ ν) (w : σ) (before : List (Finding ν)) (f : Finding ν)
    (after : List (Finding ν)) (g : Finding ν) (asked : List (Call σ ν)) : Prop where
  found : (e.triage (before ++ f :: after) w).findings[before.length]? = some g
  judged : ∃ earlier later events,
    e.calls (before ++ f :: after) w = earlier ++ (asked ++ later) ∧
    Judgement e e.config.aiEnabled ((e.start w).after earlier) f g events asked

theorem exists_judgedAmong (e : TriageEngine σ ν) (w : σ) (before : List (Finding ν))
    {f : Finding ν} (hf : f.status = .pending) (after : List (Finding ν)) :
    ∃ g asked, e.JudgedAmong w before f after g asked := by
  obtain ⟨g, earlier, asked, later, events, hg, hcalls, hjudged⟩ :=
    (e.trail_triageWith e.config.aiEnabled (before ++ f :: after) w).judgement_at rfl hf
  exact ⟨g, asked, hg, earlier, later, events, hcalls, hjudged⟩

/-- **How far the severity that a provider names takes effect.**  A call of triage judges every
pending finding, wherever it stands.  If its winner names a severity, that one counts afterwards,
and if no severity is named, the one that counted before goes on counting; only if the winner names
the very severity that was reported, a different earlier adjustment goes on counting instead. -/
theorem severity_takes_effect_iff (e : TriageEngine σ ν) (w : σ) (before after : List (Finding ν))
    {f : Finding ν} (hf : f.status = .pending) :
    (∃ g asked, e.JudgedAmong w before f after g asked) ∧
      ∀ g asked, e.JudgedAmong w before f after g asked →
        (f.TakesEffect (namedSeverity asked) g ↔
          (namedSeverity asked = some f.severity → f.effectiveSeverity = f.severity)) ∧
        (namedSeverity asked = some f.severity → g.effectiveSeverity = f.effectiveSeverity) := by
  refine ⟨e.exists_judgedAmong w before hf after, fun g asked h => ?_⟩
  obtain ⟨earlier, later, events, -, hjudged⟩ := h.judged
  obtain ⟨c, rfl⟩ := hjudged.exists_eq_settle
  refine ⟨takesEffect_settle_iff f c _, fun hnamed => ?_⟩
  rw [effectiveSeverity_settle, effectiveSeverity_adjust, if_pos hnamed]

/-! ## A leak that was adjusted before -/

/-- A leak that triage has adjusted from medium to low, and a more confident report of it that has
not been through triage. -/
def reportedAgain : List (Finding Float) :=
  [⟨"lint:leak:m.c:10-10", "leak", .medium, 0.5, ⟨"m.c", 10, 10, none⟩, "", .singleton "lint",
      .confirmed, some .low, some ⟨true, "local", some "m", 0.5, "", 0⟩⟩,
    ⟨"prover:leak:m.c:11-11", "leak", .medium, 0.9, ⟨"m.c", 11, 11, none⟩, "", .singleton "prover",
      .pending, none, none⟩]

/-- What correlation makes of the two: it is pending, and the adjustment goes on counting. -/
def inheritedLeak : Finding Float :=
  ⟨"lint:leak:m.c:10-10", "leak", .medium, 1, ⟨"m.c", 10, 11, none⟩, "",
    .ofList ["lint", "prover"], .pending, some .low, none⟩

theorem correlate_reportedAgain : correlate .standard reportedAgain = [inheritedLeak] := by
  have hsort : Correlate.sort reportedAgain = reportedAgain :=
    Correlate.sort_of_ascending (by decide)
  have hchains : Correlate.chains 3 reportedAgain = [reportedAgain] := by rfl
  rw [correlate, hsort]
  exact (congrArg (List.flatMap (Correlate.mergeChain .standard)) hchains).trans (by decide +kernel)

/-- The answer of a provider that confirms a finding and names a severity. -/
def naming (s : Severity) : String :=
  "\x7b\"verdict\":\"confirmed\",\"severity\":\"" ++ s.name ++ "\"\x7d"

/-- A provider that always answers so. -/
def namingProvider (s : Severity) : Provider Unit Float where
  name := "local"
  model := "m"
  estimate := fun _ _ => 0
  classify := fun _ w => (.ok ⟨naming s, 0.9, "local", "m", 0⟩, w)

/-- A triage that asks this provider. -/
def namingEngine (s : Severity) : TriageEngine Unit Float :=
  (TriageEngine.of .standard).addProviders [⟨namingProvider s, 0, 1, true⟩]

/-- The call about the leak. -/
def leakCall (s : Severity) : Call Unit Float :=
  ⟨namingProvider s, (namingEngine s).requestFor inheritedLeak, ()⟩

/-- The leak after its judgement. -/
def judgedLeak (s : Severity) : Finding Float :=
  settle inheritedLeak ⟨true, "local", some "m", 0.9, "", 0⟩ (some s)

theorem parse_naming (s : Severity) :
    (Verdict.parse (naming s) : Except String (Verdict Float)) = .ok ⟨true, some s, none, ""⟩ := by
  cases s <;> decide +kernel

theorem refuses_namingProvider (s : Severity) :
    Handle.refuses ⟨namingProvider s, 0, 1, true⟩ ((namingEngine s).requestFor inheritedLeak)
      ((namingEngine s).start ()).budget.remaining () = false := by
  cases s <;> decide +kernel

/-- The provider wins the consultation about the leak. -/
theorem consulted_inheritedLeak (s : Severity) :
    Consulted inheritedLeak.id ((namingEngine s).requestFor inheritedLeak)
      ((namingEngine s).start ()) ((namingEngine s).chain true)
      (some (⟨true, "local", some "m", 0.9, "", 0⟩, some s)) [] [leakCall s] := by
  have hchain : (namingEngine s).chain true = [] ++ ⟨namingProvider s, 0, 1, true⟩ :: [] := rfl
  exact Consulted.decided hchain (Tried.nil _) (refuses_namingProvider s) rfl (parse_naming s)

theorem namedSeverity_leakCall (s : Severity) : namedSeverity [leakCall s] = some s :=
  (consulted_inheritedLeak s).namedSeverity_eq

theorem judgedAmong_inheritedLeak (s : Severity) :
    (namingEngine s).JudgedAmong () [] inheritedLeak [] (judgedLeak s) [leakCall s] where
  found := by cases s <;> decide +kernel
  judged := ⟨[], [], _, calls_of_single rfl rfl rfl rfl (refuses_namingProvider s),
    Judgement.byProvider (consulted_inheritedLeak s)⟩

/-- Every severity takes effect but the one that was reported: then the leak remains low. -/
theorem severity_takes_effect_iff_inheritedLeak :
    inheritedLeak.status = .pending ∧
      (∀ s, inheritedLeak.TakesEffect (some s) (judgedLeak s) ↔ s ≠ .medium) ∧
      (judgedLeak .medium).effectiveSeverity = .low := by
  have htriage (s : Severity) :=
    (severity_takes_effect_iff (namingEngine s) () [] [] (f := inheritedLeak) rfl).2 _ _
      (judgedAmong_inheritedLeak s)
  simp only [namedSeverity_leakCall] at htriage
  refine ⟨rfl, fun s => (htriage s).1.trans ?_, (htriage .medium).2 rfl⟩
  cases s <;> decide

/-- **A verdict does not always take effect**: one that confirms the reported severity of a finding
leaves the earlier adjustment in force that correlation has handed down to it. -/
theorem not_takesEffect_inheritedLeak :
    inheritedLeak ∈ correlate .standard reportedAgain ∧
      ¬∀ (e : TriageEngine Unit Float) (w : Unit) (before after : List (Finding Float))
        (f : Finding Float), f.status = .pending →
        ∀ g asked, e.JudgedAmong w before f after g asked →
          f.TakesEffect (namedSeverity asked) g := by
  refine ⟨correlate_reportedAgain ▸ List.mem_singleton_self _, fun hall => ?_⟩
  have heffect := hall (namingEngine .medium) () [] [] inheritedLeak rfl _ _
    (judgedAmong_inheritedLeak .medium)
  rw [namedSeverity_leakCall, Finding.TakesEffect] at heffect
  exact absurd heffect (by decide)

end TriageEngine

end Vigil
