import Mathlib.Data.List.Forall2
import Vigil.Proofs.Triage.Fallback
import Vigil.Proofs.Triage.Review
import Vigil.Proofs.Triage.Trail

/-!
# The life of a finding

A pending finding is judged once.  After that only a human changes it, and only if it waits for
that.

* `BecomesByTriage` and `Step` -- what a call of triage makes of one finding among others, and what
  may happen to a finding at all;
* `Life` -- what a pending finding becomes in a run of steps: itself for a while, then what its
  judgement has made of it, and then the same with a human's decision;
* `judge_insert` -- a finding that is not pending adds nothing but itself to a call of triage;
* `status_is_one_way` -- **the main result**: every run of steps is a life, its statuses are
  pending, then waiting for a human, then decided, and triage repeated does nothing.
-/

namespace Vigil

variable {σ ν : Type} [Quantity ν]

/-! ## What may happen to a finding -/

namespace Finding

/-- Triage makes `g` of `f`: some engine does, with its providers or by the rules alone (`triage`
and `triageByRules` are both calls of `triageWith`), in some world, when `f` stands among other
findings. -/
def BecomesByTriage (f g : Finding ν) : Prop :=
  ∃ (σ : Type) (e : TriageEngine σ ν) (useProviders : Bool) (w : σ)
    (before after : List (Finding ν)),
    (e.triageWith useProviders (before ++ f :: after) w).findings[before.length]? = some g

/-- One step in the life of a finding. -/
inductive Step (f : Finding ν) : Finding ν → Prop
  | triage {g : Finding ν} (h : BecomesByTriage f g) : Step f g
  | resolve (confirmed : Bool) : Step f (f.resolveReview confirmed)

theorem BecomesByTriage.triaged {f g : Finding ν} (h : BecomesByTriage f g) : Triaged f g := by
  obtain ⟨σ, e, useProviders, w, before, after, hg⟩ := h
  obtain ⟨hlength, rfl⟩ := List.getElem?_eq_some_iff.1 hg
  have hall : List.Forall₂ Triaged (before ++ f :: after)
      (e.triageWith useProviders (before ++ f :: after) w).findings :=
    e.forall₂_triaged_judge useProviders _ _ w
  have hf : before.length < (before ++ f :: after).length := by simp
  simpa using hall.get hf hlength

/-- **Triage returns a finding that is not pending as it is.** -/
theorem BecomesByTriage.eq_of_not_pending {f g : Finding ν} (h : BecomesByTriage f g)
    (hf : f.status ≠ .pending) : g = f :=
  h.triaged.kept hf

/-! ## One step -/

/-- A human has decided, or none had to. -/
def IsDecided (s : TriageStatus) : Prop :=
  s = .confirmed ∨ s = .falsePositive

theorem isDecided_iff {s : TriageStatus} :
    IsDecided s ↔ s ≠ .pending ∧ s ≠ .needsHumanReview := by
  cases s <;> simp [IsDecided]

theorem Step.pending {f g : Finding ν} (h : Step f g) (hf : f.status = .pending) :
    g = f ∨ BecomesByTriage f g := by
  cases h with
  | triage h => exact .inr h
  | resolve confirmed => exact .inl (resolveReview_of_ne (by simp [hf]) confirmed)

theorem Step.waiting {f g : Finding ν} (h : Step f g) (hf : f.status = .needsHumanReview) :
    g = f ∨ ∃ s, IsDecided s ∧ g = { f with status := s } := by
  cases h with
  | triage h => exact .inl (h.eq_of_not_pending (by simp [hf]))
  | resolve confirmed =>
    refine .inr ⟨if confirmed then .confirmed else .falsePositive, ?_, if_pos hf⟩
    cases confirmed
    · exact .inr rfl
    · exact .inl rfl

theorem Step.decided {f g : Finding ν} (h : Step f g) (hf : IsDecided f.status) : g = f := by
  obtain ⟨hpending, hwaiting⟩ := isDecided_iff.1 hf
  cases h with
  | triage h => exact h.eq_of_not_pending hpending
  | resolve confirmed => exact resolveReview_of_ne hwaiting confirmed

/-! ## Runs of steps -/

/-- What a finding becomes, one after the other. -/
inductive Life (f : Finding ν) : List (Finding ν) → Prop
  /-- It has not been judged. -/
  | unjudged (n : Nat) : Life f (List.replicate n f)
  /-- It has been judged, once. -/
  | judged (n : Nat) {g : Finding ν} (h : BecomesByTriage f g) (k : Nat) :
    Life f (List.replicate n f ++ List.replicate (k + 1) g)
  /-- It has been judged, waited for a human, and been decided upon. -/
  | resolved (n : Nat) {g : Finding ν} (h : BecomesByTriage f g)
    (hg : g.status = .needsHumanReview) (k m : Nat) {s : TriageStatus} (hs : IsDecided s) :
    Life f (List.replicate n f ++
      (List.replicate (k + 1) g ++ List.replicate m { g with status := s }))

/-- Statuses in the only order: pending, then waiting for a human, then decided for good. -/
def OneWay (l : List TriageStatus) : Prop :=
  ∃ pending waiting decided s, IsDecided s ∧
    l = List.replicate pending .pending ++
      (List.replicate waiting .needsHumanReview ++ List.replicate decided s)

theorem run_of_decided {f : Finding ν} {gs : List (Finding ν)} (hrun : (f :: gs).IsChain Step)
    (hf : IsDecided f.status) : gs = List.replicate gs.length f := by
  induction gs with
  | nil => rfl
  | cons g rest ih =>
    obtain ⟨hstep, hrest⟩ := List.isChain_cons_cons.1 hrun
    obtain rfl := hstep.decided hf
    rw [List.length_cons, List.replicate_succ, ← ih hrest]

theorem run_of_waiting {f : Finding ν} {gs : List (Finding ν)} (hrun : (f :: gs).IsChain Step)
    (hf : f.status = .needsHumanReview) :
    ∃ k m s, IsDecided s ∧ gs = List.replicate k f ++ List.replicate m { f with status := s } := by
  induction gs with
  | nil => exact ⟨0, 0, .confirmed, .inl rfl, rfl⟩
  | cons g rest ih =>
    obtain ⟨hstep, hrest⟩ := List.isChain_cons_cons.1 hrun
    rcases hstep.waiting hf with rfl | ⟨s, hs, rfl⟩
    · obtain ⟨k, m, s, hs, hgs⟩ := ih hrest
      exact ⟨k + 1, m, s, hs, congrArg (g :: ·) hgs⟩
    · exact ⟨0, rest.length + 1, s, hs, congrArg (_ :: ·) (run_of_decided hrest hs)⟩

theorem Life.cons {f : Finding ν} {gs : List (Finding ν)} (h : Life f gs) : Life f (f :: gs) := by
  cases h with
  | unjudged n => exact .unjudged (n + 1)
  | judged n h k => exact .judged (n + 1) h k
  | resolved n h hg k m hs => exact .resolved (n + 1) h hg k m hs

/-- The judgement, and what comes after it. -/
theorem life_of_judged {f g : Finding ν} {gs : List (Finding ν)} (h : BecomesByTriage f g)
    (hrun : (g :: gs).IsChain Step) : Life f (g :: gs) := by
  by_cases hg : g.status = .needsHumanReview
  · obtain ⟨k, m, s, hs, rfl⟩ := run_of_waiting hrun hg
    exact .resolved 0 h hg k m hs
  · rw [run_of_decided hrun (isDecided_iff.2 ⟨h.triaged.not_pending, hg⟩)]
    exact .judged 0 h gs.length

/-- **Every run of steps from a pending finding is a life.** -/
theorem life_of_run {f : Finding ν} {gs : List (Finding ν)} (hrun : (f :: gs).IsChain Step)
    (hf : f.status = .pending) : Life f gs := by
  induction gs with
  | nil => exact .unjudged 0
  | cons g rest ih =>
    obtain ⟨hstep, hrest⟩ := List.isChain_cons_cons.1 hrun
    rcases hstep.pending hf with rfl | h
    · exact (ih hrest).cons
    · exact life_of_judged h hrest

/-- **The statuses of a life go one way.** -/
theorem Life.oneWay {f : Finding ν} {gs : List (Finding ν)} (h : Life f gs)
    (hf : f.status = .pending) : OneWay (gs.map (·.status)) := by
  cases h with
  | unjudged n => exact ⟨n, 0, 0, .confirmed, .inl rfl, by simp [hf]⟩
  | @judged n g h k =>
    by_cases hg : g.status = .needsHumanReview
    · exact ⟨n, k + 1, 0, .confirmed, .inl rfl, by simp [hf, hg]⟩
    · exact ⟨n, 0, k + 1, g.status, isDecided_iff.2 ⟨h.triaged.not_pending, hg⟩, by simp [hf]⟩
  | resolved n h hg k m hs => exact ⟨n, k + 1, m, _, hs, by simp [hf, hg]⟩

end Finding

/-! ## Findings that are not pending -/

namespace TriageEngine

open Finding

/-- An outcome with one more finding that was left as it is, at some place. -/
def Outcome.insertAt (i : Nat) (f : Finding ν) (o : Outcome σ ν) : Outcome σ ν :=
  { o with findings := o.findings.insertIdx i f }

/-- **A finding that is not pending adds nothing but itself**: no count, no cost, no event and no
change of the world, in whatever company it stands. -/
theorem judge_insert (e : TriageEngine σ ν) (useProviders : Bool) {f : Finding ν}
    (hf : f.status ≠ .pending) (l l' : List (Finding ν)) (b : Budget ν) (w : σ) :
    e.judge useProviders (l ++ f :: l') b w =
      (e.judge useProviders (l ++ l') b w).insertAt l.length f := by
  induction l generalizing b w with
  | nil => exact judge_cons_of_not_pending hf l' b w
  | cons g rest ih =>
    by_cases hg : g.status = .pending
    · rw [List.cons_append, List.cons_append, judge_cons_of_pending hg, judge_cons_of_pending hg]
      dsimp only
      rw [ih]
      rfl
    · rw [List.cons_append, List.cons_append, judge_cons_of_not_pending hg,
        judge_cons_of_not_pending hg, ih]
      rfl

theorem triageWith_insert (e : TriageEngine σ ν) (useProviders : Bool) {f : Finding ν}
    (hf : f.status ≠ .pending) (l l' : List (Finding ν)) (w : σ) :
    e.triageWith useProviders (l ++ f :: l') w =
      (e.triageWith useProviders (l ++ l') w).insertAt l.length f :=
  e.judge_insert useProviders hf l l' _ w

/-- Where no finding is pending, triage does nothing. -/
theorem triageWith_of_not_pending (e : TriageEngine σ ν) (useProviders : Bool)
    {l : List (Finding ν)} (hl : ∀ f ∈ l, f.status ≠ .pending) (w : σ) :
    e.triageWith useProviders l w =
      ⟨l, 0, 0, 0, Budget.full e.config.totalCostCeiling, [], w⟩ := by
  induction l with
  | nil => rfl
  | cons f rest ih =>
    obtain ⟨hf, hrest⟩ := List.forall_mem_cons.1 hl
    rw [← List.nil_append (f :: rest), triageWith_insert e useProviders hf, List.nil_append,
      ih hrest]
    rfl

theorem calls_insert (e : TriageEngine σ ν) {f : Finding ν} (hf : f.status ≠ .pending)
    (l l' : List (Finding ν)) (w : σ) : e.calls (l ++ f :: l') w = e.calls (l ++ l') w :=
  congrArg (·.world.2) (e.recorded.triageWith_insert e.config.aiEnabled hf l l' (w, []))

theorem calls_of_not_pending (e : TriageEngine σ ν) {l : List (Finding ν)}
    (hl : ∀ f ∈ l, f.status ≠ .pending) (w : σ) : e.calls l w = [] :=
  congrArg (·.world.2) (e.recorded.triageWith_of_not_pending e.config.aiEnabled hl (w, []))

theorem not_pending_of_mem_triageWith {e : TriageEngine σ ν} {useProviders : Bool}
    {l : List (Finding ν)} {w : σ} {g : Finding ν}
    (hg : g ∈ (e.triageWith useProviders l w).findings) : g.status ≠ .pending := by
  obtain ⟨f, -, htriaged⟩ :=
    exists_left_of_forall₂ (e.forall₂_triaged_judge useProviders l _ w) hg
  exact htriaged.not_pending

/-! ## The main result -/

/-- **The status of a finding goes one way.**  From a pending finding, any run of calls of triage
and decisions of humans is a life: the finding stays as it is until one call judges it, and then
only its status changes, once, if it waits for a human.  No call of triage changes a finding that is
not pending; such a finding adds nothing but itself to what a call gives back, counts, charges,
records and calls; and of findings that come from triage another call makes the same findings, with
nothing counted, charged, recorded or called. -/
theorem status_is_one_way :
    (∀ {f : Finding ν} {gs : List (Finding ν)}, f.status = .pending → (f :: gs).IsChain Step →
      Life f gs ∧ OneWay (gs.map (·.status))) ∧
    (∀ {f g : Finding ν}, f.status ≠ .pending → BecomesByTriage f g → g = f) ∧
    (∀ {σ : Type} (e : TriageEngine σ ν) (useProviders : Bool) {f : Finding ν}
      (l l' : List (Finding ν)) (w : σ), f.status ≠ .pending →
      e.triageWith useProviders (l ++ f :: l') w =
          (e.triageWith useProviders (l ++ l') w).insertAt l.length f ∧
        e.calls (l ++ f :: l') w = e.calls (l ++ l') w) ∧
    ∀ {σ τ : Type} (e : TriageEngine σ ν) (e' : TriageEngine τ ν)
      (useProviders useProviders' : Bool) (l : List (Finding ν)) (w : σ) (w' : τ),
      let once := (e.triageWith useProviders l w).findings
      let again := e'.triageWith useProviders' once w'
      again.findings = once ∧ again.summary = ⟨0, 0, 0, 0⟩ ∧ again.events = [] ∧
        e'.calls once w' = [] := by
  refine ⟨fun hf hrun => ?_, fun hf h => h.eq_of_not_pending hf, ?_, ?_⟩
  · have hlife := life_of_run hrun hf
    exact ⟨hlife, hlife.oneWay hf⟩
  · intro σ e useProviders f l l' w hf
    exact ⟨e.triageWith_insert useProviders hf l l' w, e.calls_insert hf l l' w⟩
  · intro σ τ e e' useProviders useProviders' l w w' once again
    have hjudged : ∀ g ∈ once, g.status ≠ .pending := fun _ => not_pending_of_mem_triageWith
    have hagain : again = _ := e'.triageWith_of_not_pending useProviders' hjudged w'
    rw [hagain]
    exact ⟨rfl, rfl, rfl, e'.calls_of_not_pending hjudged w'⟩

/-- A severe leak. -/
def severeLeak : Finding ℚ :=
  { leak with severity := .high }

/-- What the rules make of it. -/
def flaggedLeak : Finding ℚ :=
  settle severeLeak (classificationByRules hopelessEngine.rules severeLeak) none

/-- Before its judgement a human has nothing to decide; afterwards triage has nothing to judge. -/
theorem isChain_severeLeak :
    [severeLeak, severeLeak, flaggedLeak, flaggedLeak,
      { flaggedLeak with status := .falsePositive },
      { flaggedLeak with status := .falsePositive }].IsChain Step := by
  have hjudged : BecomesByTriage severeLeak flaggedLeak := by
    refine ⟨Nat, hopelessEngine, false, 0, [], [leak], ?_⟩
    rw [List.nil_append, triageWith, judge_cons_of_pending rfl]
    rfl
  have hkept : BecomesByTriage flaggedLeak flaggedLeak := by
    refine ⟨Nat, hopelessEngine, true, 0, [], [leak], ?_⟩
    rw [List.nil_append, triageWith, judge_cons_of_not_pending (by decide)]
    rfl
  exact .cons_cons (.resolve true) (.cons_cons (.triage hjudged) (.cons_cons (.triage hkept)
    (.cons_cons (.resolve false) (.cons_cons (.resolve true) (.singleton _)))))

theorem status_is_one_way_severeLeak :
    severeLeak.status = .pending ∧
      OneWay [.pending, .needsHumanReview, .needsHumanReview, .falsePositive, .falsePositive] ∧
      (∀ g, BecomesByTriage flaggedLeak g → g = flaggedLeak) ∧
      hopelessEngine.triageWith true [severeLeak, flaggedLeak] 0 =
        (hopelessEngine.triageWith true [severeLeak] 0).insertAt 1 flaggedLeak :=
  have hflagged : flaggedLeak.status ≠ .pending := by decide
  ⟨rfl, (status_is_one_way.1 rfl isChain_severeLeak).2,
    fun _ => status_is_one_way.2.1 hflagged,
    (status_is_one_way.2.2.1 hopelessEngine true [severeLeak] [] 0 hflagged).1⟩

end TriageEngine

end Vigil
