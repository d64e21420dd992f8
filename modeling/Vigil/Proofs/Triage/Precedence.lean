import Mathlib.Data.List.Induction
import Vigil.Proofs.Exact
import Vigil.Proofs.Triage.Trail
import Vigil.Triage.Configured

/-!
# The precedence of providers

The chain of an engine is sorted whenever a provider comes to it.  All these sorts come to one, of
the providers in the order in which they were added; and since a consultation stops at the first
verdict, this order decides who classifies a finding.

* `TriageEngine.IsStableSort` -- a chain is the stable sort of some handles; there is only one
  (`TriageEngine.eq_of_ofPriority_eq`), and one more handle can be added before or after the sort
  (`TriageEngine.IsStableSort.concat`);
* `TriageEngine.Assembled` -- how an engine comes to its providers;
* `TriageEngine.getElem?_findings_triage` -- each pending finding is classified by the first verdict
  along the chain;
* `TriageEngine.precedence_of_assembled` -- **the main result**: the chain is the stable sort of the
  handles as they were added, the first verdict along it decides, and the order in which handles of
  different priority were added makes no difference.
-/

namespace Vigil

variable {σ ν : Type}

namespace TriageEngine

/-! ## Stable sorting -/

/-- The handles of a priority, in order. -/
def ofPriority (p : UInt32) (hs : List (Handle σ ν)) : List (Handle σ ν) :=
  hs.filter (·.priority == p)

/-- A chain has the same handles as a list, by ascending priority, and those of equal priority in
the order in which they stand in the list. -/
structure IsStableSort (added chain : List (Handle σ ν)) : Prop where
  perm : chain.Perm added
  ascending : chain.Pairwise fun g h => g.priority ≤ h.priority
  stable : ∀ p, ofPriority p chain = ofPriority p added

theorem mem_ofPriority {p : UInt32} {h : Handle σ ν} {hs : List (Handle σ ν)} :
    h ∈ ofPriority p hs ↔ h ∈ hs ∧ h.priority = p := by
  rw [ofPriority, List.mem_filter, beq_iff_eq]

theorem mem_ofPriority_cons_self (h : Handle σ ν) (hs : List (Handle σ ν)) :
    h ∈ ofPriority h.priority (h :: hs) :=
  mem_ofPriority.2 ⟨List.mem_cons_self, rfl⟩

theorem ofPriority_cons_of_eq {p : UInt32} {h : Handle σ ν} (hp : h.priority = p)
    (hs : List (Handle σ ν)) : ofPriority p (h :: hs) = h :: ofPriority p hs :=
  List.filter_cons_of_pos (beq_iff_eq.2 hp)

theorem ofPriority_append (p : UInt32) (hs hs' : List (Handle σ ν)) :
    ofPriority p (hs ++ hs') = ofPriority p hs ++ ofPriority p hs' :=
  List.filter_append hs hs'

/-- The first of two ascending chains is not behind the first of the other, if each priority has
the same handles in both. -/
theorem priority_le_of_ofPriority_eq {g h : Handle σ ν} {gs hs : List (Handle σ ν)}
    (hg : (g :: gs).Pairwise fun g h => g.priority ≤ h.priority)
    (hsame : ∀ p, ofPriority p (g :: gs) = ofPriority p (h :: hs)) : g.priority ≤ h.priority := by
  have hmem : h ∈ ofPriority h.priority (g :: gs) := by
    rw [hsame]
    exact mem_ofPriority_cons_self h hs
  rcases List.mem_cons.1 (mem_ofPriority.1 hmem).1 with rfl | hmem
  · exact UInt32.le_refl _
  · exact List.rel_of_pairwise_cons hg hmem

/-- **There is only one ascending chain** with given handles of each priority. -/
theorem eq_of_ofPriority_eq {gs hs : List (Handle σ ν)}
    (hgs : gs.Pairwise fun g h => g.priority ≤ h.priority)
    (hhs : hs.Pairwise fun g h => g.priority ≤ h.priority)
    (hsame : ∀ p, ofPriority p gs = ofPriority p hs) : gs = hs := by
  induction gs generalizing hs with
  | nil =>
    cases hs with
    | nil => rfl
    | cons h hs =>
      have hmem := mem_ofPriority_cons_self h hs
      rw [← hsame] at hmem
      cases hmem
  | cons g gs ih =>
    cases hs with
    | nil =>
      have hmem := mem_ofPriority_cons_self g gs
      rw [hsame] at hmem
      cases hmem
    | cons h hs =>
      have hpriority : g.priority = h.priority :=
        UInt32.le_antisymm (priority_le_of_ofPriority_eq hgs hsame)
          (priority_le_of_ofPriority_eq hhs fun p => (hsame p).symm)
      have hfirst := hsame h.priority
      rw [ofPriority_cons_of_eq hpriority, ofPriority_cons_of_eq rfl] at hfirst
      obtain ⟨rfl, -⟩ := List.cons.inj hfirst
      refine congrArg (g :: ·) (ih hgs.tail hhs.tail fun p => ?_)
      have hp := hsame p
      rw [← List.singleton_append, ofPriority_append, ← List.singleton_append (l := hs),
        ofPriority_append] at hp
      exact List.append_cancel_left hp

/-! ## Insertion -/

theorem perm_insertHandle (h : Handle σ ν) (chain : List (Handle σ ν)) :
    (insertHandle h chain).Perm (h :: chain) := by
  induction chain with
  | nil => exact List.Perm.refl _
  | cons g rest ih =>
    rw [insertHandle]
    split
    · exact List.Perm.refl _
    · exact (ih.cons g).trans (List.Perm.swap h g rest)

theorem pairwise_insertHandle (h : Handle σ ν) {chain : List (Handle σ ν)}
    (hchain : chain.Pairwise fun g h => g.priority ≤ h.priority) :
    (insertHandle h chain).Pairwise fun g h => g.priority ≤ h.priority := by
  induction chain with
  | nil => exact List.pairwise_singleton _ _
  | cons g rest ih =>
    rw [insertHandle]
    by_cases hlt : h.priority < g.priority
    · rw [if_pos hlt]
      have hle := UInt32.le_of_lt hlt
      refine List.pairwise_cons.2 ⟨fun k hk => ?_, hchain⟩
      rcases List.mem_cons.1 hk with rfl | hk
      · exact hle
      · exact UInt32.le_trans hle (List.rel_of_pairwise_cons hchain hk)
    · rw [if_neg hlt]
      refine List.pairwise_cons.2 ⟨fun k hk => ?_, ih hchain.tail⟩
      rcases List.mem_cons.1 ((perm_insertHandle h rest).mem_iff.1 hk) with rfl | hk
      · exact UInt32.not_lt.1 hlt
      · exact List.rel_of_pairwise_cons hchain hk

/-- A handle that is inserted into an ascending chain comes behind those of its priority. -/
theorem ofPriority_insertHandle (h : Handle σ ν) {chain : List (Handle σ ν)}
    (hchain : chain.Pairwise fun g h => g.priority ≤ h.priority) (p : UInt32) :
    ofPriority p (insertHandle h chain) = ofPriority p (chain ++ [h]) := by
  induction chain with
  | nil => rfl
  | cons g rest ih =>
    rw [insertHandle]
    by_cases hlt : h.priority < g.priority
    · -- All that follows has a greater priority, so there is nothing to come behind.
      rw [if_pos hlt, ← List.singleton_append, ofPriority_append, ofPriority_append]
      by_cases hp : h.priority = p
      · have hnone : ofPriority p (g :: rest) = [] := by
          refine List.filter_eq_nil_iff.2 fun k hk hkp => ?_
          have hgk : g.priority ≤ k.priority := by
            rcases List.mem_cons.1 hk with rfl | hk
            · exact UInt32.le_refl _
            · exact List.rel_of_pairwise_cons hchain hk
          rw [beq_iff_eq.1 hkp, ← hp] at hgk
          exact UInt32.not_le.2 hlt hgk
        rw [hnone, List.append_nil, List.nil_append]
      · have hnone : ofPriority p [h] = [] := List.filter_eq_nil_iff.2 (by simpa using hp)
        rw [hnone, List.append_nil, List.nil_append]
    · rw [if_neg hlt, List.cons_append, ← List.singleton_append, ofPriority_append,
        ih hchain.tail, ← ofPriority_append, List.singleton_append]

/-- **A handle can be inserted after the sort**, or be added before. -/
theorem IsStableSort.insertHandle {added chain : List (Handle σ ν)} (h : IsStableSort added chain)
    (new : Handle σ ν) : IsStableSort (added ++ [new]) (insertHandle new chain) where
  perm := (perm_insertHandle new chain).trans
    ((h.perm.cons new).trans (List.perm_append_singleton new added).symm)
  ascending := pairwise_insertHandle new h.ascending
  stable p := by
    rw [ofPriority_insertHandle new h.ascending, ofPriority_append, ofPriority_append, h.stable]

theorem isStableSort_byPriority (hs : List (Handle σ ν)) : IsStableSort hs (byPriority hs) := by
  induction hs using List.reverseRecOn with
  | nil => exact ⟨List.Perm.refl _, List.Pairwise.nil, fun _ => rfl⟩
  | append_singleton hs h ih =>
    rw [byPriority, List.foldl_append]
    exact ih.insertHandle h

/-- **To sort again comes to one sort** of all that has been added. -/
theorem IsStableSort.concat {added chain chain' : List (Handle σ ν)} (h : IsStableSort added chain)
    {new : Handle σ ν} (h' : IsStableSort (chain ++ [new]) chain') :
    IsStableSort (added ++ [new]) chain' where
  perm := h'.perm.trans (h.perm.append_right [new])
  ascending := h'.ascending
  stable p := by rw [h'.stable, ofPriority_append, ofPriority_append, h.stable]

/-! ## How an engine comes to its providers -/

variable [Quantity ν]

/-- An engine has been given these handles, in this order. -/
inductive Assembled : TriageEngine σ ν → List (Handle σ ν) → Prop
  | of (c : TriageConfig ν) : Assembled (.of c) []
  /-- The providers that a configuration lists. -/
  | ofConfig (c : TriageConfig ν) (environment : String → Option String) (network : Network σ) :
    Assembled (.ofConfig c environment network) (c.providers.map (·.handle environment network))
  | addProvider {e : TriageEngine σ ν} {hs : List (Handle σ ν)} (h : Assembled e hs)
    (new : Handle σ ν) : Assembled (e.addProvider new) (hs ++ [new])

/-- The chain of an engine is the stable sort of some handles, and its rules are those of its
configuration. -/
structure Chains (e : TriageEngine σ ν) (hs : List (Handle σ ν)) : Prop where
  sorted : IsStableSort hs e.providers
  rules : e.rules = (of e.config : TriageEngine σ ν).rules

section Chains

variable {e e' : TriageEngine σ ν} {hs hs' : List (Handle σ ν)}

omit [Quantity ν]

theorem chains_of (c : TriageConfig ν) : (of c : TriageEngine σ ν).Chains [] :=
  ⟨isStableSort_byPriority [], rfl⟩

theorem Chains.addProvider (h : e.Chains hs) (new : Handle σ ν) :
    (e.addProvider new).Chains (hs ++ [new]) :=
  ⟨h.sorted.concat (isStableSort_byPriority _), h.rules⟩

theorem Chains.addProviders (h : e.Chains hs) (more : List (Handle σ ν)) :
    (e.addProviders more).Chains (hs ++ more) := by
  induction more generalizing e hs with
  | nil =>
    rw [List.append_nil]
    exact h
  | cons new more ih =>
    rw [← List.singleton_append, ← List.append_assoc]
    exact ih (h.addProvider new)

/-- Two engines that were given the same handles of each priority have the same chain. -/
theorem Chains.providers_eq (h : e.Chains hs) (h' : e'.Chains hs')
    (hsame : ∀ p, ofPriority p hs' = ofPriority p hs) : e'.providers = e.providers :=
  eq_of_ofPriority_eq h'.sorted.ascending h.sorted.ascending fun p => by
    rw [h'.sorted.stable, h.sorted.stable, hsame]

end Chains

theorem Assembled.chains {e : TriageEngine σ ν} {hs : List (Handle σ ν)} (h : Assembled e hs) :
    e.Chains hs := by
  induction h with
  | of c => exact chains_of c
  | ofConfig c environment network => exact (chains_of c).addProviders _
  | addProvider h new ih => exact ih.addProvider new

/-! ## Calls of triage -/

section Triage

variable {e e' : TriageEngine σ ν}

/-- The configurations of two engines differ at most in the providers that they list. -/
def SameSettings (e e' : TriageEngine σ ν) : Prop :=
  e'.config = { e.config with providers := e'.config.providers }

/-- Triage does not look at what the configuration lists, only at the chain. -/
theorem judge_congr (hconfig : SameSettings e e') (hrules : e'.rules = e.rules)
    (hproviders : e'.providers = e.providers) (useProviders : Bool) (l : List (Finding ν))
    (b : Budget ν) (w : σ) : e'.judge useProviders l b w = e.judge useProviders l b w := by
  have hconsultation (f : Finding ν) (b : Budget ν) (w : σ) :
      e'.consultation useProviders f b w = e.consultation useProviders f b w := by
    rw [consultation, consultation, requestFor, requestFor, hproviders, hconfig]
  induction l generalizing b w with
  | nil => rfl
  | cons f rest ih =>
    by_cases hf : f.status = .pending
    · rw [judge_cons_of_pending hf, judge_cons_of_pending hf, hconsultation, hrules]
      exact congrArg (Outcome.judged _ _ _) (ih _ _)
    · rw [judge_cons_of_not_pending hf, judge_cons_of_not_pending hf, ih]

theorem findings_judge_append (useProviders : Bool) (l l' : List (Finding ν)) (b : Budget ν)
    (w : σ) :
    (e.judge useProviders (l ++ l') b w).findings = (e.judge useProviders l b w).findings ++
      (e.judge useProviders l' (e.judge useProviders l b w).budget
        (e.judge useProviders l b w).world).findings := by
  induction l generalizing b w with
  | nil => rfl
  | cons f rest ih =>
    rw [List.cons_append]
    by_cases hf : f.status = .pending
    · rw [judge_cons_of_pending hf, judge_cons_of_pending hf]
      exact congrArg (_ :: ·) (ih _ _)
    · rw [judge_cons_of_not_pending hf, judge_cons_of_not_pending hf]
      exact congrArg (f :: ·) (ih b w)

/-- A consultation tries the enabled providers one after the other, up to the first verdict. -/
theorem consulted_consultation (e : TriageEngine σ ν) (useProviders : Bool) (f : Finding ν)
    (m : Moment σ ν) :
    ∃ attempts calls, Consulted f.id (e.requestFor f) m (e.chain useProviders)
      (e.consultation useProviders f m.budget m.world).decision attempts calls := by
  obtain ⟨calls, -, -, hconsulted⟩ := e.shows_consultation useProviders f m.budget m.world []
  rw [← e.consultation_recorded useProviders f m.budget (m.world, [])]
  exact ⟨_, calls, hconsulted⟩

/-- **Who classifies a finding**: the first enabled provider of the chain to give a verdict, when it
is tried after what triage has done about the findings before, or else the rules.  The finding holds
this classification, and its status and its severity are adjusted to it. -/
theorem getElem?_findings_triage (e : TriageEngine σ ν) (before after : List (Finding ν))
    {f : Finding ν} (hf : f.status = .pending) (w : σ) :
    ∃ decision attempts calls,
      Consulted f.id (e.requestFor f) ⟨(e.triage before w).budget, (e.triage before w).world⟩
        (e.chain e.config.aiEnabled) decision attempts calls ∧
      (e.triage (before ++ f :: after) w).findings[before.length]? =
        let d := decision.getD (classificationByRules e.rules f, none)
        some { adjust f d.2 with
          status := statusFor (adjust f d.2) d.1
          classification := some d.1 } := by
  obtain ⟨attempts, calls, hconsulted⟩ := e.consulted_consultation e.config.aiEnabled f
    ⟨(e.triage before w).budget, (e.triage before w).world⟩
  refine ⟨_, attempts, calls, hconsulted, ?_⟩
  have hlength : (e.triage before w).findings.length = before.length := e.length_judge _ before _ w
  have hfindings : (e.triage (before ++ f :: after) w).findings = (e.triage before w).findings ++
      (e.judge e.config.aiEnabled (f :: after) (e.triage before w).budget
        (e.triage before w).world).findings := findings_judge_append ..
  rw [hfindings, List.getElem?_append_right (Nat.le_of_eq hlength), hlength, Nat.sub_self,
    judge_cons_of_pending hf]
  rfl

end Triage

/-- **The precedence of providers.**  The chain of an engine is the stable sort by priority of the
handles that it was given, in the order in which they were added.  A pending finding is classified
by the first verdict along this chain, of a provider that is enabled, is called within its limits
and answers in a way that can be read, or else by the rules; it holds what they say, and only its
status and its severity are adjusted.  Engines that were given the same
handles of each priority in the same order, whatever the order between priorities, do the same to
all findings. -/
theorem precedence_of_assembled {e : TriageEngine σ ν} {hs : List (Handle σ ν)}
    (h : Assembled e hs) :
    IsStableSort hs e.providers ∧
    (∀ before f after w, f.status = .pending →
      ∃ decision attempts calls,
        Consulted f.id (e.requestFor f) ⟨(e.triage before w).budget, (e.triage before w).world⟩
          (e.chain e.config.aiEnabled) decision attempts calls ∧
        (e.triage (before ++ f :: after) w).findings[before.length]? =
          let d := decision.getD (classificationByRules e.rules f, none)
          some { adjust f d.2 with
            status := statusFor (adjust f d.2) d.1
            classification := some d.1 }) ∧
    ∀ e' hs', Assembled e' hs' → SameSettings e e' →
      (∀ p, ofPriority p hs' = ofPriority p hs) →
      ∀ l w, e'.triage l w = e.triage l w ∧ e'.triageByRules l w = e.triageByRules l w := by
  have hchains := h.chains
  refine ⟨hchains.sorted, fun before f after w hf => e.getElem?_findings_triage before after hf w,
    fun e' hs' h' hsettings hsame l w => ?_⟩
  have hproviders : e'.providers = e.providers := hchains.providers_eq h'.chains hsame
  have hrules : e'.rules = e.rules := by
    rw [hchains.rules, h'.chains.rules, hsettings]
    rfl
  have hbudget : e'.config.totalCostCeiling = e.config.totalCostCeiling := by rw [hsettings]
  have henabled : e'.config.aiEnabled = e.config.aiEnabled := by rw [hsettings]
  rw [triage, triage, triageByRules, triageByRules, triageWith, triageWith, triageWith, triageWith,
    henabled, hbudget]
  exact ⟨judge_congr hsettings hrules hproviders .., judge_congr hsettings hrules hproviders ..⟩

/-- A handle whose provider always answers so. -/
def answering (name content : String) (priority : UInt32) : Handle Unit ℚ where
  provider :=
    { name, model := "small", estimate := fun _ _ => 0
      classify := fun _ w => (.ok ⟨content, 1, name, "small", 1 / 8⟩, w) }
  priority := priority
  maxCostPerCall := 1

/-- How the sceptic answers. -/
def dismissal : String :=
  "\x7b\"verdict\": \"dismissed\", \"severity\": \"low\", \"confidence\": 0.75, " ++
    "\"rationale\": \"guarded\"\x7d"

/-- One who hesitates, and two who contradict each other. -/
def panel : List (Handle Unit ℚ) :=
  [answering "hesitant" "perhaps" 0, answering "sceptic" dismissal 1,
    answering "credulous" "a true positive" 1]

/-- The same, but the one who hesitates comes last. -/
def latePanel : List (Handle Unit ℚ) :=
  [answering "sceptic" dismissal 1, answering "credulous" "a true positive" 1,
    answering "hesitant" "perhaps" 0]

/-- A finding to be judged. -/
def rumour : Finding ℚ where
  id := "rumour-1"
  findingType := "leak"
  severity := .medium
  confidence := 1
  location := { file := "m.c", startLine := 10, endLine := 10 }
  description := "a leak"
  agents := OrderedSet.singleton "lint"
  status := .pending

/-- Wherever the one who hesitates was added, the first of the others classifies. -/
theorem precedence_of_assembled_panel :
    let e := (of .standard).addProviders panel
    let late := (of .standard).addProviders latePanel
    Assembled e panel ∧ Assembled late latePanel ∧ IsStableSort latePanel late.providers ∧
      (∃ decision attempts calls, Consulted rumour.id (e.requestFor rumour)
          ⟨(e.triage [] ()).budget, (e.triage [] ()).world⟩ (e.chain true) decision attempts calls ∧
        (e.triage [rumour] ()).findings[0]? =
          let d := decision.getD (classificationByRules e.rules rumour, none)
          some { adjust rumour d.2 with
            status := statusFor (adjust rumour d.2) d.1
            classification := some d.1 }) ∧
      late.triage [rumour] () = e.triage [rumour] () ∧
      (e.triage [rumour] ()).findings =
        [{ rumour with
            adjustedSeverity := some .low
            status := .falsePositive
            classification := some
              { truePositive := false, provider := "sceptic", model := some "small"
                confidence := 3 / 4, rationale := "guarded", cost := 1 / 8 } }] ∧
      (e.triage [rumour] ()).byProviders = 1 := by
  intro e late
  have he : Assembled e panel :=
    (((Assembled.of .standard).addProvider _).addProvider _).addProvider _
  have hlate : Assembled late latePanel :=
    (((Assembled.of .standard).addProvider _).addProvider _).addProvider _
  have hsame (p : UInt32) : ofPriority p latePanel = ofPriority p panel := by
    by_cases hp : p = 0
    · subst hp
      rfl
    · simp [ofPriority, panel, latePanel, answering, List.filter_cons, Ne.symm hp]
  obtain ⟨-, hfirst, hany⟩ := precedence_of_assembled he
  exact ⟨he, hlate, (precedence_of_assembled hlate).1, hfirst [] rumour [] () rfl,
    (hany late latePanel hlate rfl hsame [rumour] ()).1, by decide +kernel, by decide +kernel⟩

end TriageEngine

end Vigil
