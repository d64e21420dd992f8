import Mathlib.Data.List.Sort
import Vigil.Proofs.Agent.Registry

/-!
# Selecting agents

The criteria of a run become a filter, the registry gives what passes it, the available agents are
parted from the others, and only then the former are cut.  Here what comes out is said without any
of these steps.

* `SelectionCriteria.Permits` -- what the criteria of a run ask of an agent for a target;
* `Registry.Lists` -- a list shows just the descriptors of a registry that meet a condition, in
  strictly ascending order;
* `Registry.Lists.sublist` -- so whoever asks for less finds the same agents, in the same order, and
  perhaps others between them;
* `SelectionCriteria.Loosened` -- criteria that ask for less;
* `Registry.select_of_arises` -- **the main result**: the selected agents are the first ones of
  those that are permitted and available, and the unavailable ones are all shown.
-/

namespace Vigil

/-! ## Permitted agents -/

/-- A class of speed is no slower than the slowest that fits into some seconds. -/
theorem SpeedClass.rank_le_ceilingFor_iff {x : SpeedClass} {s : Nat} :
    x.rank ≤ (ceilingFor (s * 1000000000)).rank ↔ (s < 10 → x = .fast) ∧ (s < 600 → x ≠ .slow) := by
  have hten : s * 1000000000 < 10000000000 ↔ s < 10 := by omega
  have hminutes : s * 1000000000 < 600000000000 ↔ s < 600 := by omega
  simp only [ceilingFor, hten, hminutes]
  split
  · cases x <;> simp [rank, *]
  · split <;> cases x <;> simp [rank, *]

namespace SelectionCriteria

/-- What the criteria of a run ask of an agent for a target. -/
structure Permits (c : SelectionCriteria) (t : AnalysisTarget) (d : AgentDescriptor) : Prop where
  /-- The agent reads the language that the criteria name or else the target is in, if there is
  one. -/
  language : ∀ l, (c.language <|> t.inferLanguage?) = some l →
    d.languages = [] ∨ ∃ k ∈ d.languages, Text.eqPlainCase k l = true
  /-- It has one of the capabilities, if any are asked for. -/
  capability : c.capabilities ≠ [] → ∃ k ∈ c.capabilities, k ∈ d.capabilities
  cost : ∀ most, c.maxCost = some most → d.cost.rank ≤ most.rank
  /-- It is fast if there are less than ten seconds, and not slow if there are less than ten
  minutes. -/
  speed : ∀ s, c.timeBudgetSecs = some s →
    (s.toNat < 10 → d.speed = .fast) ∧ (s.toNat < 600 → d.speed ≠ .slow)

/-- The agents that pass the filter are those that are permitted. -/
theorem accepts_filterFor_iff (c : SelectionCriteria) (t : AnalysisTarget) (d : AgentDescriptor) :
    (c.filterFor t).accepts d = true ↔ c.Permits t d := by
  have hlanguage : (c.filterFor t).language.all d.supportsLanguage = true ↔
      ∀ l, (c.language <|> t.inferLanguage?) = some l →
        d.languages = [] ∨ ∃ k ∈ d.languages, Text.eqPlainCase k l = true := by
    simp [filterFor, Option.all_eq_true, AgentDescriptor.supportsLanguage]
  have hcapability :
      (c.capabilities.isEmpty || c.capabilities.any d.capabilities.contains) = true ↔
        (c.capabilities ≠ [] → ∃ k ∈ c.capabilities, k ∈ d.capabilities) := by
    simp [OrderedSet.contains, ← OrderedSet.mem_toList, or_iff_not_imp_left]
  have hcost : c.maxCost.all (fun most => decide (d.cost.rank ≤ most.rank)) = true ↔
      ∀ most, c.maxCost = some most → d.cost.rank ≤ most.rank := by
    simp [Option.all_eq_true]
  have hspeed :
      (c.filterFor t).maxSpeed.all (fun most => decide (d.speed.rank ≤ most.rank)) = true ↔
        ∀ s, c.timeBudgetSecs = some s →
          (s.toNat < 10 → d.speed = .fast) ∧ (s.toNat < 600 → d.speed ≠ .slow) := by
    simp [filterFor, Option.all_eq_true, SpeedClass.rank_le_ceilingFor_iff]
  simp only [AgentFilter.accepts, Bool.and_eq_true, hlanguage, hspeed]
  constructor
  · rintro ⟨⟨⟨⟨-, hl⟩, hk⟩, hc⟩, hs⟩
    exact ⟨hl, hcapability.1 hk, hcost.1 hc, hs⟩
  · rintro ⟨hl, hk, hc, hs⟩
    exact ⟨⟨⟨⟨rfl, hl⟩, hcapability.2 hk⟩, hcost.2 hc⟩, hs⟩

/-- The second criteria name the same language, but ask for less: each ceiling of theirs is one of
the first criteria that has been raised, and of the capabilities, of which one is enough, more are
named, if any were. -/
structure Loosened (c c' : SelectionCriteria) : Prop where
  language : c'.language = c.language
  capabilities : c.capabilities ⊆ c'.capabilities
  unrestricted : c.capabilities = [] → c'.capabilities = []
  cost : ∀ most', c'.maxCost = some most' → ∃ most, c.maxCost = some most ∧ most.rank ≤ most'.rank
  time : ∀ s', c'.timeBudgetSecs = some s' → ∃ s, c.timeBudgetSecs = some s ∧ s ≤ s'

/-- **Who is permitted stays permitted** by criteria that ask for less. -/
theorem Loosened.permits {c c' : SelectionCriteria} (h : c.Loosened c') {t : AnalysisTarget}
    {d : AgentDescriptor} (hd : c.Permits t d) : c'.Permits t d where
  language l hl := hd.language l (h.language ▸ hl)
  capability hnamed := by
    obtain ⟨k, hk, hmem⟩ := hd.capability fun hnone => hnamed (h.unrestricted hnone)
    exact ⟨k, h.capabilities hk, hmem⟩
  cost most' hmost' := by
    obtain ⟨most, hmost, hle⟩ := h.cost most' hmost'
    exact Nat.le_trans (hd.cost most hmost) hle
  speed s' hs' := by
    obtain ⟨s, hs, hle⟩ := h.time s' hs'
    obtain ⟨hfast, hslow⟩ := hd.speed s hs
    have hless : s.toNat ≤ s'.toNat := UInt64.le_iff_toNat_le.1 hle
    exact ⟨fun hten => hfast (hless.trans_lt hten), fun hminutes => hslow (hless.trans_lt hminutes)⟩

/-- How many of some agents a run takes. -/
def limit (c : SelectionCriteria) (n : Nat) : Nat :=
  match c.maxAgents with
  | none => n
  | some most => min most.toNat n

end SelectionCriteria

/-! ## Lists of agents -/

instance : Std.Asymm AgentDescriptor.Before := ⟨fun _ _ => AgentDescriptor.Before.not_before⟩

namespace Registry

variable {α : Type} {r : Registry α}

/-- A list shows just the descriptors of a registry that meet a condition, in strictly ascending
order. -/
structure Lists (r : Registry α) (p : AgentDescriptor → Prop) (l : List AgentDescriptor) :
    Prop where
  mem_iff : ∀ d, d ∈ l ↔ (∃ n, r.get? n = some d) ∧ p d
  ascending : l.Pairwise AgentDescriptor.Before

/-- **A weaker condition takes no agent away** and changes no two agents' order. -/
theorem Lists.sublist {p q : AgentDescriptor → Prop} {l l' : List AgentDescriptor}
    (h : r.Lists p l) (h' : r.Lists q l') (hpq : ∀ d, p d → q d) : l.Sublist l' := by
  have hsubset : l ⊆ l' := fun d hd =>
    (h'.mem_iff d).2 (((h.mem_iff d).1 hd).imp_right (hpq d))
  exact List.sublist_of_subperm_of_pairwise (List.subperm_of_subset h.ascending.nodup hsubset)
    h.ascending h'.ascending

/-- What the criteria permit, less what does not meet a further condition. -/
theorem IsKeyed.lists_filter (h : r.IsKeyed) (t : AnalysisTarget) (c : SelectionCriteria)
    (p : AgentDescriptor → Bool) :
    r.Lists (fun d => p d = true ∧ c.Permits t d) ((r.filter (c.filterFor t)).filter p) where
  mem_iff d := by
    rw [List.mem_filter, h.mem_filter_iff, c.accepts_filterFor_iff, and_assoc,
      and_comm (b := p d = true)]
  ascending := (h.pairwise_filter _).filter _

theorem agents_select (r : Registry α) (t : AnalysisTarget) (c : SelectionCriteria) :
    (r.select t c).agents =
      ((r.filter (c.filterFor t)).filter (·.available)).take
        (c.limit ((r.filter (c.filterFor t)).filter (·.available)).length) := by
  cases hmost : c.maxAgents with
  | none => simp only [select, SelectionCriteria.limit, hmost, List.take_length]
  | some most =>
    simp only [select, SelectionCriteria.limit, hmost]
    exact List.take_eq_take_min

/-- **Selection gives the best of the permitted agents.**  The selected agents are the first of all
that are available and permitted, as many as the criteria allow; the unavailable ones that are
permitted are shown, all of them; and if no number is set, then criteria that ask for less take no
agent away from either list. -/
theorem select_of_arises {names : List String} (h : Arises names r) (t : AnalysisTarget)
    (c : SelectionCriteria) :
    (∃ all, r.Lists (fun d => d.available = true ∧ c.Permits t d) all ∧
      (r.select t c).agents = all.take (c.limit all.length)) ∧
    r.Lists (fun d => d.available = false ∧ c.Permits t d) (r.select t c).unavailable ∧
    ∀ c', c.Loosened c' → c.maxAgents = none → c'.maxAgents = none →
      (r.select t c).agents.Sublist (r.select t c').agents ∧
        (r.select t c).unavailable.Sublist (r.select t c').unavailable := by
  have hkeyed : r.IsKeyed := isKeyed_of_arises h
  have havailable (c : SelectionCriteria) := hkeyed.lists_filter t c (·.available)
  have hunavailable (c : SelectionCriteria) :
      r.Lists (fun d => d.available = false ∧ c.Permits t d) (r.select t c).unavailable := by
    have hlists := hkeyed.lists_filter t c (!·.available)
    simp only [Bool.not_eq_true'] at hlists
    exact hlists
  refine ⟨⟨_, havailable c, r.agents_select t c⟩, hunavailable c, fun c' hloose hc hc' => ⟨?_, ?_⟩⟩
  · have hall {c : SelectionCriteria} (hc : c.maxAgents = none) :
        (r.select t c).agents = (r.filter (c.filterFor t)).filter (·.available) := by
      rw [select, hc]
    rw [hall hc, hall hc']
    exact (havailable c).sublist (havailable c') fun d hd => hd.imp_right hloose.permits
  · exact (hunavailable c).sublist (hunavailable c') fun d hd => hd.imp_right hloose.permits

/-- Agents for one language: fast ones, one that costs money, and a slow one. -/
def profile (name : String) : AgentDescriptor :=
  if name = "audit" then { name, cost := .paid, languages := ["c"] }
  else if name = "fuzz" then { name, speed := .slow, languages := ["c"] }
  else { name, speed := .fast, languages := ["c"] }

/-- Four of them, one of which is not installed. -/
def crew : Registry String :=
  let r := (({} : Registry String).registerAgent profile "grep").registerAgent profile "lint"
  let r := (r.registerAgent profile "audit").registerAgent profile "fuzz"
  (r.discover profile (· != "grep")).1

/-- Five seconds, at any cost. -/
def hurried : SelectionCriteria := { timeBudgetSecs := some 5 }

/-- A minute, and no money. -/
def thrifty : SelectionCriteria := { maxCost := some .free, timeBudgetSecs := some 60 }

/-- Ten minutes, at any cost. -/
def generous : SelectionCriteria := { timeBudgetSecs := some 600 }

/-- Ten minutes, at any cost, but for two agents only. -/
def generousToTwo : SelectionCriteria := { timeBudgetSecs := some 600, maxAgents := some 2 }

theorem select_of_arises_crew :
    let t : AnalysisTarget := { path := "m.c" }
    Arises ["fuzz", "audit", "lint", "grep"] crew ∧ thrifty.Loosened generous ∧
      (crew.select t thrifty).agents.Sublist (crew.select t generous).agents ∧
      (∃ all, crew.Lists (fun d => d.available = true ∧ generousToTwo.Permits t d) all ∧
        (crew.select t generousToTwo).agents = all.take (min 2 all.length)) ∧
      (crew.select t generousToTwo).agents.map (·.name) = ["lint", "audit"] ∧
      (∃ all, crew.Lists (fun d => d.available = true ∧ hurried.Permits t d) all ∧
        (crew.select t hurried).agents = all.take all.length) ∧
      (crew.select t hurried).agents.map (·.name) = ["lint"] := by
  intro t
  have hscripts := (Arises.empty : Arises [] ({} : Registry String)).registerAgent profile "grep"
  have hall := ((hscripts.registerAgent profile "lint").registerAgent profile "audit").registerAgent
    profile "fuzz"
  have h : Arises ["fuzz", "audit", "lint", "grep"] crew := hall.discover profile (· != "grep")
  have hloose : thrifty.Loosened generous := {
    language := rfl
    capabilities := List.Subset.refl _
    unrestricted := fun _ => rfl
    cost := fun _ hmost => by cases hmost
    time := fun _ hs => ⟨60, rfl, by obtain rfl := Option.some.inj hs; decide⟩ }
  have hmono := (select_of_arises h t thrifty).2.2 generous hloose rfl rfl
  have hfilter : crew.filter (generousToTwo.filterFor t) =
      (crew.entries.map (·.2.descriptor)).filter (generousToTwo.filterFor t).accepts :=
    List.mergeSort_of_pairwise (by decide +kernel)
  have hnames : (crew.select t generousToTwo).agents.map (·.name) = ["lint", "audit"] := by
    rw [select, hfilter]
    decide +kernel
  have hfew : crew.filter (hurried.filterFor t) =
      (crew.entries.map (·.2.descriptor)).filter (hurried.filterFor t).accepts :=
    List.mergeSort_of_pairwise (by decide +kernel)
  have hone : (crew.select t hurried).agents.map (·.name) = ["lint"] := by
    rw [select, hfew]
    decide +kernel
  exact ⟨h, hloose, hmono.1, (select_of_arises h t generousToTwo).1, hnames,
    (select_of_arises h t hurried).1, hone⟩

end Registry

end Vigil
