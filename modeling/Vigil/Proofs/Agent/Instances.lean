import Mathlib.Algebra.Ring.Nat
import Vigil.Proofs.Agent.Registry

/-!
# Which agent is used

A discovery builds an agent for every entry and keeps it; a registration forgets what was kept.
So which agent is used under a name, and whether a factory runs for it, depends on what has been
called in what order.

* `Leads` -- a registry comes about by registrations, discoveries and uses, which are logged;
* `probeAll_eq_mapIdx`, `built_discover` -- a discovery runs each factory once, in the order of the
  table;
* `tracks_of_leads` -- what is kept in the table follows from the log;
* `instances_of_leads` -- **the main result**: which agent is used, and how many have been built.
-/

namespace Vigil.Registry

variable {α : Type}

/-! ## Calls -/

/-- A call that builds agents or says how. -/
inductive Call (α : Type) where
  | register (descriptor : AgentDescriptor) (factory : Nat → α)
  | discover (describe : α → AgentDescriptor) (isAvailable : α → Bool)
  | instantiate (name : String)

namespace Call

/-- Does it probe the agents? -/
def isDiscovery : Call α → Bool
  | discover .. => true
  | register .. | instantiate _ => false

/-- The factory that it registers under a name. -/
def factory? (name : String) : Call α → Option (Nat → α)
  | register d factory => if d.name = name then some factory else none
  | discover .. | instantiate _ => none

end Call

/-- The registry after a call. -/
def after (r : Registry α) : Call α → Registry α
  | .register d factory => r.register d factory
  | .discover describe isAvailable => (r.discover describe isAvailable).1
  | .instantiate name => (r.instantiate name).2

/-- The calls made so far, each with the registry on which it was made, the newest first. -/
abbrev CallLog (α : Type) := List (Registry α × Call α)

/-- The registry arises from an empty one by the calls of the log.  The table may be found in
another order at any time. -/
inductive Leads : CallLog α → Registry α → Prop
  | start : Leads [] {}
  | call {log : CallLog α} {r : Registry α} (h : Leads log r) (c : Call α) :
    Leads ((r, c) :: log) (r.after c)
  | reorder {log : CallLog α} {r : Registry α} (h : Leads log r)
    {entries : List (String × RegistryEntry α)} (hperm : entries.Perm r.entries) :
    Leads log { r with entries }

namespace CallLog

/-- The factory last registered under a name. -/
def newest? (log : CallLog α) (name : String) : Option (Nat → α) :=
  log.findSome? fun p => p.2.factory? name

/-- Has the name been registered after the last discovery? -/
def isFresh (log : CallLog α) (name : String) : Bool :=
  (log.takeWhile fun p => !p.2.isDiscovery).any fun p => (p.2.factory? name).isSome

/-- The last discovery was this one, it found an entry of this name, and the name has not been
registered since. -/
def Keeps (log : CallLog α) (name : String) (r : Registry α) (describe : α → AgentDescriptor)
    (isAvailable : α → Bool) : Prop :=
  ∃ later earlier, log = later ++ (r, .discover describe isAvailable) :: earlier ∧
    (newest? earlier name).isSome ∧
    ∀ p ∈ later, p.2.isDiscovery = false ∧ p.2.factory? name = none

/-- The sizes of the registries that were discovered. -/
def discoveredSizes (log : CallLog α) : List Nat :=
  log.filterMap fun p => if p.2.isDiscovery then some p.1.size else none

/-- The number of uses of entries that had been registered after the last discovery. -/
def freshUses : CallLog α → Nat
  | [] => 0
  | (_, .instantiate name) :: log => (if isFresh log name then 1 else 0) + freshUses log
  | (_, .register ..) :: log | (_, .discover ..) :: log => freshUses log

end CallLog

/-- A discovery has built this agent for the entry of a name and probed it: what the registry says
under the name from then on is what this agent has answered. -/
structure Probes (r : Registry α) (describe : α → AgentDescriptor) (isAvailable : α → Bool)
    (name : String) (i : Instance α) : Prop where
  entry : ∃ (place : Nat) (e : RegistryEntry α), r.entries[place]? = some (name, e) ∧
    i = ⟨e.factory (r.built.length + place), r.built.length + place⟩
  built : (r.discover describe isAvailable).1.built[i.serial]? = some i.agent
  answers : (r.discover describe isAvailable).1.get? name =
    some { describe i.agent with name := name, available := isAvailable i.agent }

/-! ## A discovery -/

section Discovery

variable (describe : α → AgentDescriptor) (isAvailable : α → Bool)

theorem probeAll_eq_mapIdx (serial : Nat) (l : List (String × RegistryEntry α)) :
    probeAll describe isAvailable serial l =
      l.mapIdx fun k p => (p.1, probeEntry describe isAvailable (serial + k) p.1 p.2) := by
  induction l generalizing serial with
  | nil => rfl
  | cons p l ih =>
    rw [probeAll, ih, List.mapIdx_cons]
    simp only [Nat.add_zero, Nat.add_assoc, Nat.add_comm 1]

theorem agents_probeAll (serial : Nat) (l : List (String × RegistryEntry α)) :
    (probeAll describe isAvailable serial l).filterMap (fun e => e.2.instance?.map (·.agent)) =
      l.mapIdx fun k p => p.2.factory (serial + k) := by
  induction l generalizing serial with
  | nil => rfl
  | cons p l ih =>
    have htail := ih (serial + 1)
    simp only [Nat.add_assoc, Nat.add_comm 1] at htail
    rw [probeAll, List.mapIdx_cons]
    exact congrArg (p.2.factory serial :: ·) htail

/-- **A discovery runs each factory once**, in the order of the table. -/
theorem built_discover (r : Registry α) :
    (r.discover describe isAvailable).1.built =
      r.built ++ r.entries.mapIdx fun k p => p.2.factory (r.built.length + k) :=
  congrArg (r.built ++ ·) (agents_probeAll describe isAvailable r.built.length r.entries)

theorem length_built_discover (r : Registry α) :
    (r.discover describe isAvailable).1.built.length = r.built.length + r.size := by
  rw [built_discover, List.length_append, List.length_mapIdx, size]

variable {describe isAvailable} {r : Registry α} {name : String}

/-- What a discovery makes of the entry at a place. -/
theorem IsKeyed.find?_discover (h : r.IsKeyed) {place : Nat} {e : RegistryEntry α}
    (he : r.entries[place]? = some (name, e)) :
    find? name (r.discover describe isAvailable).1.entries =
      some (probeEntry describe isAvailable (r.built.length + place) name e) := by
  refine (find?_eq_some_iff (h.discover describe isAvailable).nodup).2 ?_
  have hprobed : (r.discover describe isAvailable).1.entries[place]? =
      some (name, probeEntry describe isAvailable (r.built.length + place) name e) := by
    show (probeAll describe isAvailable r.built.length r.entries)[place]? = _
    rw [probeAll_eq_mapIdx, List.getElem?_mapIdx, he]
    rfl
  exact List.mem_of_getElem? hprobed

/-- **The agent that a discovery keeps for an entry is the one that it has probed.** -/
theorem IsKeyed.probes_discover (h : r.IsKeyed) {e : RegistryEntry α}
    (he : find? name r.entries = some e) :
    ∃ e' i, find? name (r.discover describe isAvailable).1.entries = some e' ∧
      e'.factory = e.factory ∧ e'.instance? = some i ∧
      Probes r describe isAvailable name i := by
  obtain ⟨place, hplace⟩ := List.mem_iff_getElem?.1 ((find?_eq_some_iff h.nodup).1 he)
  have hfind : find? name (r.discover describe isAvailable).1.entries = some _ :=
    h.find?_discover hplace
  refine ⟨_, _, hfind, rfl, rfl, ⟨place, e, hplace, rfl⟩, ?_, ?_⟩
  · rw [built_discover, List.getElem?_append_right (Nat.le_add_right ..), Nat.add_sub_cancel_left,
      List.getElem?_mapIdx, hplace]
    rfl
  · rw [get?, hfind]
    rfl

end Discovery

/-! ## What is kept -/

open CallLog

section Step

variable {log : CallLog α} {r r₁ : Registry α} {c : Call α} {name : String}
  {describe : α → AgentDescriptor} {isAvailable : α → Bool}

theorem newest?_cons (p : Registry α × Call α) (log : CallLog α) :
    newest? (p :: log) name = (p.2.factory? name).or (newest? log name) := by
  rw [newest?, List.findSome?_cons]
  cases p.2.factory? name <;> rfl

theorem isFresh_cons (p : Registry α × Call α) (log : CallLog α) :
    isFresh (p :: log) name =
      (!p.2.isDiscovery && ((p.2.factory? name).isSome || isFresh log name)) := by
  rw [isFresh, List.takeWhile_cons]
  cases p.2.isDiscovery <;> rfl

/-- What keeps the agent of a name: a discovery that finds the name, or a call that neither is one
nor registers the name, if the agent has been kept before it. -/
theorem keeps_cons_iff : Keeps ((r, c) :: log) name r₁ describe isAvailable ↔
    (c = .discover describe isAvailable ∧ r₁ = r ∧ (newest? log name).isSome) ∨
      c.isDiscovery = false ∧ c.factory? name = none ∧
        Keeps log name r₁ describe isAvailable := by
  constructor
  · rintro ⟨_ | ⟨p, later⟩, earlier, heq, hname, hlater⟩
    · obtain ⟨hp, rfl⟩ := List.cons.inj heq
      obtain ⟨rfl, rfl⟩ := Prod.mk.inj hp
      exact .inl ⟨rfl, rfl, hname⟩
    · obtain ⟨rfl, rfl⟩ := List.cons.inj heq
      obtain ⟨⟨hc, hfactory⟩, hlater⟩ := List.forall_mem_cons.1 hlater
      exact .inr ⟨hc, hfactory, later, earlier, rfl, hname, hlater⟩
  · rintro (⟨rfl, rfl, hname⟩ | ⟨hc, hfactory, later, earlier, rfl, hname, hlater⟩)
    · exact ⟨[], log, rfl, hname, fun _ hp => absurd hp List.not_mem_nil⟩
    · exact ⟨(r, c) :: later, earlier, rfl, hname, List.forall_mem_cons.2 ⟨⟨hc, hfactory⟩, hlater⟩⟩

end Step

/-- The log says of each name which factory is registered, whether an agent is kept and which, and
how many agents have been built. -/
structure Tracks (log : CallLog α) (r : Registry α) : Prop where
  keyed : r.IsKeyed
  newest : ∀ name, (find? name r.entries).map (·.factory) = newest? log name
  fresh : ∀ name, (find? name r.entries).any (·.instance?.isNone) = isFresh log name
  kept : ∀ name r₁ describe isAvailable, Keeps log name r₁ describe isAvailable →
    ∃ e i, find? name r.entries = some e ∧ e.instance? = some i ∧
      Probes r₁ describe isAvailable name i
  length_built : r.built.length = (discoveredSizes log).sum + freshUses log

section Step

variable {log : CallLog α} {r : Registry α}

theorem isSome_find?_iff {name : String} {l : List (String × RegistryEntry α)} :
    (find? name l).isSome ↔ name ∈ l.map (·.1) := by
  induction l with
  | nil => simp [find?]
  | cons p l ih =>
    obtain ⟨n, e⟩ := p
    rw [find?, List.map_cons, List.mem_cons]
    by_cases hn : n = name
    · simp [hn]
    · rw [if_neg hn, ih, or_iff_right (Ne.symm hn)]

theorem find?_discover_eq_none {name : String} (h : find? name r.entries = none)
    (describe : α → AgentDescriptor) (isAvailable : α → Bool) :
    find? name (r.discover describe isAvailable).1.entries = none := by
  have hkeys : (r.discover describe isAvailable).1.entries.map (·.1) = r.entries.map (·.1) :=
    map_fst_probeAll describe isAvailable _ _
  rw [← Option.not_isSome_iff_eq_none, isSome_find?_iff] at h ⊢
  rwa [hkeys]

theorem length_built_instantiate (r : Registry α) (name : String) :
    (r.instantiate name).2.built.length = r.built.length +
      if (find? name r.entries).any (·.instance?.isNone) then 1 else 0 := by
  rw [instantiate]
  cases find? name r.entries with
  | none => rfl
  | some e =>
    dsimp only
    cases he : e.instance? with
    | some i => simp [he]
    | none => simp [he]

theorem tracks_start : Tracks [] ({} : Registry α) where
  keyed := ⟨List.nodup_nil, fun _ hp => by cases hp⟩
  newest _ := rfl
  fresh _ := rfl
  kept := by
    rintro name r₁ describe isAvailable ⟨later, earlier, heq, -⟩
    exact absurd heq (by simp)
  length_built := rfl

/-- A registration sets the factory of its name and forgets the agent that was kept. -/
theorem Tracks.register (h : Tracks log r) (d : AgentDescriptor) (factory : Nat → α) :
    Tracks ((r, .register d factory) :: log) (r.register d factory) where
  keyed := h.keyed.register d factory
  newest name := by
    rw [newest?_cons, Call.factory?, Registry.register]
    by_cases hname : d.name = name
    · rw [hname, find?_set_self, if_pos rfl]
      rfl
    · rw [find?_set_of_ne (Ne.symm hname), if_neg hname, h.newest name]
      rfl
  fresh name := by
    rw [isFresh_cons, Call.factory?, Registry.register]
    by_cases hname : d.name = name
    · rw [hname, find?_set_self, if_pos rfl]
      rfl
    · rw [find?_set_of_ne (Ne.symm hname), if_neg hname, h.fresh name]
      rfl
  kept name r₁ describe isAvailable hkeeps := by
    rcases keeps_cons_iff.1 hkeeps with ⟨hc, -⟩ | ⟨-, hname, hkeeps⟩
    · cases hc
    · have hne : name ≠ d.name := by
        rintro rfl
        rw [Call.factory?, if_pos rfl] at hname
        cases hname
      rw [Registry.register, find?_set_of_ne hne]
      exact h.kept name r₁ describe isAvailable hkeeps
  length_built := h.length_built

/-- A discovery keeps a new agent for every entry. -/
theorem Tracks.discover (h : Tracks log r) (describe : α → AgentDescriptor)
    (isAvailable : α → Bool) :
    Tracks ((r, .discover describe isAvailable) :: log) (r.discover describe isAvailable).1 where
  keyed := h.keyed.discover describe isAvailable
  newest name := by
    refine Eq.trans ?_ (h.newest name)
    cases he : find? name r.entries with
    | some e =>
      obtain ⟨e', i, hfind, hfactory, -⟩ := h.keyed.probes_discover he
      rw [hfind, Option.map_some, Option.map_some, hfactory]
    | none => rw [find?_discover_eq_none he describe isAvailable]
  fresh name := by
    rw [isFresh_cons]
    cases he : find? name r.entries with
    | some e =>
      obtain ⟨e', i, hfind, -, hkept, -⟩ := h.keyed.probes_discover he
      rw [hfind, Option.any_some, hkept]
      rfl
    | none =>
      rw [find?_discover_eq_none he describe isAvailable]
      rfl
  kept name r₁ describe' isAvailable' hkeeps := by
    rcases keeps_cons_iff.1 hkeeps with ⟨hc, rfl, hname⟩ | ⟨hc, -⟩
    · cases hc
      rw [← h.newest name, Option.isSome_map] at hname
      obtain ⟨e, he⟩ := Option.isSome_iff_exists.1 hname
      obtain ⟨e', i, hfind, -, hkept, hprobes⟩ := h.keyed.probes_discover he
      exact ⟨e', i, hfind, hkept, hprobes⟩
    · cases hc
  length_built := by
    have hsizes : discoveredSizes ((r, .discover describe isAvailable) :: log) =
        r.size :: discoveredSizes log := rfl
    rw [length_built_discover, h.length_built, freshUses, hsizes, List.sum_cons]
    omega

/-- A use leaves the table as it is. -/
theorem Tracks.instantiate (h : Tracks log r) (name : String) :
    Tracks ((r, .instantiate name) :: log) (r.instantiate name).2 where
  keyed := h.keyed.of_perm (List.Perm.of_eq (entries_instantiate r name))
  newest n := by
    rw [entries_instantiate, h.newest n, newest?_cons]
    rfl
  fresh n := by
    rw [entries_instantiate, h.fresh n, isFresh_cons]
    rfl
  kept n r₁ describe isAvailable hkeeps := by
    rw [entries_instantiate]
    rcases keeps_cons_iff.1 hkeeps with ⟨hc, -⟩ | ⟨-, -, hkeeps⟩
    · cases hc
    · exact h.kept n r₁ describe isAvailable hkeeps
  length_built := by
    have hsizes : discoveredSizes ((r, .instantiate name) :: log) = discoveredSizes log := rfl
    rw [length_built_instantiate, h.fresh name, h.length_built, freshUses, hsizes]
    omega

/-- The order of the table does not matter. -/
theorem Tracks.of_perm (h : Tracks log r) {entries : List (String × RegistryEntry α)}
    (hperm : entries.Perm r.entries) : Tracks log { r with entries } where
  keyed := h.keyed.of_perm hperm
  newest name := by rw [find?_eq_of_perm h.keyed.nodup hperm, h.newest name]
  fresh name := by rw [find?_eq_of_perm h.keyed.nodup hperm, h.fresh name]
  kept name r₁ describe isAvailable hkeeps := by
    rw [find?_eq_of_perm h.keyed.nodup hperm]
    exact h.kept name r₁ describe isAvailable hkeeps
  length_built := h.length_built

/-- **What is kept in the table follows from the log.** -/
theorem tracks_of_leads (h : Leads log r) : Tracks log r := by
  induction h with
  | start => exact tracks_start
  | call _ c ih =>
    cases c with
    | register d factory => exact ih.register d factory
    | discover describe isAvailable => exact ih.discover describe isAvailable
    | instantiate name => exact ih.instantiate name
  | reorder _ hperm ih => exact ih.of_perm hperm

end Step

/-! ## Which agent is used -/

section

variable {log : CallLog α} {r : Registry α} {name : String}

/-- A known name that has not been registered since a discovery was there at the last one. -/
theorem exists_keeps (hname : (newest? log name).isSome) (hfresh : isFresh log name = false) :
    ∃ r₁ describe isAvailable, Keeps log name r₁ describe isAvailable := by
  induction log with
  | nil => cases hname
  | cons p log ih =>
    obtain ⟨r₁, c⟩ := p
    rw [newest?_cons] at hname
    rw [isFresh_cons] at hfresh
    have earlier (hc : c.isDiscovery = false) (hfactory : c.factory? name = none) :
        ∃ r₁' describe isAvailable, Keeps ((r₁, c) :: log) name r₁' describe isAvailable := by
      dsimp only at hname hfresh
      rw [hfactory, Option.none_or] at hname
      rw [hc, hfactory] at hfresh
      obtain ⟨r₁', describe, isAvailable, hkeeps⟩ := ih hname hfresh
      exact ⟨r₁', describe, isAvailable, keeps_cons_iff.2 (.inr ⟨hc, hfactory, hkeeps⟩)⟩
    cases c with
    | register d factory =>
      refine earlier rfl ?_
      by_cases hd : d.name = name
      · rw [Call.factory?, if_pos hd] at hfresh
        cases hfresh
      · exact if_neg hd
    | discover describe isAvailable =>
      exact ⟨r₁, describe, isAvailable, keeps_cons_iff.2 (.inl ⟨rfl, rfl, hname⟩)⟩
    | instantiate n => exact earlier rfl rfl

theorem instantiate_of_instance?_eq_some {e : RegistryEntry α} {i : Instance α}
    (he : find? name r.entries = some e) (hi : e.instance? = some i) :
    r.instantiate name = (some i, r) := by
  simp only [instantiate, he, hi]

theorem instantiate_of_instance?_eq_none {e : RegistryEntry α}
    (he : find? name r.entries = some e) (hi : e.instance? = none) :
    r.instantiate name = (some ⟨e.factory r.built.length, r.built.length⟩,
      { r with built := r.built ++ [e.factory r.built.length] }) := by
  simp only [instantiate, he, hi]

end

/-- **Which agent is used under a name, and which factories have run.**

If the last discovery found the name and the name has not been registered since, the agent that this
discovery has probed is used, and no factory runs.  Otherwise the factory last registered under the
name runs once, and under an unknown name nothing is used.  A discovery runs the factory of every
entry once.  So the agents that have been built are as many as the entries at all discoveries, and
the uses of names that had been registered after the last one. -/
theorem instances_of_leads {log : CallLog α} {r : Registry α} (h : Leads log r) :
    (∀ name r₁ describe isAvailable, log.Keeps name r₁ describe isAvailable →
      ∃ i, Probes r₁ describe isAvailable name i ∧ r.instantiate name = (some i, r)) ∧
    (∀ name factory, log.newest? name = some factory →
      (¬∃ r₁ describe isAvailable, log.Keeps name r₁ describe isAvailable) →
      r.instantiate name = (some ⟨factory r.built.length, r.built.length⟩,
        { r with built := r.built ++ [factory r.built.length] })) ∧
    (∀ name, log.newest? name = none → r.instantiate name = (none, r)) ∧
    (∀ describe isAvailable, (r.discover describe isAvailable).1.built =
      r.built ++ r.entries.mapIdx fun k p => p.2.factory (r.built.length + k)) ∧
    r.built.length = log.discoveredSizes.sum + log.freshUses := by
  have htracks : Tracks log r := tracks_of_leads h
  refine ⟨fun name r₁ describe isAvailable hkeeps => ?_, fun name factory hname hkeeps => ?_,
    fun name hname => ?_, fun describe isAvailable => built_discover describe isAvailable r,
    htracks.length_built⟩
  · obtain ⟨e, i, he, hi, hprobes⟩ := htracks.kept name r₁ describe isAvailable hkeeps
    exact ⟨i, hprobes, instantiate_of_instance?_eq_some he hi⟩
  · have hfresh : log.isFresh name = true := by
      rw [← Bool.not_eq_false]
      exact fun hfresh => hkeeps (exists_keeps (hname ▸ rfl) hfresh)
    have hfactory := htracks.newest name
    rw [hname, Option.map_eq_some_iff] at hfactory
    obtain ⟨e, he, rfl⟩ := hfactory
    rw [← htracks.fresh name, he, Option.any_some, Option.isNone_iff_eq_none] at hfresh
    exact instantiate_of_instance?_eq_none he hfresh
  · have hnone := htracks.newest name
    rw [hname, Option.map_eq_none_iff] at hnone
    simp only [instantiate, hnone]

/-- A registry with one agent. -/
def lintOnly : Registry Nat :=
  ({} : Registry Nat).register { name := "lint" } id

/-- The same after a discovery in which the agent calls itself something else. -/
def lintProbed : Registry Nat :=
  (lintOnly.discover (fun _ => { name := "other" }) fun _ => true).1

/-- After that a second agent has been registered. -/
def withFuzzer : Registry Nat :=
  lintProbed.register { name := "fuzzer" } (· + 10)

/-- The second agent has been used once. -/
def fuzzerUsed : CallLog Nat :=
  [(withFuzzer, .instantiate "fuzzer"),
    (lintProbed, .register { name := "fuzzer" } (· + 10)),
    (lintOnly, .discover (fun _ => { name := "other" }) fun _ => true),
    ({}, .register { name := "lint" } id)]

/-- The first agent is the one that was probed, the second is built again for every use. -/
theorem instances_of_leads_fuzzerUsed :
    Leads fuzzerUsed (withFuzzer.instantiate "fuzzer").2 ∧
      fuzzerUsed.Keeps "lint" lintOnly (fun _ => { name := "other" }) (fun _ => true) ∧
      (∃ i, Probes lintOnly (fun _ => { name := "other" }) (fun _ => true) "lint" i ∧
        (withFuzzer.instantiate "fuzzer").2.instantiate "lint" =
          (some i, (withFuzzer.instantiate "fuzzer").2)) ∧
      ((withFuzzer.instantiate "fuzzer").2.instantiate "fuzzer").1 = some ⟨12, 2⟩ ∧
      (withFuzzer.instantiate "fuzzer").2.built.length = [1].sum + 1 := by
  have lint := (Leads.start : Leads [] ({} : Registry Nat)).call (.register { name := "lint" } id)
  have probed := lint.call (.discover (fun _ => { name := "other" }) fun _ => true)
  have fuzzer := probed.call (.register { name := "fuzzer" } (· + 10))
  have h : Leads fuzzerUsed (withFuzzer.instantiate "fuzzer").2 :=
    fuzzer.call (.instantiate "fuzzer")
  obtain ⟨hkept, hnew, -, -, hlength⟩ := instances_of_leads h
  have hkeeps : fuzzerUsed.Keeps "lint" lintOnly (fun _ => { name := "other" }) fun _ => true :=
    ⟨fuzzerUsed.take 2, fuzzerUsed.drop 3, rfl, rfl, by simp [fuzzerUsed, Call.isDiscovery,
      Call.factory?]⟩
  have hfuzzer : ¬∃ r₁ describe isAvailable,
      fuzzerUsed.Keeps "fuzzer" r₁ describe isAvailable := by
    rintro ⟨r₁, describe, isAvailable, hkeeps⟩
    rcases keeps_cons_iff.1 hkeeps with ⟨hc, -⟩ | ⟨-, -, hkeeps⟩
    · cases hc
    rcases keeps_cons_iff.1 hkeeps with ⟨hc, -⟩ | ⟨-, hname, -⟩
    · cases hc
    · cases hname
  refine ⟨h, hkeeps, hkept _ _ _ _ hkeeps, ?_, hlength⟩
  rw [hnew "fuzzer" (· + 10) rfl hfuzzer]
  rfl

end Vigil.Registry
