import Vigil.Agent.Command
import Vigil.Agent.Registry

/-!
# What the registry keeps

A factory may build agents that describe themselves under any name, and a discovery replaces every
descriptor by what the new agent says of itself.  The table of the registry has no order of its own
either: it may be found in another one each time it is walked through.  What holds nevertheless:

* `IsKeyed` -- each name has one entry, and the descriptor of the entry bears that name;
* `isKeyed_of_arises` -- every operation keeps this, and so it holds of all registries that arise
  (`Arises`) from registrations and discoveries;
* `pairwise_filter` -- so the agents that pass a filter stand in strictly ascending order, and two
  tables with the same entries give the same list (`filter_eq_of_perm`);
* `fits_discover` -- what a discovery reports is what the table says afterwards;
* `answers_of_arises` -- **the main result**, which puts these together.
-/

namespace Vigil

/-! ## The order of agents -/

namespace AgentDescriptor

/-- The first agent is faster, or as fast with a lesser name. -/
def Before (a b : AgentDescriptor) : Prop :=
  a.speed.rank < b.speed.rank ∨ a.speed.rank = b.speed.rank ∧ a.name < b.name

theorem listedBefore_iff {a b : AgentDescriptor} : a.listedBefore b = true ↔
    a.speed.rank < b.speed.rank ∨ a.speed.rank = b.speed.rank ∧ a.name ≤ b.name := by
  simp only [listedBefore, Bool.or_eq_true, Bool.and_eq_true, decide_eq_true_eq, beq_iff_eq,
    Bool.not_eq_true', decide_eq_false_iff_not, Std.not_lt]

theorem listedBefore_trans {a b c : AgentDescriptor} (hab : a.listedBefore b = true)
    (hbc : b.listedBefore c = true) : a.listedBefore c = true := by
  rw [listedBefore_iff] at hab hbc ⊢
  rcases hab with hab | ⟨hab, hname⟩ <;> rcases hbc with hbc | ⟨hbc, hname'⟩
  · exact Or.inl (Nat.lt_trans hab hbc)
  · exact Or.inl (hbc ▸ hab)
  · exact Or.inl (hab ▸ hbc)
  · exact Or.inr ⟨hab.trans hbc, Std.le_trans hname hname'⟩

theorem listedBefore_total (a b : AgentDescriptor) :
    (a.listedBefore b || b.listedBefore a) = true := by
  rw [Bool.or_eq_true, listedBefore_iff, listedBefore_iff]
  rcases Nat.lt_trichotomy a.speed.rank b.speed.rank with h | h | h
  · exact Or.inl (Or.inl h)
  · rcases (Std.le_total : a.name ≤ b.name ∨ b.name ≤ a.name) with hname | hname
    · exact Or.inl (Or.inr ⟨h, hname⟩)
    · exact Or.inr (Or.inr ⟨h.symm, hname⟩)
  · exact Or.inr (Or.inl h)

/-- Agents with different names are never listed in both orders. -/
theorem before_of_listedBefore {a b : AgentDescriptor} (h : a.listedBefore b = true)
    (hne : a.name ≠ b.name) : a.Before b := by
  rcases listedBefore_iff.1 h with h | ⟨h, hname⟩
  · exact Or.inl h
  · exact Or.inr ⟨h, Std.lt_of_le_of_ne hname hne⟩

theorem Before.not_before {a b : AgentDescriptor} (h : a.Before b) : ¬b.Before a := by
  rcases h with h | ⟨heq, h⟩ <;> rintro (h' | ⟨heq', h'⟩)
  · exact Nat.lt_asymm h h'
  · exact absurd (heq' ▸ h) (Nat.lt_irrefl _)
  · exact absurd (heq ▸ h') (Nat.lt_irrefl _)
  · exact Std.lt_irrefl (Std.lt_trans h h')

end AgentDescriptor

namespace Registry

variable {α : Type}

/-! ## The table -/

section Table

variable {name : String} {e : RegistryEntry α} {l l' : List (String × RegistryEntry α)}

theorem mem_set {p : String × RegistryEntry α} (hp : p ∈ set name e l) :
    p = (name, e) ∨ p ∈ l := by
  induction l with
  | nil => exact Or.inl (List.mem_singleton.1 hp)
  | cons q l ih =>
    obtain ⟨n, old⟩ := q
    rw [set] at hp
    split at hp
    · rename_i hn
      subst hn
      rcases List.mem_cons.1 hp with hp | hp
      · exact Or.inl hp
      · exact Or.inr (List.mem_cons_of_mem _ hp)
    · rcases List.mem_cons.1 hp with rfl | hp
      · exact Or.inr (List.mem_cons_self ..)
      · exact (ih hp).imp_right (List.mem_cons_of_mem _)

theorem mem_keys_set {n : String} :
    n ∈ (set name e l).map (·.1) ↔ n = name ∨ n ∈ l.map (·.1) := by
  induction l with
  | nil => simp [set]
  | cons q l ih =>
    obtain ⟨m, old⟩ := q
    rw [set]
    split
    · rename_i hm
      subst hm
      simp
    · simp only [List.map_cons, List.mem_cons, ih]
      exact or_left_comm

theorem nodup_keys_set (h : (l.map (·.1)).Nodup) : ((set name e l).map (·.1)).Nodup := by
  induction l with
  | nil => exact List.pairwise_singleton _ _
  | cons q l ih =>
    obtain ⟨m, old⟩ := q
    obtain ⟨hm, hl⟩ := List.nodup_cons.1 h
    rw [set]
    split
    · exact h
    · rename_i hne
      refine List.nodup_cons.2 ⟨fun hmem => ?_, ih hl⟩
      exact (mem_keys_set.1 hmem).elim hne hm

theorem mem_of_find?_eq_some (h : find? name l = some e) : (name, e) ∈ l := by
  induction l with
  | nil => cases h
  | cons q l ih =>
    obtain ⟨m, old⟩ := q
    rw [find?] at h
    split at h
    · rename_i hm
      obtain rfl := Option.some.inj h
      rw [hm]
      exact List.mem_cons_self ..
    · exact List.mem_cons_of_mem _ (ih h)

/-- Where each name has one entry, that entry is the one that is found. -/
theorem find?_eq_some_iff (h : (l.map (·.1)).Nodup) : find? name l = some e ↔ (name, e) ∈ l := by
  refine ⟨mem_of_find?_eq_some, fun hmem => ?_⟩
  induction l with
  | nil => cases hmem
  | cons q l ih =>
    obtain ⟨m, old⟩ := q
    obtain ⟨hm, hl⟩ := List.nodup_cons.1 h
    rw [find?]
    rcases List.mem_cons.1 hmem with heq | hmem
    · obtain ⟨rfl, rfl⟩ := Prod.mk.inj heq
      exact if_pos rfl
    · have hname : name ∈ l.map (·.1) := List.mem_map.2 ⟨_, hmem, rfl⟩
      have hne : m ≠ name := fun heq => hm (heq ▸ hname)
      rw [if_neg hne]
      exact ih hl hmem

/-- The order of the entries does not matter for what is found under a name. -/
theorem find?_eq_of_perm (h : (l.map (·.1)).Nodup) (hperm : l'.Perm l) :
    find? name l' = find? name l := by
  have h' : (l'.map (·.1)).Nodup := (hperm.map _).nodup_iff.2 h
  refine Option.ext fun e => ?_
  rw [find?_eq_some_iff h', find?_eq_some_iff h, hperm.mem_iff]

/-! ## Names in order -/

theorem perm_sortedNames (l : List (String × RegistryEntry α)) :
    (sortedNames l).Perm (l.map (·.1)) :=
  List.mergeSort_perm _ _

theorem mem_sortedNames {n : String} : n ∈ sortedNames l ↔ ∃ e, (n, e) ∈ l := by
  rw [(perm_sortedNames l).mem_iff, List.mem_map]
  constructor
  · rintro ⟨⟨m, e⟩, hmem, rfl⟩
    exact ⟨e, hmem⟩
  · rintro ⟨e, hmem⟩
    exact ⟨_, hmem, rfl⟩

theorem pairwise_le_sortedNames (l : List (String × RegistryEntry α)) :
    (sortedNames l).Pairwise (· ≤ ·) := by
  have hsorted : (sortedNames l).Pairwise fun a b => (!decide (b < a)) = true := by
    refine List.pairwise_mergeSort (fun a b c hab hbc => ?_) (fun a b => ?_) _
    · simp only [Bool.not_eq_true', decide_eq_false_iff_not, Std.not_lt] at hab hbc ⊢
      exact Std.le_trans hab hbc
    · simp only [Bool.or_eq_true, Bool.not_eq_true', decide_eq_false_iff_not, Std.not_lt]
      exact Std.le_total
  refine hsorted.imp fun {a b} hab => ?_
  simpa only [Bool.not_eq_true', decide_eq_false_iff_not, Std.not_lt] using hab

theorem pairwise_sortedNames (h : (l.map (·.1)).Nodup) : (sortedNames l).Pairwise (· < ·) := by
  have hnodup : (sortedNames l).Nodup := (perm_sortedNames l).nodup_iff.2 h
  exact (pairwise_le_sortedNames l).imp₂ (fun a b hle hne => Std.lt_of_le_of_ne hle hne) hnodup

theorem sortedNames_eq_of_perm (hperm : l'.Perm l) : sortedNames l' = sortedNames l :=
  List.Perm.eq_of_pairwise (fun _ _ _ _ => Std.le_antisymm) (pairwise_le_sortedNames l')
    (pairwise_le_sortedNames l)
    ((perm_sortedNames l').trans ((hperm.map _).trans (perm_sortedNames l).symm))

/-! ## Discovery, entry by entry -/

variable (describe : α → AgentDescriptor) (isAvailable : α → Bool)

theorem map_fst_probeAll (serial : Nat) (l : List (String × RegistryEntry α)) :
    (probeAll describe isAvailable serial l).map (·.1) = l.map (·.1) := by
  induction l generalizing serial with
  | nil => rfl
  | cons p l ih => rw [probeAll, List.map_cons, List.map_cons, ih]

/-- Each entry is what its own name and factory make of it. -/
theorem name_of_mem_probeAll {serial : Nat} {p : String × RegistryEntry α}
    (hp : p ∈ probeAll describe isAvailable serial l) : p.2.descriptor.name = p.1 := by
  induction l generalizing serial with
  | nil => cases hp
  | cons q l ih =>
    rw [probeAll] at hp
    rcases List.mem_cons.1 hp with rfl | hp
    · rfl
    · exact ih hp

end Table

/-! ## The invariant -/

/-- Each name has one entry, whose descriptor bears that name. -/
structure IsKeyed (r : Registry α) : Prop where
  nodup : (r.entries.map (·.1)).Nodup
  name_eq : ∀ p ∈ r.entries, p.2.descriptor.name = p.1

/-- The registries that arise, each with the names under which agents have been registered.  The
agents that a discovery builds may describe themselves in any way and may or may not be available,
and the table may be found in another order at any time. -/
inductive Arises : List String → Registry α → Prop
  | empty : Arises [] {}
  | register {names : List String} {r : Registry α} (h : Arises names r) (d : AgentDescriptor)
    (factory : Nat → α) : Arises (d.name :: names) (r.register d factory)
  | registerAgent {names : List String} {r : Registry α} (h : Arises names r)
    (describe : α → AgentDescriptor) (agent : α) :
    Arises ((describe agent).name :: names) (r.registerAgent describe agent)
  | registerCommands {names : List String} {r : Registry α} (h : Arises names r)
    (make : CommandAgent → α) (cs : List CommandAgent) :
    Arises (cs.map (·.name) ++ names) (r.registerCommands make cs)
  | discover {names : List String} {r : Registry α} (h : Arises names r)
    (describe : α → AgentDescriptor) (isAvailable : α → Bool) :
    Arises names (r.discover describe isAvailable).1
  | instantiate {names : List String} {r : Registry α} (h : Arises names r) (name : String) :
    Arises names (r.instantiate name).2
  | reorder {names : List String} {r : Registry α} (h : Arises names r)
    {entries : List (String × RegistryEntry α)} (hperm : entries.Perm r.entries) :
    Arises names { r with entries }

section Operations

variable {r : Registry α} {names : List String}

theorem IsKeyed.register (h : r.IsKeyed) (d : AgentDescriptor) (factory : Nat → α) :
    (r.register d factory).IsKeyed where
  nodup := nodup_keys_set h.nodup
  name_eq p hp := by
    rcases mem_set hp with rfl | hp
    · rfl
    · exact h.name_eq p hp

theorem IsKeyed.registerCommands (h : r.IsKeyed) (make : CommandAgent → α)
    (cs : List CommandAgent) : (r.registerCommands make cs).IsKeyed := by
  induction cs generalizing r with
  | nil => exact h
  | cons c cs ih => exact ih (h.register c.descriptor fun _ => make c)

/-- **A discovery keeps the names**, whatever the new agents call themselves. -/
theorem IsKeyed.discover (h : r.IsKeyed) (describe : α → AgentDescriptor)
    (isAvailable : α → Bool) : (r.discover describe isAvailable).1.IsKeyed where
  nodup := (map_fst_probeAll describe isAvailable _ _).symm ▸ h.nodup
  name_eq _ hp := name_of_mem_probeAll describe isAvailable hp

theorem entries_instantiate (r : Registry α) (name : String) :
    (r.instantiate name).2.entries = r.entries := by
  rw [instantiate]
  split
  · rfl
  · split <;> rfl

theorem IsKeyed.of_perm (h : r.IsKeyed) {r' : Registry α} (hperm : r'.entries.Perm r.entries) :
    r'.IsKeyed where
  nodup := (hperm.map _).nodup_iff.2 h.nodup
  name_eq p hp := h.name_eq p (hperm.mem_iff.1 hp)

/-- **Every registry that arises is keyed.** -/
theorem isKeyed_of_arises (h : Arises names r) : r.IsKeyed := by
  induction h with
  | empty => exact ⟨List.nodup_nil, fun _ hp => by cases hp⟩
  | register _ d factory ih => exact ih.register d factory
  | registerAgent _ describe agent ih => exact ih.register (describe agent) fun _ => agent
  | registerCommands _ make cs ih => exact ih.registerCommands make cs
  | discover _ describe isAvailable ih => exact ih.discover describe isAvailable
  | instantiate _ name ih => exact ih.of_perm (List.Perm.of_eq (entries_instantiate _ name))
  | reorder _ hperm ih => exact ih.of_perm hperm

theorem mem_keys_registerCommands (r : Registry α) (make : CommandAgent → α)
    (cs : List CommandAgent) {n : String} :
    n ∈ (r.registerCommands make cs).entries.map (·.1) ↔
      n ∈ cs.map (·.name) ∨ n ∈ r.entries.map (·.1) := by
  induction cs generalizing r with
  | nil => simp [registerCommands]
  | cons c cs ih =>
    refine (ih (r.register c.descriptor fun _ => make c)).trans ?_
    rw [register, mem_keys_set, c.name_descriptor, List.map_cons, List.mem_cons]
    exact or_left_comm.trans or_assoc.symm

/-- The names in the table are those under which agents have been registered. -/
theorem mem_keys_iff (h : Arises names r) (n : String) :
    n ∈ r.entries.map (·.1) ↔ n ∈ names := by
  induction h with
  | empty => exact Iff.rfl
  | register _ d factory ih =>
    exact mem_keys_set.trans ((or_congr_right ih).trans List.mem_cons.symm)
  | registerAgent _ describe agent ih =>
    exact mem_keys_set.trans ((or_congr_right ih).trans List.mem_cons.symm)
  | registerCommands _ make cs ih =>
    rw [mem_keys_registerCommands, ih, List.mem_append]
  | discover _ describe isAvailable ih =>
    exact (map_fst_probeAll describe isAvailable _ _).symm ▸ ih
  | instantiate _ name ih => rw [entries_instantiate, ih]
  | reorder _ hperm ih => rw [(hperm.map _).mem_iff, ih]

end Operations

/-! ## Queries -/

section Queries

variable {r : Registry α}

theorem IsKeyed.get?_eq_some_iff (h : r.IsKeyed) {n : String} {d : AgentDescriptor} :
    r.get? n = some d ↔ ∃ e, (n, e) ∈ r.entries ∧ e.descriptor = d := by
  simp only [get?, Option.map_eq_some_iff, find?_eq_some_iff h.nodup]

theorem mem_filter (r : Registry α) (f : AgentFilter) {d : AgentDescriptor} :
    d ∈ r.filter f ↔ d ∈ r.entries.map (·.2.descriptor) ∧ f.accepts d = true := by
  rw [filter, (List.mergeSort_perm _ _).mem_iff, List.mem_filter]

/-- The descriptors bear the names under which they are kept. -/
theorem IsKeyed.map_name_descriptors (h : r.IsKeyed) :
    (r.entries.map (·.2.descriptor)).map (·.name) = r.entries.map (·.1) := by
  rw [List.map_map]
  exact List.map_congr_left h.name_eq

/-- A filter gives the accepted descriptors of the table. -/
theorem IsKeyed.mem_filter_iff (h : r.IsKeyed) (f : AgentFilter) {d : AgentDescriptor} :
    d ∈ r.filter f ↔ (∃ n, r.get? n = some d) ∧ f.accepts d = true := by
  rw [mem_filter, List.mem_map]
  refine and_congr_left fun _ => ⟨?_, ?_⟩
  · rintro ⟨⟨n, e⟩, hmem, rfl⟩
    exact ⟨n, h.get?_eq_some_iff.2 ⟨e, hmem, rfl⟩⟩
  · rintro ⟨n, hn⟩
    obtain ⟨e, hmem, rfl⟩ := h.get?_eq_some_iff.1 hn
    exact ⟨_, hmem, rfl⟩

/-- No two agents that pass a filter have one name. -/
theorem IsKeyed.nodup_map_name_filter (h : r.IsKeyed) (f : AgentFilter) :
    ((r.filter f).map (·.name)).Nodup := by
  have hperm : (r.filter f).Perm ((r.entries.map (·.2.descriptor)).filter f.accepts) :=
    List.mergeSort_perm _ _
  have hall : ((r.entries.map (·.2.descriptor)).map (·.name)).Nodup :=
    h.map_name_descriptors ▸ h.nodup
  exact (hperm.map _).nodup_iff.2 (hall.sublist (List.filter_sublist.map _))

/-- So no two selected agents have one name. -/
theorem IsKeyed.nodup_map_name_select (h : r.IsKeyed) (t : AnalysisTarget)
    (c : SelectionCriteria) : ((r.select t c).agents.map (·.name)).Nodup := by
  have hmatching := h.nodup_map_name_filter (c.filterFor t)
  refine hmatching.sublist (List.Sublist.map _ ?_)
  rw [select]
  split
  · exact List.filter_sublist
  · exact (List.take_sublist _ _).trans List.filter_sublist

theorem pairwise_listedBefore_filter (r : Registry α) (f : AgentFilter) :
    (r.filter f).Pairwise fun a b => a.listedBefore b = true := by
  refine List.pairwise_mergeSort (fun _ _ _ hab hbc => ?_) (fun a b => ?_) _
  · exact AgentDescriptor.listedBefore_trans hab hbc
  · exact AgentDescriptor.listedBefore_total a b

/-- **What passes a filter stands in strictly ascending order**: two agents of one speed have
different names. -/
theorem IsKeyed.pairwise_filter (h : r.IsKeyed) (f : AgentFilter) :
    (r.filter f).Pairwise AgentDescriptor.Before := by
  have hnames := List.pairwise_map.1 (h.nodup_map_name_filter f)
  exact (pairwise_listedBefore_filter r f).imp₂
    (fun _ _ => AgentDescriptor.before_of_listedBefore) hnames

/-- **The order of the table does not show** in what passes a filter. -/
theorem IsKeyed.filter_eq_of_perm (h : r.IsKeyed) {r' : Registry α}
    (hperm : r'.entries.Perm r.entries) (f : AgentFilter) : r'.filter f = r.filter f := by
  have h' : r'.IsKeyed := h.of_perm hperm
  have hfiltered : (r'.filter f).Perm (r.filter f) :=
    (List.mergeSort_perm _ _).trans
      (((hperm.map _).filter _).trans (List.mergeSort_perm _ _).symm)
  exact List.Perm.eq_of_pairwise (fun _ _ _ _ hab hba => absurd hba hab.not_before)
    (h'.pairwise_filter f) (h.pairwise_filter f) hfiltered

end Queries

end Registry

/-! ## What a discovery reports -/

/-- A report says of each name of a registry, once, whether its agent is available. -/
structure DiscoveryReport.Fits {α : Type} (report : DiscoveryReport) (r : Registry α) : Prop where
  ascending_available : report.available.Pairwise (· < ·)
  ascending_unavailable : report.unavailable.Pairwise (· < ·)
  disjoint : ∀ n ∈ report.available, n ∉ report.unavailable
  together : (report.available ++ report.unavailable).Perm r.names
  available_iff : ∀ n, n ∈ report.available ↔ ∃ d, r.get? n = some d ∧ d.available = true

namespace Registry

variable {α : Type} {r : Registry α} {names : List String}

/-- The names of entries that meet a condition, and of those that do not, are all the names. -/
theorem perm_sortedNames_append (p : String × RegistryEntry α → Bool)
    (l : List (String × RegistryEntry α)) :
    (sortedNames (l.filter p) ++ sortedNames (l.filter fun e => !p e)).Perm (sortedNames l) := by
  refine ((perm_sortedNames _).append (perm_sortedNames _)).trans ?_
  rw [← List.map_append]
  exact ((List.filter_append_perm p l).map _).trans (perm_sortedNames l).symm

/-- **A discovery reports what the registry says from then on.** -/
theorem IsKeyed.fits_discover (h : r.IsKeyed) (describe : α → AgentDescriptor)
    (isAvailable : α → Bool) :
    (r.discover describe isAvailable).2.Fits (r.discover describe isAvailable).1 := by
  have h' : (r.discover describe isAvailable).1.IsKeyed := h.discover describe isAvailable
  have ascending (p : String × RegistryEntry α → Bool) :
      (sortedNames ((r.discover describe isAvailable).1.entries.filter p)).Pairwise (· < ·) :=
    pairwise_sortedNames (h'.nodup.sublist (List.filter_sublist.map _))
  have together := perm_sortedNames_append (·.2.descriptor.available)
    (r.discover describe isAvailable).1.entries
  have hnodup := together.nodup_iff.2 ((perm_sortedNames _).nodup_iff.2 h'.nodup)
  refine ⟨ascending _, ascending _, fun n hn hn' => ?_, together, fun n => ?_⟩
  · exact (List.nodup_append.1 hnodup).2.2 n hn n hn' rfl
  · refine mem_sortedNames.trans ⟨?_, ?_⟩
    · rintro ⟨e, he⟩
      obtain ⟨hmem, havailable⟩ := List.mem_filter.1 he
      exact ⟨_, h'.get?_eq_some_iff.2 ⟨e, hmem, rfl⟩, havailable⟩
    · rintro ⟨d, hd, havailable⟩
      obtain ⟨e, hmem, rfl⟩ := h'.get?_eq_some_iff.1 hd
      exact ⟨e, List.mem_filter.2 ⟨hmem, havailable⟩⟩

theorem names_discover (r : Registry α) (describe : α → AgentDescriptor) (isAvailable : α → Bool) :
    (r.discover describe isAvailable).1.names = r.names := by
  have hkeys : (r.discover describe isAvailable).1.entries.map (·.1) = r.entries.map (·.1) :=
    map_fst_probeAll describe isAvailable _ _
  rw [names, names, sortedNames, sortedNames, hkeys]

/-! ## All answers -/

/-- **Whatever is registered and discovered, each name has one entry with a descriptor of that
name; names, discoveries and filters tell what is in the table, in strict order, and none of them
shows the order of the table.** -/
theorem answers_of_arises (h : Arises names r) :
    (∀ p ∈ r.entries, p.2.descriptor.name = p.1) ∧
      (r.names.Pairwise (· < ·) ∧ r.names.length = r.size ∧ ∀ n, n ∈ r.names ↔ n ∈ names) ∧
      (∀ describe isAvailable,
        (r.discover describe isAvailable).2.Fits (r.discover describe isAvailable).1 ∧
          (r.discover describe isAvailable).1.names = r.names) ∧
      (∀ f, (∀ d, d ∈ r.filter f ↔ (∃ n, r.get? n = some d) ∧ f.accepts d = true) ∧
        (r.filter f).Pairwise AgentDescriptor.Before ∧ ((r.filter f).map (·.name)).Nodup) ∧
      ∀ entries, entries.Perm r.entries →
        ({ r with entries } : Registry α).names = r.names ∧
          ({ r with entries } : Registry α).size = r.size ∧
          (∀ n, ({ r with entries } : Registry α).get? n = r.get? n) ∧
          ∀ f, ({ r with entries } : Registry α).filter f = r.filter f := by
  have hkeyed : r.IsKeyed := isKeyed_of_arises h
  refine ⟨hkeyed.name_eq, ⟨pairwise_sortedNames hkeyed.nodup, ?_, fun n => ?_⟩,
    fun describe isAvailable => ⟨hkeyed.fits_discover describe isAvailable, names_discover ..⟩,
    fun f => ⟨fun d => hkeyed.mem_filter_iff f, hkeyed.pairwise_filter f,
      hkeyed.nodup_map_name_filter f⟩,
    fun entries hperm => ⟨sortedNames_eq_of_perm hperm, hperm.length_eq, fun n => ?_,
      hkeyed.filter_eq_of_perm hperm⟩⟩
  · exact (perm_sortedNames _).length_eq.trans (List.length_map _)
  · exact (perm_sortedNames _).mem_iff.trans (mem_keys_iff h n)
  · rw [get?, get?, find?_eq_of_perm hkeyed.nodup hperm]

/-- Two agents that describe themselves under one foreign name, discovered twice; the second is
available at first only. -/
def aliased : Registry Nat :=
  let r := ({} : Registry Nat).register { name := "lint" } id
  let r := r.registerAgent (fun _ => { name := "fuzzer", speed := .slow }) 7
  let r := (r.discover (fun _ => { name := "other" }) fun _ => true).1
  (r.discover (fun _ => { name := "other" }) fun agent => agent != 7).1

theorem answers_of_arises_aliased :
    Arises ["fuzzer", "lint"] aliased ∧
      aliased.get? "lint" = some { name := "lint" } ∧
      aliased.get? "fuzzer" = some { name := "fuzzer", available := false } ∧
      (∀ n, n ∈ aliased.names ↔ n ∈ ["fuzzer", "lint"]) ∧
      (aliased.filter {}).Pairwise AgentDescriptor.Before ∧
      ({ aliased with entries := aliased.entries.reverse } : Registry Nat).filter {} =
        aliased.filter {} :=
  have lint := (Arises.empty : Arises [] ({} : Registry Nat)).register { name := "lint" } id
  have fuzzer := lint.registerAgent (fun _ => { name := "fuzzer", speed := .slow }) 7
  have h : Arises ["fuzzer", "lint"] aliased := (fuzzer.discover _ _).discover _ _
  have ⟨_, ⟨_, _, hnames⟩, _, hfilter, horder⟩ := answers_of_arises h
  ⟨h, rfl, rfl, hnames, (hfilter {}).2.1, (horder _ (List.reverse_perm _)).2.2.2 {}⟩

end Registry

end Vigil
