import Vigil.Proofs.Correlate.Order

/-!
# What the chains are made of

A chain grows while the next finding overlaps the lines it covers so far.  Two relations between
findings say what comes of this:

* `Linked` -- the findings are of one type and overlap within the tolerance;
* `Apart` -- the second finding is of another kind than the first, or begins too far below its end.

The sorted list is walked through once, with the invariant `Reach.Covers`: the reach begins no
later and ends exactly where the lines of the chain do.  From it follow

* `chained_of_mem_chains` -- each member of a chain but the first is linked to an earlier one;
* `pairwise_apart_chains` -- the members of different chains are apart, so that no later finding
  can be linked to a chain that is closed;
* `sameKind_of_mem_chains` -- a chain is of one kind, whatever the order of its lines.
-/

namespace Vigil.Correlate

open Finding

variable {ν : Type} {t : UInt32}

/-! ## Linked and apart -/

/-- The findings are of one type and overlap within the tolerance. -/
def Linked (t : UInt32) (a b : Finding ν) : Prop :=
  a.findingType = b.findingType ∧ a.location.overlaps b.location t = true

theorem linked_iff {a b : Finding ν} :
    Linked t a b ↔ SameKind a b ∧
      a.location.startLine.toNat ≤ b.location.endLine.toNat + t.toNat ∧
      b.location.startLine.toNat ≤ a.location.endLine.toNat + t.toNat := by
  simp only [Linked, SameKind, Location.overlaps, Location.le_lineBelow_iff, Bool.and_eq_true,
    beq_iff_eq, decide_eq_true_eq, and_assoc]

theorem Linked.symm {a b : Finding ν} (h : Linked t a b) : Linked t b a :=
  ⟨h.1.symm, by rw [Location.overlaps_comm]; exact h.2⟩

theorem Linked.sameKind {a b : Finding ν} (h : Linked t a b) : SameKind a b :=
  (linked_iff.1 h).1

/-- The second finding is of another kind, or begins too far below the end of the first. -/
def Apart (t : UInt32) (a b : Finding ν) : Prop :=
  SameKind a b → a.location.endLine.toNat + t.toNat < b.location.startLine.toNat

theorem Apart.not_linked {a b : Finding ν} (h : Apart t a b) : ¬ Linked t a b := by
  intro hl
  obtain ⟨hk, -, hle⟩ := linked_iff.1 hl
  have hlt := h hk
  omega

/-- A finding that is apart from the next one is apart from all that follow. -/
theorem Apart.of_le {a f b : Finding ν} (h : Apart t a f)
    (haf : (a.comparePosition f).isLE = true) (hfb : (f.comparePosition b).isLE = true) :
    Apart t a b := by
  intro hab
  have hk : SameKind a f := hab.of_between haf hfb
  have hlt := h hk
  have hle := (hk.symm.trans hab).isLE_comparePosition_iff.1 hfb
  omega

/-! ## Chains grow by links -/

/-- A list of findings in which each but the first is linked to an earlier one. -/
inductive Chained (t : UInt32) : List (Finding ν) → Prop
  /-- One finding alone. -/
  | single (f : Finding ν) : Chained t [f]
  /-- One more finding, linked to one that is there. -/
  | snoc {c : List (Finding ν)} {a f : Finding ν} :
      Chained t c → a ∈ c → Linked t a f → Chained t (c ++ [f])

theorem Chained.ne_nil {c : List (Finding ν)} (h : Chained t c) : c ≠ [] := by
  cases h <;> simp

/-! ## The reach of a chain -/

/-- The reach is of the type and in the file of all members of a chain. -/
def Reach.IsKindOf (r : Reach) (chain : List (Finding ν)) : Prop :=
  ∀ a ∈ chain, r.findingType = a.findingType ∧ r.location.file = a.location.file

theorem Reach.IsKindOf.sameKind {r : Reach} {chain : List (Finding ν)} (h : r.IsKindOf chain)
    {a b : Finding ν} (ha : a ∈ chain) (hb : b ∈ chain) : SameKind a b :=
  ⟨(h a ha).1.symm.trans (h b hb).1, (h a ha).2.symm.trans (h b hb).2⟩

theorem Reach.isKindOf_of (f : Finding ν) : (Reach.of f).IsKindOf [f] := by
  intro a ha
  rw [List.mem_singleton.1 ha, Reach.of, Location.between]
  split <;> exact ⟨rfl, rfl⟩

theorem Reach.IsKindOf.extend {r : Reach} {chain : List (Finding ν)} {f : Finding ν}
    (h : r.IsKindOf chain)
    (hk : r.findingType = f.findingType ∧ r.location.file = f.location.file) :
    (r.extend f).IsKindOf (chain ++ [f]) := by
  intro a ha
  rcases List.mem_append.1 ha with ha | ha
  · exact h a ha
  · rw [List.mem_singleton.1 ha]
    exact hk

/-- The reach of a chain whose members stand in order: it begins with the first and ends with the
last of their lines. -/
structure Reach.Covers (r : Reach) (chain : List (Finding ν)) : Prop where
  kind : r.IsKindOf chain
  start_le : ∀ a ∈ chain, r.location.startLine.toNat ≤ a.location.startLine.toNat
  le_end : ∀ a ∈ chain, a.location.endLine.toNat ≤ r.location.endLine.toNat
  end_mem : ∃ a ∈ chain, a.location.endLine = r.location.endLine

theorem toNat_max_line (m n : UInt32) : (max m n).toNat = max m.toNat n.toNat := by
  show (if m ≤ n then n else m).toNat = _
  split
  · rename_i h
    have h' := UInt32.le_iff_toNat_le.1 h
    omega
  · rename_i h
    have h' := UInt32.lt_iff_toNat_lt.1 (UInt32.not_le.1 h)
    omega

theorem Reach.covers_of {f : Finding ν} (h : f.location.startLine ≤ f.location.endLine) :
    (Reach.of f).Covers [f] := by
  have hr : Reach.of f = ⟨f.findingType, f.location.file, f.location.startLine,
      f.location.endLine, none⟩ := by
    rw [Reach.of, Location.between, if_pos h]
  exact ⟨Reach.isKindOf_of f, by simp [hr], by simp [hr], by simp [hr]⟩

theorem Reach.Covers.extend {r : Reach} {chain : List (Finding ν)} {f : Finding ν}
    (h : r.Covers chain) (hk : r.findingType = f.findingType ∧ r.location.file = f.location.file)
    (hs : r.location.startLine.toNat ≤ f.location.startLine.toNat) :
    (r.extend f).Covers (chain ++ [f]) where
  kind := h.kind.extend hk
  start_le a ha := by
    rcases List.mem_append.1 ha with ha | ha
    · exact h.start_le a ha
    · rw [List.mem_singleton.1 ha]
      exact hs
  le_end a ha := by
    rw [Reach.extend, toNat_max_line]
    rcases List.mem_append.1 ha with ha | ha
    · exact Nat.le_trans (h.le_end a ha) (Nat.le_max_left ..)
    · rw [List.mem_singleton.1 ha]
      exact Nat.le_max_right ..
  end_mem := by
    obtain ⟨a, ha, hend⟩ := h.end_mem
    by_cases hle : r.location.endLine ≤ f.location.endLine
    · exact ⟨f, by simp, (if_pos hle).symm⟩
    · exact ⟨a, List.mem_append_left _ ha, hend.trans (if_neg hle).symm⟩

/-- A finding that stands behind a chain joins it just if it is not apart from all its members. -/
theorem Reach.Covers.joins_iff {r : Reach} {chain : List (Finding ν)} {f : Finding ν}
    (h : r.Covers chain) (hf : f.location.startLine ≤ f.location.endLine)
    (hafter : ∀ a ∈ chain, (a.comparePosition f).isLE = true) :
    r.joins t f = true ↔
      ∃ a ∈ chain, SameKind a f ∧
        f.location.startLine.toNat ≤ a.location.endLine.toNat + t.toNat := by
  have hle := UInt32.le_iff_toNat_le.1 hf
  simp only [Reach.joins, Location.overlaps, Location.le_lineBelow_iff, Bool.and_eq_true,
    beq_iff_eq, decide_eq_true_eq]
  constructor
  · rintro ⟨htype, ⟨hfile, -⟩, hend⟩
    obtain ⟨a, ha, hae⟩ := h.end_mem
    obtain ⟨hat, haf⟩ := h.kind a ha
    exact ⟨a, ha, ⟨hat.symm.trans htype, haf.symm.trans hfile⟩, by rw [hae]; exact hend⟩
  · rintro ⟨a, ha, hk, hend⟩
    obtain ⟨hat, haf⟩ := h.kind a ha
    have hstart := hk.isLE_comparePosition_iff.1 (hafter a ha)
    have hra := h.start_le a ha
    have har := h.le_end a ha
    exact ⟨hat.trans hk.1, ⟨haf.trans hk.2, by omega⟩, by omega⟩

/-- A finding that joins the chain is linked to a member, and the reach grows with the chain. -/
theorem Reach.Covers.of_joins {r : Reach} {chain : List (Finding ν)} {f : Finding ν}
    (h : r.Covers chain) (hf : f.location.startLine ≤ f.location.endLine)
    (hafter : ∀ a ∈ chain, (a.comparePosition f).isLE = true) (hjoins : r.joins t f = true) :
    (r.extend f).Covers (chain ++ [f]) ∧ ∃ a ∈ chain, Linked t a f := by
  obtain ⟨a, ha, hk, hend⟩ := (h.joins_iff hf hafter).1 hjoins
  obtain ⟨hat, haf⟩ := h.kind a ha
  have hstart := hk.isLE_comparePosition_iff.1 (hafter a ha)
  have hle := UInt32.le_iff_toNat_le.1 hf
  refine ⟨h.extend ⟨hat.trans hk.1, haf.trans hk.2⟩ ?_, a, ha, linked_iff.2 ⟨hk, by omega, hend⟩⟩
  exact Nat.le_trans (h.start_le a ha) hstart

/-- A finding that does not join the chain is apart from all members. -/
theorem Reach.Covers.apart_of_not_joins {r : Reach} {chain : List (Finding ν)} {f : Finding ν}
    (h : r.Covers chain) (hf : f.location.startLine ≤ f.location.endLine)
    (hafter : ∀ a ∈ chain, (a.comparePosition f).isLE = true) (hjoins : ¬ r.joins t f = true) :
    ∀ a ∈ chain, Apart t a f := by
  intro a ha hk
  refine Nat.not_le.1 fun hle => hjoins ?_
  exact (h.joins_iff hf hafter).2 ⟨a, ha, hk, hle⟩

/-! ## One walk through the sorted list -/

theorem mem_of_mem_chainsFrom {r : Reach} {chain rest c : List (Finding ν)}
    (hc : c ∈ chainsFrom t r chain rest) {f : Finding ν} (hf : f ∈ c) : f ∈ chain ++ rest := by
  rw [← flatten_chainsFrom t r chain rest]
  exact List.mem_flatten_of_mem hc hf

/-- What the walk makes of a chain and the findings behind it: chains that grew by links, and whose
members are apart from those of the chains behind them. -/
theorem chained_and_apart_chainsFrom {rest : List (Finding ν)} : ∀ {r : Reach}
    {chain : List (Finding ν)}, r.Covers chain → Chained t chain →
    (chain ++ rest).Pairwise (fun a b => (a.comparePosition b).isLE = true) →
    (∀ f ∈ rest, f.location.startLine ≤ f.location.endLine) →
    (∀ c ∈ chainsFrom t r chain rest, Chained t c) ∧
      (chainsFrom t r chain rest).Pairwise fun c d => ∀ a ∈ c, ∀ b ∈ d, Apart t a b := by
  induction rest with
  | nil =>
    intro r chain _ hch _ _
    simpa [chainsFrom] using hch
  | cons f rest ih =>
    intro r chain hcov hch hsorted hlines
    have hf : f.location.startLine ≤ f.location.endLine := hlines f (List.mem_cons_self ..)
    have hrest : ∀ g ∈ rest, g.location.startLine ≤ g.location.endLine :=
      fun g hg => hlines g (List.mem_cons_of_mem _ hg)
    obtain ⟨-, hsrest, hbefore⟩ := List.pairwise_append.1 hsorted
    have hafter : ∀ a ∈ chain, (a.comparePosition f).isLE = true :=
      fun a ha => hbefore a ha f (List.mem_cons_self ..)
    rw [chainsFrom]
    by_cases hjoins : r.joins t f = true
    · rw [if_pos hjoins]
      obtain ⟨hcov', a, ha, hlink⟩ := hcov.of_joins hf hafter hjoins
      exact ih hcov' (hch.snoc ha hlink) (by simpa using hsorted) hrest
    · rw [if_neg hjoins]
      have hapart := hcov.apart_of_not_joins hf hafter hjoins
      obtain ⟨hchained, hpair⟩ := ih (Reach.covers_of hf) (.single f) hsrest hrest
      refine ⟨List.forall_mem_cons.2 ⟨hch, hchained⟩, List.pairwise_cons.2 ⟨?_, hpair⟩⟩
      -- The members of all later chains are `f` or stand behind it.
      intro d hd a ha b hb
      rcases List.mem_cons.1 (mem_of_mem_chainsFrom hd hb) with rfl | hb
      · exact hapart a ha
      · exact (hapart a ha).of_le (hafter a ha) ((List.pairwise_cons.1 hsrest).1 b hb)

variable {l : List (Finding ν)}

theorem chained_and_apart_chains (hl : l.Pairwise fun a b => (a.comparePosition b).isLE = true)
    (hlines : ∀ f ∈ l, f.location.startLine ≤ f.location.endLine) :
    (∀ c ∈ chains t l, Chained t c) ∧
      (chains t l).Pairwise fun c d => ∀ a ∈ c, ∀ b ∈ d, Apart t a b := by
  cases l with
  | nil => simp [chains]
  | cons f rest =>
    have hf := hlines f (List.mem_cons_self ..)
    exact chained_and_apart_chainsFrom (Reach.covers_of hf) (.single f) hl
      fun g hg => hlines g (List.mem_cons_of_mem _ hg)

/-- **A chain grows by links.** -/
theorem chained_of_mem_chains (hlines : ∀ f ∈ l, f.location.startLine ≤ f.location.endLine)
    {c : List (Finding ν)} (hc : c ∈ chains t (sort l)) : Chained t c :=
  (chained_and_apart_chains (pairwise_position_sort l)
    fun f hf => hlines f (mem_sort.1 hf)).1 c hc

/-- **Different chains are apart.** -/
theorem pairwise_apart_chains (hlines : ∀ f ∈ l, f.location.startLine ≤ f.location.endLine) :
    (chains t (sort l)).Pairwise fun c d => ∀ a ∈ c, ∀ b ∈ d, Apart t a b :=
  (chained_and_apart_chains (pairwise_position_sort l) fun f hf => hlines f (mem_sort.1 hf)).2

/-- The chains follow each other in the order of their members' positions. -/
theorem pairwise_position_chains (t : UInt32) (l : List (Finding ν)) :
    (chains t (sort l)).Pairwise
      fun c d => ∀ a ∈ c, ∀ b ∈ d, (a.comparePosition b).isLE = true := by
  have h := pairwise_position_sort l
  rw [← flatten_chains t (sort l), List.pairwise_flatten] at h
  exact h.2

/-! ## One chain, one kind -/

theorem isKindOf_of_mem_chainsFrom {rest : List (Finding ν)} : ∀ {r : Reach}
    {chain : List (Finding ν)}, chain ≠ [] → r.IsKindOf chain →
    ∀ c ∈ chainsFrom t r chain rest, c ≠ [] ∧ ∃ r' : Reach, r'.IsKindOf c := by
  induction rest with
  | nil =>
    intro r chain hne hr c hc
    rw [chainsFrom, List.mem_singleton] at hc
    subst hc
    exact ⟨hne, r, hr⟩
  | cons f rest ih =>
    intro r chain hne hr c hc
    simp only [chainsFrom] at hc
    split at hc
    · rename_i hjoins
      simp only [Reach.joins, Location.overlaps, Bool.and_eq_true, beq_iff_eq] at hjoins
      exact ih (by simp) (hr.extend ⟨hjoins.1, hjoins.2.1.1⟩) c hc
    · rcases List.mem_cons.1 hc with rfl | hc
      · exact ⟨hne, r, hr⟩
      · exact ih (by simp) (Reach.isKindOf_of f) c hc

theorem isKindOf_of_mem_chains {c : List (Finding ν)} (hc : c ∈ chains t l) :
    c ≠ [] ∧ ∃ r : Reach, r.IsKindOf c := by
  cases l with
  | nil => simp [chains] at hc
  | cons f rest => exact isKindOf_of_mem_chainsFrom (by simp) (Reach.isKindOf_of f) c hc

theorem ne_nil_of_mem_chains {c : List (Finding ν)} (hc : c ∈ chains t l) : c ≠ [] :=
  (isKindOf_of_mem_chains hc).1

/-- **A chain is of one kind**, whatever the order of the lines of its members. -/
theorem sameKind_of_mem_chains {c : List (Finding ν)} (hc : c ∈ chains t l) {a b : Finding ν}
    (ha : a ∈ c) (hb : b ∈ c) : SameKind a b := by
  obtain ⟨-, r, hr⟩ := isKindOf_of_mem_chains hc
  exact hr.sameKind ha hb

/-- The members of the chains are the findings of the list. -/
theorem mem_chains_sort {a : Finding ν} :
    (∃ c ∈ chains t (sort l), a ∈ c) ↔ a ∈ l := by
  rw [← List.mem_flatten, flatten_chains, mem_sort]

end Vigil.Correlate
