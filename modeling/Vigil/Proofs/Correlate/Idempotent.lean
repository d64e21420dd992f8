import Vigil.Proofs.Correlate.Cluster
import Vigil.Proofs.Double.Normal

/-!
# Correlation is idempotent

A finding that stands for several covers more lines than each of them and bears another id, so it
is not obvious that a second correlation neither merges nor reorders anything.  What rules it out is
that the lines which different chains cover are as far from each other as their members are.

* `Separated` -- findings in strictly ascending order of position, none linked to another;
* `separated_correlate` -- correlation gives such findings, up to the last line there can be;
* `correlate_eq_self` -- it leaves such findings as they are (`sort_of_ascending`,
  `chains_of_unlinked`);
* `dedupRate_self` -- a count of doubles divided by itself is one, so the share that a second
  correlation merges away is zero and not what a rounded quotient leaves;
* `correlate_idempotent` -- **the main result**, with the statistics of the second correlation.
-/

namespace Vigil.Correlate

open Finding

variable {ν : Type} {t : UInt32} {l : List (Finding ν)}

/-- Findings in strictly ascending order of position, none of which is linked to another. -/
structure Separated (t : UInt32) (l : List (Finding ν)) : Prop where
  lines : ∀ f ∈ l, f.location.startLine ≤ f.location.endLine
  ascending : l.Pairwise fun a b => a.comparePosition b = .lt
  unlinked : l.Pairwise fun a b => ¬ Linked t a b

/-! ## What correlation leaves as it is -/

/-- A finding at a lower position comes first in the full order, too. -/
theorem order_eq_lt_of_comparePosition {a b : Finding ν} (h : a.comparePosition b = .lt) :
    order a b = .lt := by
  rw [order, ← Ordering.then_assoc, ← Ordering.then_assoc]
  exact Ordering.then_eq_lt.2 (Or.inl h)

/-- Findings in ascending order are sorted. -/
theorem sort_of_ascending (h : l.Pairwise fun a b => a.comparePosition b = .lt) : sort l = l := by
  refine List.mergeSort_of_pairwise (h.imp fun {a b} hab => ?_)
  rw [order_eq_lt_of_comparePosition hab]
  rfl

/-- A single finding is continued by those it is linked to. -/
theorem linked_of_joins {f g : Finding ν} (hf : f.location.startLine ≤ f.location.endLine)
    (h : (Reach.of f).joins t g = true) : Linked t f g := by
  rw [Reach.joins, Reach.of, Location.between, if_pos hf, Bool.and_eq_true, beq_iff_eq] at h
  exact h

theorem chainsFrom_of_unlinked {f : Finding ν} (hlines : ∀ g ∈ f :: l,
    g.location.startLine ≤ g.location.endLine)
    (h : (f :: l).Pairwise fun a b => ¬ Linked t a b) :
    chainsFrom t (Reach.of f) [f] l = (f :: l).map fun g => [g] := by
  induction l generalizing f with
  | nil => rfl
  | cons g l ih =>
    obtain ⟨hfirst, hrest⟩ := List.pairwise_cons.1 h
    have hjoins : ¬ (Reach.of f).joins t g = true := fun hj =>
      hfirst g (List.mem_cons_self ..)
        (linked_of_joins (hlines f (List.mem_cons_self ..)) hj)
    have htail := ih (fun x hx => hlines x (List.mem_cons_of_mem _ hx)) hrest
    rw [chainsFrom, if_neg hjoins, htail]
    rfl

/-- Findings that are not linked make chains of one. -/
theorem chains_of_unlinked (hlines : ∀ f ∈ l, f.location.startLine ≤ f.location.endLine)
    (h : l.Pairwise fun a b => ¬ Linked t a b) : chains t l = l.map fun f => [f] := by
  cases l with
  | nil => rfl
  | cons f l => exact chainsFrom_of_unlinked hlines h

theorem Separated.chains_sort (h : Separated t l) : chains t (sort l) = l.map fun f => [f] := by
  rw [sort_of_ascending h.ascending]
  exact chains_of_unlinked h.lines h.unlinked

variable [Quantity ν] {c : CorrelationConfig ν}

/-- **Separated findings are left as they are.** -/
theorem correlate_eq_self (h : Separated c.lineTolerance l) : correlate c l = l := by
  rw [correlate, h.chains_sort, List.flatMap_map]
  exact List.flatMap_singleton' l

/-- The statistics say that nothing was merged. -/
theorem correlationStats_of_separated (h : Separated c.lineTolerance l) :
    correlationStats c l = ⟨l.length, l.length, 0, dedupRate l.length l.length⟩ := by
  have houtput := congrArg List.length (correlate_eq_self h)
  rw [correlate] at houtput
  have hmerged : (chains c.lineTolerance (sort l)).countP (fun g => 1 < g.length) = 0 := by
    rw [h.chains_sort, List.countP_map, List.countP_eq_zero]
    intro f _
    exact Bool.false_ne_true
  rw [correlationStats]
  simp only [houtput, hmerged]

/-- Nothing is merged away of as many findings as remain. -/
theorem dedupRate_self {n : Nat} (hn : n < 2 ^ 64) : (dedupRate n n : Float) = 0 := by
  rw [dedupRate]
  split
  · rfl
  · rename_i hne
    exact Double.one_sub_div_self (Nat.pos_of_ne_zero hne) hn

/-! ## What correlation gives -/

omit [Quantity ν] in
/-- Each finding begins one chain at most. -/
theorem length_chainsFrom_le (r : Reach) (chain rest : List (Finding ν)) :
    (chainsFrom t r chain rest).length ≤ rest.length + 1 := by
  induction rest generalizing r chain with
  | nil => exact le_rfl
  | cons f rest ih =>
    rw [chainsFrom]
    split
    · exact (ih _ _).trans (Nat.le_succ _)
    · exact Nat.succ_le_succ (ih _ _)

/-- There are no more findings after correlation than before. -/
theorem length_correlate_le (c : CorrelationConfig ν) (l : List (Finding ν)) :
    (correlate c l).length ≤ l.length := by
  rw [← (forall₂_standsFor_correlate c l).length_eq, ← (List.mergeSort_perm l _).length_eq]
  show (chains c.lineTolerance (sort l)).length ≤ (sort l).length
  cases sort l with
  | nil => exact le_rfl
  | cons f rest => exact length_chainsFrom_le ..

/-- The lines of a finding that stands for a group end where those of a member do. -/
theorem StandsFor.exists_end {g : List (Finding ν)} {m : Finding ν} (h : StandsFor c g m) :
    ∃ f ∈ g, SameKind f m ∧ f.location.endLine = m.location.endLine := by
  rcases h with rfl | ⟨-, h⟩
  · exact ⟨m, List.mem_singleton.2 rfl, SameKind.rfl, rfl⟩
  · obtain ⟨f, hf, hend⟩ := h.endLine.1
    exact ⟨f, hf, h.kind f hf, hend⟩

theorem StandsFor.ordered {g : List (Finding ν)} {m : Finding ν} (h : StandsFor c g m)
    (hlines : ∀ f ∈ g, f.location.startLine ≤ f.location.endLine) :
    m.location.startLine ≤ m.location.endLine := by
  obtain ⟨f, hf, -, -⟩ := h.exists_end
  have hwithin := h.isWithin hf
  exact Std.le_trans hwithin.start_le (Std.le_trans (hlines f hf) hwithin.le_end)

/-- **The findings for two groups are apart if the groups are**: the first ends with one of its
members, and the second begins with one of its own. -/
theorem StandsFor.apart {g h : List (Finding ν)} {m n : Finding ν} (hm : StandsFor c g m)
    (hn : StandsFor c h n) (hapart : ∀ a ∈ g, ∀ b ∈ h, Apart t a b) : Apart t m n := by
  intro hmn
  obtain ⟨a, ha, hkind, hend⟩ := hm.exists_end
  obtain ⟨b, hb, hposition⟩ := hn.exists_position
  obtain ⟨hkind', hstart⟩ := comparePosition_eq_iff.1 hposition
  have hlt := hapart a ha b hb ((hkind.trans hmn).trans hkind'.symm)
  rw [hend, hstart] at hlt
  exact hlt

/-- **Correlation gives separated findings.** -/
theorem separated_correlate (c : CorrelationConfig ν)
    (hlines : ∀ f ∈ l, f.location.startLine ≤ f.location.endLine) :
    Separated c.lineTolerance (correlate c l) where
  lines m hm := by
    obtain ⟨g, hg, hstands⟩ := exists_left_of_forall₂ (forall₂_standsFor_correlate c l) hm
    exact hstands.ordered fun f hf => hlines f (mem_chains_sort.1 ⟨g, hg, hf⟩)
  ascending := pairwise_position_correlate c hlines
  unlinked :=
    pairwise_of_forall₂ (fun hm hn hapart => (hm.apart hn hapart).not_linked)
      (forall₂_standsFor_correlate c l) (pairwise_apart_chains hlines)

/-- **Correlation is idempotent.**  Its findings stand in strictly ascending order of type, file
and first line, and no two of them are linked; correlating them again gives the same list, and the
statistics say that there was nothing to merge.  The rate is computed with doubles, from the length
of a list, which fits into a machine word. -/
theorem correlate_idempotent {l : List (Finding Float)} (c : CorrelationConfig Float)
    (hlines : ∀ f ∈ l, f.location.startLine ≤ f.location.endLine) :
    (correlate c l).Pairwise (fun m n => m.comparePosition n = .lt) ∧
      (correlate c l).Pairwise (fun m n => ¬ Linked c.lineTolerance m n) ∧
      correlate c (correlate c l) = correlate c l ∧
      (correlationStats c (correlate c l)).input = (correlate c l).length ∧
      (correlationStats c (correlate c l)).output = (correlate c l).length ∧
      (correlationStats c (correlate c l)).mergedGroups = 0 ∧
      (l.length < 2 ^ 64 → (correlationStats c (correlate c l)).dedupRate = 0) := by
  have hseparated := separated_correlate c hlines
  rw [correlationStats_of_separated hseparated]
  exact ⟨hseparated.ascending, hseparated.unlinked, correlate_eq_self hseparated, rfl, rfl, rfl,
    fun hlength => dedupRate_self ((length_correlate_le c l).trans_lt hlength)⟩

/-- A finding that contains the next one and so reaches a third; one just out of its reach; and one
at the last line that a location can hold, with the tolerance beyond it. -/
def nestedLines : List (Finding Float) :=
  [⟨"z", "leak", .low, 0.5, ⟨"m.c", 24, 24, none⟩, "", .singleton "first", .pending, none, none⟩,
    ⟨"y", "leak", .high, 0.5, ⟨"m.c", 1, 21, none⟩, "", .singleton "second", .pending, none, none⟩,
    ⟨"x", "leak", .low, 0.9, ⟨"m.c", 5, 6, none⟩, "", .singleton "first", .pending, none, none⟩,
    ⟨"w", "leak", .low, 0.5, ⟨"m.c", 28, 28, none⟩, "", .singleton "first", .pending, none, none⟩,
    ⟨"v", "leak", .low, 0.5, ⟨"m.c", 4294967290, 4294967295, none⟩, "", .singleton "first",
      .pending, none, none⟩]

theorem correlate_idempotent_nestedLines :
    (∀ f ∈ nestedLines, f.location.startLine ≤ f.location.endLine) ∧
      (correlate .standard nestedLines).Pairwise (fun m n => m.comparePosition n = .lt) ∧
      (correlate .standard nestedLines).Pairwise (fun m n => ¬ Linked 3 m n) ∧
      correlate .standard (correlate .standard nestedLines) = correlate .standard nestedLines ∧
      (correlationStats .standard (correlate .standard nestedLines)).output =
        (correlationStats .standard (correlate .standard nestedLines)).input ∧
      (correlationStats .standard (correlate .standard nestedLines)).mergedGroups = 0 ∧
      (correlationStats .standard (correlate .standard nestedLines)).dedupRate = 0 := by
  have hlines : ∀ f ∈ nestedLines, f.location.startLine ≤ f.location.endLine := by decide
  obtain ⟨hascending, hunlinked, hagain, hinput, houtput, hmerged, hrate⟩ :=
    correlate_idempotent .standard hlines
  exact ⟨hlines, hascending, hunlinked, hagain, houtput.trans hinput.symm, hmerged,
    hrate (by decide)⟩

end Vigil.Correlate
