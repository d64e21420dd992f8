import Mathlib.Data.List.Pairwise
import Mathlib.Logic.Relation
import Vigil.Proofs.Correlate.Merge

/-!
# Correlation computes single-linkage clusters

Findings of a list are *connected* if links lead from one to the other.  The walk through the
sorted list looks at each finding once and compares it with the lines of one chain only; that its
chains are nevertheless the classes of the transitive relation is what this file proves.

* `connected_of_chained` -- within a chain all members are connected, since it grew by links;
* `mem_of_connected` -- no link leads out of a chain, since different chains are apart;
* `isClustering_chains` -- so the chains are the connected components (`IsClustering`);
* `correlate_clusters` -- **the main result**: one finding for each component, in strictly
  ascending order of type, file and first line, with the statistics that belong to it.  No two
  findings need have different ids.
-/

namespace Vigil.Correlate

open Finding

variable {ν : Type} {t : UInt32} {l : List (Finding ν)}

/-! ## Connected findings -/

/-- Two findings of a list that are linked. -/
def LinkedIn (t : UInt32) (l : List (Finding ν)) (a b : Finding ν) : Prop :=
  a ∈ l ∧ b ∈ l ∧ Linked t a b

/-- Links of the list lead from the first finding to the second. -/
def Connected (t : UInt32) (l : List (Finding ν)) : Finding ν → Finding ν → Prop :=
  Relation.ReflTransGen (LinkedIn t l)

instance symm_linkedIn : Std.Symm (LinkedIn t l) where
  symm _ _ h := ⟨h.2.1, h.1, h.2.2.symm⟩

theorem Connected.symm {a b : Finding ν} (h : Connected t l a b) : Connected t l b a :=
  Relation.ReflTransGen.stdSymm.symm a b h

/-- The members of a chain of the list are connected. -/
theorem connected_of_chained {c : List (Finding ν)} (hc : Chained t c) (hsub : ∀ f ∈ c, f ∈ l) :
    ∀ a ∈ c, ∀ b ∈ c, Connected t l a b := by
  induction hc with
  | single f =>
    intro a ha b hb
    rw [List.mem_singleton.1 ha, List.mem_singleton.1 hb]
    exact Relation.ReflTransGen.refl
  | @snoc c x f _ hx hlink ih =>
    have hold : ∀ a ∈ c, ∀ b ∈ c, Connected t l a b :=
      ih fun g hg => hsub g (List.mem_append_left _ hg)
    -- The new member is reached through the one it is linked to.
    have hnew : ∀ a ∈ c, Connected t l a f := fun a ha =>
      (hold a ha x hx).tail ⟨hsub x (List.mem_append_left _ hx), hsub f (by simp), hlink⟩
    intro a ha b hb
    rcases List.mem_append.1 ha with ha | ha <;> rcases List.mem_append.1 hb with hb | hb
    · exact hold a ha b hb
    · rw [List.mem_singleton.1 hb]
      exact hnew a ha
    · rw [List.mem_singleton.1 ha]
      exact (hnew b hb).symm
    · rw [List.mem_singleton.1 ha, List.mem_singleton.1 hb]
      exact Relation.ReflTransGen.refl

variable {gs : List (List (Finding ν))}

/-- No member of the first group is linked to one of the second. -/
def Unlinked (t : UInt32) (g h : List (Finding ν)) : Prop :=
  ∀ a ∈ g, ∀ b ∈ h, ¬ Linked t a b

instance symm_unlinked : Std.Symm (Unlinked (ν := ν) t) where
  symm _ _ hgh b hb a ha hba := hgh a ha b hb hba.symm

/-- Linked findings are in the same group, if different groups are apart. -/
theorem mem_of_linked (hapart : gs.Pairwise fun g h => ∀ a ∈ g, ∀ b ∈ h, Apart t a b)
    {g h : List (Finding ν)} (hg : g ∈ gs) (hh : h ∈ gs) {a b : Finding ν} (ha : a ∈ g)
    (hb : b ∈ h) (hlink : Linked t a b) : b ∈ g := by
  by_cases he : g = h
  · rw [he]
    exact hb
  · have hnot : gs.Pairwise (Unlinked t) :=
      hapart.imp fun hgh a ha b hb => (hgh a ha b hb).not_linked
    exact absurd hlink (hnot.forall hg hh he a ha b hb)

/-- **No link leads out of a group.** -/
theorem mem_of_connected (hapart : gs.Pairwise fun g h => ∀ a ∈ g, ∀ b ∈ h, Apart t a b)
    (hall : ∀ f ∈ l, ∃ g ∈ gs, f ∈ g) {g : List (Finding ν)} (hg : g ∈ gs) {a b : Finding ν}
    (ha : a ∈ g) (hab : Connected t l a b) : b ∈ g := by
  induction hab with
  | refl => exact ha
  | @tail x y _ hxy ih =>
    obtain ⟨-, hy, hlink⟩ := hxy
    obtain ⟨h, hh, hyh⟩ := hall y hy
    exact mem_of_linked hapart hg hh ih hyh hlink

/-! ## Components -/

/-- The groups are the connected components of a list: each finding is in one group, together with
all findings it is connected to. -/
structure IsClustering (t : UInt32) (l : List (Finding ν)) (gs : List (List (Finding ν))) :
    Prop where
  perm : gs.flatten.Perm l
  ne_nil : ∀ g ∈ gs, g ≠ []
  mem_iff : ∀ g ∈ gs, ∀ a ∈ g, ∀ b ∈ l, b ∈ g ↔ Connected t l a b
  separate : gs.Pairwise fun g h => ∀ a ∈ g, ∀ b ∈ h, ¬ Connected t l a b

/-- The chains of the sorted list are its connected components. -/
theorem isClustering_chains (hlines : ∀ f ∈ l, f.location.startLine ≤ f.location.endLine) :
    IsClustering t l (chains t (sort l)) := by
  have hapart := pairwise_apart_chains (t := t) hlines
  have hall : ∀ f ∈ l, ∃ g ∈ chains t (sort l), f ∈ g := fun f hf => mem_chains_sort.2 hf
  have hmem : ∀ g ∈ chains t (sort l), ∀ f ∈ g, f ∈ l :=
    fun g hg f hf => mem_chains_sort.1 ⟨g, hg, hf⟩
  refine ⟨?_, fun g hg => ne_nil_of_mem_chains hg, fun g hg a ha b _ => ⟨fun hb => ?_, ?_⟩, ?_⟩
  · rw [flatten_chains]
    exact perm_sort l
  · exact connected_of_chained (chained_of_mem_chains hlines hg) (hmem g hg) a ha b hb
  · exact mem_of_connected hapart hall hg ha
  · -- A finding that is connected to a later chain belongs to that chain, apart from itself.
    refine hapart.imp_of_mem fun {g h} hg hh hgh a ha b hb hab => ?_
    have hbg : b ∈ g := mem_of_connected hapart hall hg ha hab
    have hlt := hgh b hbg b hb SameKind.rfl
    have hle := UInt32.le_iff_toNat_le.1 (hlines b (hmem h hh b hb))
    omega

/-! ## The findings of correlation -/

variable [Quantity ν]

/-- The findings of correlation stand in strictly ascending order of their positions. -/
theorem pairwise_position_correlate (c : CorrelationConfig ν)
    (hlines : ∀ f ∈ l, f.location.startLine ≤ f.location.endLine) :
    (correlate c l).Pairwise fun m n => m.comparePosition n = .lt := by
  have hle := pairwise_position_chains c.lineTolerance l
  have hlt : (chains c.lineTolerance (sort l)).Pairwise
      fun g h => ∀ a ∈ g, ∀ b ∈ h, a.comparePosition b = .lt := by
    refine (hle.and (pairwise_apart_chains hlines)).imp_of_mem ?_
    intro g h hg hh ⟨hpos, hapart⟩ a ha b hb
    refine (Ordering.isLE_iff_eq_lt_or_eq_eq.1 (hpos a ha b hb)).resolve_right fun heq => ?_
    -- Two findings at one position overlap.
    obtain ⟨hk, hstart⟩ := comparePosition_eq_iff.1 heq
    have hlines' := UInt32.le_iff_toNat_le.1 (hlines a (mem_chains_sort.1 ⟨g, hg, ha⟩))
    have hend := hapart a ha b hb hk
    rw [hstart] at hlines'
    omega
  refine pairwise_of_forall₂ ?_ (forall₂_standsFor_correlate c l) hlt
  intro g h m n hm hn hgh
  obtain ⟨a, ha, ham⟩ := hm.exists_position
  obtain ⟨b, hb, hbn⟩ := hn.exists_position
  rw [← Std.TransCmp.congr_left ham, ← Std.TransCmp.congr_right hbn]
  exact hgh a ha b hb

/-- **Correlation computes exactly the single-linkage clusters.**  Each connected component of the
list gives one finding, the only member itself or what there is to say about several; the findings
stand in strictly ascending order of type, file and first line; and the statistics count the list,
the components, and the components of more than one member. -/
theorem correlate_clusters (c : CorrelationConfig ν)
    (hlines : ∀ f ∈ l, f.location.startLine ≤ f.location.endLine) :
    ∃ gs, IsClustering c.lineTolerance l gs ∧ List.Forall₂ (StandsFor c) gs (correlate c l) ∧
      (correlate c l).Pairwise (fun m n => m.comparePosition n = .lt) ∧
      correlationStats c l =
        ⟨l.length, gs.length, gs.countP (1 < ·.length), dedupRate l.length gs.length⟩ := by
  have hstands := forall₂_standsFor_correlate c l
  refine ⟨chains c.lineTolerance (sort l), isClustering_chains hlines, hstands,
    pairwise_position_correlate c hlines, ?_⟩
  rw [hstands.length_eq]
  rfl

/-- Findings of two agents that follow each other in steps of three lines up to the last line that
a location can hold, where the tolerance leaves the range of lines. -/
def lastLines : List (Finding Float) :=
  [⟨"a", "overflow", .high, 0.5, ⟨"m.c", 4294967295, 4294967295, none⟩, "", .singleton "first",
      .pending, none, none⟩,
    ⟨"b", "overflow", .low, 0.7, ⟨"m.c", 4294967289, 4294967290, none⟩, "", .singleton "second",
      .pending, none, none⟩,
    ⟨"c", "overflow", .medium, 0.5, ⟨"m.c", 4294967293, 4294967293, some "f"⟩, "",
      .singleton "first", .pending, none, none⟩]

theorem correlate_clusters_lastLines :
    (∀ f ∈ lastLines, f.location.startLine ≤ f.location.endLine) ∧
      ∃ gs, IsClustering 3 lastLines gs ∧
        List.Forall₂ (StandsFor .standard) gs (correlate .standard lastLines) ∧
        (correlate .standard lastLines).Pairwise (fun m n => m.comparePosition n = .lt) ∧
        correlationStats .standard lastLines =
          ⟨3, gs.length, gs.countP (1 < ·.length), dedupRate 3 gs.length⟩ := by
  have hlines : ∀ f ∈ lastLines, f.location.startLine ≤ f.location.endLine := by decide
  exact ⟨hlines, correlate_clusters .standard hlines⟩

end Vigil.Correlate
