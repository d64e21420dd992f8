import Vigil.Finding.Correlate
import Vigil.Proofs.Normalize.Identity

/-!
# The order in which findings are walked through

The findings are sorted by type, file, lines and id before they are split into chains.  What is
proved here:

* `transCmp_order` -- the order is a total preorder, so that sorting really sorts (`pairwise_sort`);
* `pairwise_position_sort` -- read through its first three keys only, the sorted list ascends by
  *position*, that is, by type, file and first line;
* `SameKind.of_between` -- the findings of one type in one file stand together in that order;
* `sort_eq_of_perm` -- lists with the same members are sorted in the same way, as soon as different
  members differ in some key.

The agents of a run finish in any order, so the findings that they report come in any order.  The
sorted list is the same for all these orders, unless two different findings tie in all five keys.
What excludes such a tie is not the id alone: ids of different agents may well be equal, as long as
their types or files differ.

* `eq_of_order_eq_eq` -- findings from the batches of different agents that tie are one finding;
* `correlate_eq_of_perm` -- **the main result**: the findings of correlation and its statistics are
  the same for every order of what the agents reported.
-/

namespace Vigil

variable {ν : Type}

namespace Finding

/-! ## Findings of one kind -/

/-- Two findings of one type in one file. -/
def SameKind (a b : Finding ν) : Prop :=
  a.findingType = b.findingType ∧ a.location.file = b.location.file

theorem SameKind.rfl {a : Finding ν} : SameKind a a := ⟨Eq.refl _, Eq.refl _⟩

theorem SameKind.symm {a b : Finding ν} (h : SameKind a b) : SameKind b a :=
  ⟨h.1.symm, h.2.symm⟩

theorem SameKind.trans {a b c : Finding ν} (h : SameKind a b) (k : SameKind b c) :
    SameKind a c :=
  ⟨h.1.trans k.1, h.2.trans k.2⟩

/-- The first finding is of the kind of the second, and its lines lie within the second's. -/
structure IsWithin (f m : Finding ν) : Prop where
  kind : SameKind f m
  start_le : m.location.startLine ≤ f.location.startLine
  le_end : f.location.endLine ≤ m.location.endLine

theorem IsWithin.refl (f : Finding ν) : IsWithin f f :=
  ⟨SameKind.rfl, Std.le_refl _, Std.le_refl _⟩

theorem IsWithin.trans {f g h : Finding ν} (hfg : IsWithin f g) (hgh : IsWithin g h) :
    IsWithin f h where
  kind := hfg.kind.trans hgh.kind
  start_le := Std.le_trans hgh.start_le hfg.start_le
  le_end := Std.le_trans hfg.le_end hgh.le_end

/-- The order of findings by type and file. -/
def compareKind (a b : Finding ν) : Ordering :=
  (compare a.findingType b.findingType).then (compare a.location.file b.location.file)

instance transCmp_compareKind : Std.TransCmp (compareKind (ν := ν)) :=
  inferInstanceAs <| Std.TransCmp <|
    compareLex (compareOn fun f : Finding ν => f.findingType) (compareOn fun f => f.location.file)

theorem compareKind_eq_iff {a b : Finding ν} : compareKind a b = .eq ↔ SameKind a b := by
  simp only [compareKind, SameKind, Ordering.then_eq_eq, Std.LawfulEqOrd.compare_eq_iff_eq]

/-! ## Positions -/

/-- The order of findings by type, file and first line. -/
def comparePosition (a b : Finding ν) : Ordering :=
  (compareKind a b).then (compare a.location.startLine b.location.startLine)

instance transCmp_comparePosition : Std.TransCmp (comparePosition (ν := ν)) :=
  inferInstanceAs <| Std.TransCmp <|
    compareLex compareKind (compareOn fun f : Finding ν => f.location.startLine)

theorem comparePosition_eq_iff {a b : Finding ν} :
    comparePosition a b = .eq ↔ SameKind a b ∧ a.location.startLine = b.location.startLine := by
  simp only [comparePosition, Ordering.then_eq_eq, compareKind_eq_iff,
    Std.LawfulEqOrd.compare_eq_iff_eq]

/-- Findings of one kind are positioned by their first lines. -/
theorem SameKind.isLE_comparePosition_iff {a b : Finding ν} (h : SameKind a b) :
    (a.comparePosition b).isLE = true ↔
      a.location.startLine.toNat ≤ b.location.startLine.toNat := by
  rw [comparePosition, compareKind_eq_iff.2 h, Ordering.eq_then, Std.isLE_compare,
    UInt32.le_iff_toNat_le]

/-- What stands between two findings of one kind is of that kind. -/
theorem SameKind.of_between {a f b : Finding ν} (h : SameKind a b)
    (haf : (a.comparePosition f).isLE = true) (hfb : (f.comparePosition b).isLE = true) :
    SameKind a f := by
  have hle : (a.compareKind f).isLE = true := Ordering.isLE_left_of_isLE_then haf
  have hba : (b.compareKind a).isLE = true :=
    Ordering.isLE_of_eq_eq (compareKind_eq_iff.2 h.symm)
  have hge : (f.compareKind a).isLE = true :=
    Std.TransCmp.isLE_trans (Ordering.isLE_left_of_isLE_then hfb) hba
  exact compareKind_eq_iff.1 (Std.OrientedCmp.isLE_antisymm hle hge)

end Finding

namespace Correlate

open Finding

/-! ## The full order -/

instance transCmp_order : Std.TransCmp (order (ν := ν)) :=
  inferInstanceAs <| Std.TransCmp <|
    compareLex (compareOn fun f : Finding ν => f.findingType) <|
    compareLex (compareOn fun f => f.location.file) <|
    compareLex (compareOn fun f => f.location.startLine) <|
    compareLex (compareOn fun f => f.location.endLine) (compareOn fun f => f.id)

/-- Findings tie only if they agree in all five keys. -/
theorem order_eq_iff {a b : Finding ν} :
    order a b = .eq ↔ SameKind a b ∧ a.location.startLine = b.location.startLine ∧
      a.location.endLine = b.location.endLine ∧ a.id = b.id := by
  simp only [order, SameKind, Ordering.then_eq_eq, Std.LawfulEqOrd.compare_eq_iff_eq, and_assoc]

/-- The full order refines the order by position. -/
theorem isLE_comparePosition_of_order {a b : Finding ν} (h : (order a b).isLE = true) :
    (a.comparePosition b).isLE = true := by
  rw [order, ← Ordering.then_assoc, ← Ordering.then_assoc] at h
  exact Ordering.isLE_left_of_isLE_then h

/-! ## The sorted list -/

theorem perm_sort (l : List (Finding ν)) : (sort l).Perm l :=
  List.mergeSort_perm l _

theorem mem_sort {f : Finding ν} {l : List (Finding ν)} : f ∈ sort l ↔ f ∈ l :=
  (perm_sort l).mem_iff

theorem pairwise_sort (l : List (Finding ν)) :
    (sort l).Pairwise fun a b => (order a b).isLE = true := by
  refine List.pairwise_mergeSort (fun a b c => Std.TransCmp.isLE_trans) (fun a b => ?_) l
  rcases h : order a b with _ | _ | _
  · simp
  · simp
  · have hba : order b a = .lt := Std.OrientedCmp.lt_of_gt h
    simp [hba]

/-- The sorted list ascends by position. -/
theorem pairwise_position_sort (l : List (Finding ν)) :
    (sort l).Pairwise fun a b => (a.comparePosition b).isLE = true :=
  (pairwise_sort l).imp isLE_comparePosition_of_order

/-- Where no two members tie, the sorted list does not depend on the order of the list. -/
theorem sort_eq_of_perm {l l' : List (Finding ν)} (h : l.Perm l')
    (hinj : ∀ a ∈ l, ∀ b ∈ l, order a b = .eq → a = b) : sort l = sort l' := by
  refine List.Perm.eq_of_pairwise ?_ (pairwise_sort l) (pairwise_sort l') ?_
  · intro a b ha hb hab hba
    have hbl : b ∈ l := h.mem_iff.2 (mem_sort.1 hb)
    exact hinj a (mem_sort.1 ha) b hbl (Std.OrientedCmp.isLE_antisymm hab hba)
  · exact (perm_sort l).trans (h.trans (perm_sort l').symm)

end Correlate

/-! ## Findings of several agents -/

section

variable [Quantity ν] {batches : List (String × List (RawFinding ν))}

/-- What several agents reported, as findings, one agent after the other. -/
def collected (batches : List (String × List (RawFinding ν))) : List (Finding ν) :=
  batches.flatMap fun b => (normalize b.1 b.2).findings

namespace Correlate

open Finding Normalize

/-- The findings of two batches tie only if their agents are the same. -/
theorem agent_eq_of_order_eq_eq {agent agent' : String} {batch batch' : List (RawFinding ν)}
    {f g : Finding ν} (hf : f ∈ (normalize agent batch).findings)
    (hg : g ∈ (normalize agent' batch').findings) (h : order f g = .eq) : agent = agent' := by
  obtain ⟨r, -, f, m, hrf, rfl⟩ := exists_of_mem_normalize hf
  obtain ⟨s, -, g, n, hsg, rfl⟩ := exists_of_mem_normalize hg
  obtain ⟨⟨htype, hfile⟩, hstart, -, hid⟩ := order_eq_iff.1 h
  simp only at htype hfile hstart hid
  rw [(reported_of_one hrf).id, (reported_of_one hsg).id] at hid
  obtain ⟨hbase, -⟩ := ordinalId_inj hid
  rw [htype] at hbase
  exact baseId_agent_inj hfile hstart hbase

/-- **Reported findings that tie are one finding.** -/
theorem eq_of_order_eq_eq (hagents : (batches.map (·.1)).Nodup) {f g : Finding ν}
    (hf : f ∈ collected batches) (hg : g ∈ collected batches) (h : order f g = .eq) : f = g := by
  obtain ⟨b, hb, hfb⟩ := List.mem_flatMap.1 hf
  obtain ⟨b', hb', hgb⟩ := List.mem_flatMap.1 hg
  have hagent : b.1 = b'.1 := agent_eq_of_order_eq_eq hfb hgb h
  obtain rfl := List.inj_on_of_nodup_map hagents hb hb' hagent
  -- Within one batch the id is enough.
  obtain ⟨-, -, -, hid⟩ := order_eq_iff.1 h
  exact List.inj_on_of_nodup_map (nodup_ids_normalize b.1 b.2) hfb hgb hid

/-- **Correlation does not depend on the order in which agents finish.** -/
theorem correlate_eq_of_perm (c : CorrelationConfig ν) (hagents : (batches.map (·.1)).Nodup)
    {l : List (Finding ν)} (h : l.Perm (collected batches)) :
    correlate c l = correlate c (collected batches) ∧
      correlationStats c l = correlationStats c (collected batches) := by
  have hsort : sort l = sort (collected batches) :=
    sort_eq_of_perm h fun f hf g hg =>
      eq_of_order_eq_eq hagents (h.mem_iff.1 hf) (h.mem_iff.1 hg)
  constructor
  · rw [correlate, correlate, hsort]
  · rw [correlationStats, correlationStats, hsort, h.length_eq]

/-- Two agents one of which bears a name that could be the beginning of the other's ids, and a
record that comes twice. -/
def nestedNames : List (String × List (RawFinding Float)) :=
  let lock : RawFields Float :=
    { findingType := some "race:lock", file := some "m.c", line := some 7 }
  [("scan", [.record lock, .record lock]),
    ("scan:race", [.record { lock with findingType := some "lock" }])]

theorem correlate_eq_of_perm_nestedNames :
    (nestedNames.map (·.1)).Nodup ∧
      (collected nestedNames).reverse.Perm (collected nestedNames) ∧
      correlate .standard (collected nestedNames).reverse =
        correlate .standard (collected nestedNames) ∧
      correlationStats .standard (collected nestedNames).reverse =
        correlationStats .standard (collected nestedNames) := by
  have hagents : (nestedNames.map (·.1)).Nodup := by decide
  have hperm : (collected nestedNames).reverse.Perm (collected nestedNames) :=
    List.reverse_perm _
  exact ⟨hagents, hperm, correlate_eq_of_perm .standard hagents hperm⟩

end Correlate

end

end Vigil
