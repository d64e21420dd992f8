import Vigil.Proofs.Correlate.Idempotent

/-!
# Correlation can be done bit by bit

Findings that come later may be correlated with the results of an earlier correlation instead of
with the findings that went into them.  A result covers all lines between those of its members, so
it might seem to be linked to findings that none of its members is linked to.  It is not:

* `Chained.exists_linked` -- the lines of a chain have no gap in which a finding could lie without
  being linked to a member;
* `connected_iff` -- findings are connected exactly if what they are part of is connected, so that
  the chains of the second correlation consist of the members of the chains that all findings make
  together (`mem_iff_exists_isFrom`);
* `Chooses.flatten` -- the least of some least values is the least of all, and so with each field
  that a result takes from its members by choice (`Outlines`);
* `correlate_correlate_append` -- **the main result**: the results of both ways are the same, field
  by field, but for what depends on the number of agents that were counted together and on the
  member that leads.
-/

namespace Vigil

variable {ν : Type}

/-- The findings agree in everything but the confidence and what comes from the leading member. -/
structure Finding.SameIssue (m n : Finding ν) : Prop where
  id : m.id = n.id
  findingType : m.findingType = n.findingType
  location : m.location = n.location
  agents : m.agents = n.agents
  severity : m.severity = n.severity
  adjustedSeverity : m.adjustedSeverity = n.adjustedSeverity

theorem Location.eq_of_fields {a b : Location} (hfile : a.file = b.file)
    (hstart : a.startLine = b.startLine) (hend : a.endLine = b.endLine)
    (hfunction : a.function = b.function) : a = b := by
  cases a
  cases b
  simp only at hfile hstart hend hfunction
  rw [hfile, hstart, hend, hfunction]

namespace Correlate

open Finding

variable {t : UInt32}

/-! ## The lines of a chain have no gap -/

/-- A finding that begins before a chain ends and ends after it begins, within the tolerance, is
linked to a member. -/
theorem Chained.exists_linked {g : List (Finding ν)} (h : Chained t g) {y : Finding ν}
    (hy : y.location.startLine ≤ y.location.endLine) (hkind : ∀ x ∈ g, SameKind x y)
    {a b : Finding ν} (ha : a ∈ g) (hb : b ∈ g)
    (hay : a.location.startLine.toNat ≤ y.location.endLine.toNat + t.toNat)
    (hyb : y.location.startLine.toNat ≤ b.location.endLine.toNat + t.toNat) :
    ∃ x ∈ g, Linked t x y := by
  have hlines := UInt32.le_iff_toNat_le.1 hy
  induction h generalizing a b with
  | single f =>
    rw [List.mem_singleton.1 ha] at hay
    rw [List.mem_singleton.1 hb] at hyb
    have hf : f ∈ [f] := List.mem_singleton.2 rfl
    exact ⟨f, hf, linked_iff.2 ⟨hkind f hf, hay, hyb⟩⟩
  | @snoc c p f _ hp hlink ih =>
    obtain ⟨-, hpf, hfp⟩ := linked_iff.1 hlink
    have hlast : f ∈ c ++ [f] := List.mem_append_right _ (List.mem_singleton.2 rfl)
    have earlier {a b : Finding ν} (ha : a ∈ c) (hb : b ∈ c)
        (hay : a.location.startLine.toNat ≤ y.location.endLine.toNat + t.toNat)
        (hyb : y.location.startLine.toNat ≤ b.location.endLine.toNat + t.toNat) :
        ∃ x ∈ c ++ [f], Linked t x y := by
      obtain ⟨x, hx, hxy⟩ := ih (fun x hx => hkind x (List.mem_append_left _ hx)) ha hb hay hyb
      exact ⟨x, List.mem_append_left _ hx, hxy⟩
    -- If `f` lies wholly before or behind `y`, then `p` reaches as far towards `y`.
    rcases List.mem_append.1 ha with ha | ha <;> rcases List.mem_append.1 hb with hb | hb
    · exact earlier ha hb hay hyb
    · rw [List.mem_singleton.1 hb] at hyb
      by_cases hfy : f.location.startLine.toNat ≤ y.location.endLine.toNat + t.toNat
      · exact ⟨f, hlast, linked_iff.2 ⟨hkind f hlast, hfy, hyb⟩⟩
      · exact earlier ha hp hay (by omega)
    · rw [List.mem_singleton.1 ha] at hay
      by_cases hyf : y.location.startLine.toNat ≤ f.location.endLine.toNat + t.toNat
      · exact ⟨f, hlast, linked_iff.2 ⟨hkind f hlast, hay, hyf⟩⟩
      · exact earlier hp hb (by omega) hyb
    · rw [List.mem_singleton.1 ha] at hay
      rw [List.mem_singleton.1 hb] at hyb
      exact ⟨f, hlast, linked_iff.2 ⟨hkind f hlast, hay, hyb⟩⟩

/-- Findings are linked if they cover linked ones. -/
theorem Linked.of_isWithin {x y r s : Finding ν} (h : Linked t x y) (hx : x.IsWithin r)
    (hy : y.IsWithin s) : Linked t r s := by
  obtain ⟨hkind, hxy, hyx⟩ := linked_iff.1 h
  have hxr := UInt32.le_iff_toNat_le.1 hx.start_le
  have hxr' := UInt32.le_iff_toNat_le.1 hx.le_end
  have hys := UInt32.le_iff_toNat_le.1 hy.start_le
  have hys' := UInt32.le_iff_toNat_le.1 hy.le_end
  exact linked_iff.2 ⟨(hx.kind.symm.trans hkind).trans hy.kind, by omega, by omega⟩

section Results

variable [Quantity ν] {c : CorrelationConfig ν} {g : List (Finding ν)} {m : Finding ν}

/-- What is linked to the finding for a chain is linked to a member. -/
theorem StandsFor.exists_linked (h : StandsFor c g m) (hchained : Chained t g) {y : Finding ν}
    (hy : y.location.startLine ≤ y.location.endLine) (hlink : Linked t m y) :
    ∃ x ∈ g, Linked t x y := by
  obtain ⟨first, hfirst, hposition⟩ := h.exists_position
  obtain ⟨last, hlast, -, hend⟩ := h.exists_end
  obtain ⟨-, hstart⟩ := comparePosition_eq_iff.1 hposition
  obtain ⟨hkind, hmy, hym⟩ := linked_iff.1 hlink
  exact hchained.exists_linked hy (fun x hx => (h.isWithin hx).kind.trans hkind) hfirst hlast
    (hstart ▸ hmy) (hend ▸ hym)

/-! ## Where the findings of the second correlation come from -/

/-- The finding `r` is what the first correlation made of the findings `g`, or it is one that came
later, and all there is of `g`. -/
def IsFrom (c : CorrelationConfig ν) (xs ys g : List (Finding ν)) (r : Finding ν) : Prop :=
  g ∈ chains c.lineTolerance (sort xs) ∧ r ∈ mergeChain c g ∨ g = [r] ∧ r ∈ ys

variable {xs ys : List (Finding ν)} {r s x y : Finding ν} {k : List (Finding ν)}

theorem IsFrom.standsFor (h : IsFrom c xs ys g r) : StandsFor c g r := by
  rcases h with ⟨hg, hr⟩ | ⟨rfl, -⟩
  · obtain ⟨m, hm, hstands⟩ := standsFor_mergeChain c (ne_nil_of_mem_chains hg)
      fun _ hx _ hy => sameKind_of_mem_chains hg hx hy
    rw [hm] at hr
    rw [List.mem_singleton.1 hr]
    exact hstands
  · exact Or.inl rfl

theorem IsFrom.mem (h : IsFrom c xs ys g r) : r ∈ correlate c xs ++ ys := by
  rcases h with ⟨hg, hr⟩ | ⟨-, hr⟩
  · exact List.mem_append_left _ (List.mem_flatMap.2 ⟨g, hg, hr⟩)
  · exact List.mem_append_right _ hr

theorem IsFrom.subset (h : IsFrom c xs ys g r) (hx : x ∈ g) : x ∈ xs ++ ys := by
  rcases h with ⟨hg, -⟩ | ⟨rfl, hr⟩
  · exact List.mem_append_left _ (mem_chains_sort.1 ⟨g, hg, hx⟩)
  · rw [List.mem_singleton.1 hx]
    exact List.mem_append_right _ hr

theorem exists_isFrom (hr : r ∈ correlate c xs ++ ys) : ∃ g, IsFrom c xs ys g r := by
  rcases List.mem_append.1 hr with hr | hr
  · obtain ⟨g, hg, hrg⟩ := List.mem_flatMap.1 hr
    exact ⟨g, Or.inl ⟨hg, hrg⟩⟩
  · exact ⟨[r], Or.inr ⟨rfl, hr⟩⟩

theorem exists_isFrom_of_mem (hx : x ∈ xs ++ ys) : ∃ r g, IsFrom c xs ys g r ∧ x ∈ g := by
  rcases List.mem_append.1 hx with hx | hx
  · obtain ⟨g, hg, hxg⟩ := mem_chains_sort.2 hx
    obtain ⟨m, hm, -⟩ := standsFor_mergeChain c (ne_nil_of_mem_chains hg)
      fun _ hx _ hy => sameKind_of_mem_chains hg hx hy
    exact ⟨m, g, Or.inl ⟨hg, hm ▸ List.mem_singleton.2 rfl⟩, hxg⟩
  · exact ⟨x, [x], Or.inr ⟨rfl, hx⟩, List.mem_singleton.2 rfl⟩

/-! ## Connections survive the first correlation -/

section Connections

variable (hlines : ∀ f ∈ xs ++ ys, f.location.startLine ≤ f.location.endLine)

include hlines

theorem IsFrom.chained (h : IsFrom c xs ys g r) : Chained c.lineTolerance g := by
  rcases h with ⟨hg, -⟩ | ⟨rfl, -⟩
  · exact chained_of_mem_chains (fun f hf => hlines f (List.mem_append_left _ hf)) hg
  · exact Chained.single r

theorem lines_of_mem (hr : r ∈ correlate c xs ++ ys) :
    r.location.startLine ≤ r.location.endLine := by
  obtain ⟨g, hg⟩ := exists_isFrom hr
  exact hg.standsFor.ordered fun f hf => hlines f (hg.subset hf)

/-- What is linked to a finding of the second correlation is connected to all it comes from. -/
theorem IsFrom.connected_of_linked (h : IsFrom c xs ys g r) (hx : x ∈ g) (hy : y ∈ xs ++ ys)
    (hlink : Linked c.lineTolerance r y) : Connected c.lineTolerance (xs ++ ys) x y := by
  have hchained := h.chained hlines
  obtain ⟨z, hz, hzy⟩ := h.standsFor.exists_linked hchained (hlines y hy) hlink
  exact (connected_of_chained hchained (fun _ hf => h.subset hf) x hx z hz).tail
    ⟨h.subset hz, hy, hzy⟩

/-- All that one finding of the second correlation comes from is connected. -/
theorem IsFrom.connected (h : IsFrom c xs ys g r) (h' : IsFrom c xs ys k r) (hx : x ∈ g)
    (hy : y ∈ k) : Connected c.lineTolerance (xs ++ ys) x y := by
  have hlink : Linked c.lineTolerance y y :=
    ⟨rfl, Location.overlaps_self (hlines y (h'.subset hy)) _⟩
  exact h.connected_of_linked hlines hx (h'.subset hy)
    (hlink.of_isWithin (h'.standsFor.isWithin hy) (IsWithin.refl y))

theorem connected_of_connected_results (hg : IsFrom c xs ys g r) (hk : IsFrom c xs ys k s)
    (hx : x ∈ g) (hy : y ∈ k)
    (h : Connected c.lineTolerance (correlate c xs ++ ys) r s) :
    Connected c.lineTolerance (xs ++ ys) x y := by
  induction h generalizing k y with
  | refl => exact hg.connected hlines hk hx hy
  | @tail p s _ hps ih =>
    obtain ⟨hp, -, hlink⟩ := hps
    obtain ⟨j, hj⟩ := exists_isFrom hp
    -- The link leads from a member of `p` to `s`, and from there to a member of `s`.
    obtain ⟨z, hz, hzs⟩ :=
      hk.standsFor.exists_linked (hk.chained hlines) (lines_of_mem hlines hp) hlink.symm
    obtain ⟨a, ha⟩ := List.exists_mem_of_ne_nil j (hj.chained hlines).ne_nil
    have haz := hj.connected_of_linked hlines ha (hk.subset hz) hzs.symm
    exact ((ih hj ha).trans haz).trans (hk.connected hlines hk hz hy)

theorem connected_results_of_connected (hg : IsFrom c xs ys g r) (hk : IsFrom c xs ys k s)
    (hx : x ∈ g) (hy : y ∈ k) (h : Connected c.lineTolerance (xs ++ ys) x y) :
    Connected c.lineTolerance (correlate c xs ++ ys) r s := by
  have hstep {p q a b} {i j : List (Finding ν)} (hi : IsFrom c xs ys i p)
      (hj : IsFrom c xs ys j q) (ha : a ∈ i) (hb : b ∈ j) (hab : Linked c.lineTolerance a b) :
      LinkedIn c.lineTolerance (correlate c xs ++ ys) p q :=
    ⟨hi.mem, hj.mem, hab.of_isWithin (hi.standsFor.isWithin ha) (hj.standsFor.isWithin hb)⟩
  induction h generalizing k s with
  | refl =>
    have hself : Linked c.lineTolerance x x :=
      ⟨rfl, Location.overlaps_self (hlines x (hg.subset hx)) _⟩
    exact Relation.ReflTransGen.single (hstep hg hk hx hy hself)
  | @tail z y _ hzy ih =>
    obtain ⟨hz, -, hlink⟩ := hzy
    obtain ⟨q, j, hj, hzj⟩ := exists_isFrom_of_mem hz
    exact (ih hj hzj).tail (hstep hj hk hzj hy hlink)

/-- **Findings are connected exactly if what they are part of is.** -/
theorem connected_iff (hg : IsFrom c xs ys g r) (hk : IsFrom c xs ys k s) (hx : x ∈ g)
    (hy : y ∈ k) :
    Connected c.lineTolerance (xs ++ ys) x y ↔
      Connected c.lineTolerance (correlate c xs ++ ys) r s :=
  ⟨connected_results_of_connected hlines hg hk hx hy,
    connected_of_connected_results hlines hg hk hx hy⟩

/-- **A chain of all findings holds what the findings of one chain of the second correlation come
from.** -/
theorem mem_iff_exists_isFrom {all second : List (Finding ν)}
    (hall : all ∈ chains c.lineTolerance (sort (xs ++ ys)))
    (hsecond : second ∈ chains c.lineTolerance (sort (correlate c xs ++ ys)))
    (hg : IsFrom c xs ys g r) (hx : x ∈ g) (hxall : x ∈ all) (hr : r ∈ second) (y : Finding ν) :
    y ∈ all ↔ ∃ s ∈ second, ∃ k, IsFrom c xs ys k s ∧ y ∈ k := by
  have hclusters := isClustering_chains (t := c.lineTolerance) hlines
  have hresults := isClustering_chains (t := c.lineTolerance)
    fun f (hf : f ∈ correlate c xs ++ ys) => lines_of_mem hlines hf
  constructor
  · intro hy
    have hymem : y ∈ xs ++ ys := mem_chains_sort.1 ⟨all, hall, hy⟩
    obtain ⟨s, k, hk, hyk⟩ := exists_isFrom_of_mem hymem
    have hxy := (hclusters.mem_iff all hall x hxall y hymem).1 hy
    refine ⟨s, (hresults.mem_iff second hsecond r hr s hk.mem).2 ?_, k, hk, hyk⟩
    exact (connected_iff hlines hg hk hx hyk).1 hxy
  · rintro ⟨s, hs, k, hk, hyk⟩
    have hrs := (hresults.mem_iff second hsecond r hr s hk.mem).1 hs
    refine (hclusters.mem_iff all hall x hxall y (hk.subset hyk)).2 ?_
    exact (connected_iff hlines hg hk hx hyk).2 hrs

end Connections

end Results

/-! ## Fields that are chosen from several -/

section Choice

variable {α : Type} {R : α → α → Prop} {p : Finding ν → Option α} {S : Set (Finding ν)}
  {m n : Finding ν}

/-- The value `p m` is one of those that the findings of `S` have, the first of them by `R`; there
is none if none of them has any. -/
structure Chooses (R : α → α → Prop) (p : Finding ν → Option α) (S : Set (Finding ν))
    (m : Finding ν) : Prop where
  reaches : ∀ x ∈ S, ∀ a, p x = some a → ∃ b, p m = some b ∧ R b a
  attained : ∀ b, p m = some b → ∃ x ∈ S, p x = some b

/-- **The first of the first values is the first of all.** -/
theorem Chooses.flatten (h : Chooses R p S m) {Q : List (Finding ν) → Finding ν → Prop}
    (hQ : ∀ r ∈ S, ∃ g, Q g r) (hg : ∀ r ∈ S, ∀ g, Q g r → Chooses R p {x | x ∈ g} r)
    (htrans : ∀ {a b d}, R a b → R b d → R a d) :
    Chooses R p {x | ∃ r ∈ S, ∃ g, Q g r ∧ x ∈ g} m where
  reaches := by
    rintro x ⟨r, hr, g, hgr, hx⟩ a ha
    obtain ⟨b, hb, hba⟩ := (hg r hr g hgr).reaches x hx a ha
    obtain ⟨d, hd, hdb⟩ := h.reaches r hr b hb
    exact ⟨d, hd, htrans hdb hba⟩
  attained b hb := by
    obtain ⟨r, hr, hrb⟩ := h.attained b hb
    obtain ⟨g, hgr⟩ := hQ r hr
    obtain ⟨x, hx, hxb⟩ := (hg r hr g hgr).attained b hrb
    exact ⟨x, ⟨r, hr, g, hgr, hx⟩, hxb⟩

/-- What is chosen from the same findings is the same. -/
theorem Chooses.eq (h : Chooses R p S m) (h' : Chooses R p S n)
    (hantisymm : ∀ {a b}, R a b → R b a → a = b) : p m = p n := by
  have hle {m n : Finding ν} (h : Chooses R p S m) (h' : Chooses R p S n) {b : α}
      (hb : p m = some b) : ∃ d, p n = some d ∧ R d b := by
    obtain ⟨x, hx, hxb⟩ := h.attained b hb
    exact h'.reaches x hx b hxb
  cases hm : p m with
  | none =>
    cases hn : p n with
    | none => rfl
    | some d =>
      obtain ⟨b, hb, -⟩ := hle h' h hn
      rw [hm] at hb
      cases hb
  | some b =>
    obtain ⟨d, hd, hdb⟩ := hle h h' hm
    obtain ⟨b', hb', hbd⟩ := hle h' h hd
    obtain rfl := Option.some.inj (hm.symm.trans hb')
    rw [hd, hantisymm hdb hbd]

theorem chooses_self (R : α → α → Prop) (hrefl : ∀ a, R a a) (m : Finding ν) :
    Chooses R p {x | x ∈ [m]} m where
  reaches x hx a ha := by
    rw [List.mem_singleton.1 hx] at ha
    exact ⟨a, ha, hrefl a⟩
  attained b hb := ⟨m, List.mem_singleton.2 rfl, hb⟩

theorem chooses_of_mem {p : Finding ν → α} {g : List (Finding ν)} (hmem : ∃ x ∈ g, p x = p m)
    (hrel : ∀ x ∈ g, R (p m) (p x)) : Chooses R (fun x => some (p x)) {x | x ∈ g} m where
  reaches x hx a ha := ⟨p m, rfl, Option.some.inj ha ▸ hrel x hx⟩
  attained b hb := by
    obtain ⟨x, hx, hxm⟩ := hmem
    exact ⟨x, hx, (congrArg some hxm).trans hb⟩

theorem chooses_of_optional {g : List (Finding ν)} (hnone : p m = none ↔ ∀ x ∈ g, p x = none)
    (hsome : ∀ b, p m = some b →
      (∃ x ∈ g, p x = some b) ∧ ∀ a, (∃ x ∈ g, p x = some a) → R b a) :
    Chooses R p {x | x ∈ g} m where
  reaches x hx a ha := by
    cases hm : p m with
    | none =>
      rw [hnone.1 hm x hx] at ha
      cases ha
    | some b => exact ⟨b, rfl, (hsome b hm).2 a ⟨x, hx, ha⟩⟩
  attained b hb := (hsome b hb).1

end Choice

/-! ## All fields that do not depend on the leading member -/

/-- The finding `m` shows what the findings of `S` come to, as far as neither the confidence nor a
leading member is concerned. -/
structure Outlines (S : Set (Finding ν)) (m : Finding ν) : Prop where
  kind : ∀ x ∈ S, SameKind x m
  agents : ∀ a, a ∈ m.agents ↔ ∃ x ∈ S, a ∈ x.agents
  id : Chooses (fun a b => a ≤ b) (fun x => some x.id) S m
  startLine : Chooses (fun a b => a ≤ b) (fun x => some x.location.startLine) S m
  endLine : Chooses (fun a b => b ≤ a) (fun x => some x.location.endLine) S m
  function : Chooses (fun a b => a ≤ b) (fun x => x.location.function) S m
  severity : Chooses (fun a b => b ≤ a) (fun x => some x.severity) S m
  adjustedSeverity : Chooses (fun a b => b ≤ a) (fun x => x.adjustedSeverity) S m

section Outlines

variable {S : Set (Finding ν)} {m n : Finding ν}

theorem outlines_self (m : Finding ν) : Outlines {x | x ∈ [m]} m where
  kind x hx := by
    rw [List.mem_singleton.1 hx]
    exact SameKind.rfl
  agents a :=
    ⟨fun ha => ⟨m, List.mem_singleton.2 rfl, ha⟩, fun ⟨_, hx, ha⟩ => List.mem_singleton.1 hx ▸ ha⟩
  id := chooses_self (fun a b => a ≤ b) Std.le_refl m
  startLine := chooses_self (fun a b => a ≤ b) Std.le_refl m
  endLine := chooses_self (fun a b => b ≤ a) Std.le_refl m
  function := chooses_self (fun a b => a ≤ b) Std.le_refl m
  severity := chooses_self (fun a b => b ≤ a) Std.le_refl m
  adjustedSeverity := chooses_self (fun a b => b ≤ a) Std.le_refl m

theorem StandsFor.outlines [Quantity ν] {c : CorrelationConfig ν} {g : List (Finding ν)}
    (h : StandsFor c g m) : Outlines {x | x ∈ g} m := by
  rcases h with rfl | ⟨-, h⟩
  · exact outlines_self m
  · exact {
      kind := h.kind
      agents := h.agents
      id := chooses_of_mem h.id.1 fun x hx => h.id.2 ⟨x, hx, rfl⟩
      startLine := chooses_of_mem h.startLine.1 fun x hx => h.startLine.2 ⟨x, hx, rfl⟩
      endLine := chooses_of_mem h.endLine.1 fun x hx => h.endLine.2 ⟨x, hx, rfl⟩
      function := chooses_of_optional h.function_eq_none fun b hb =>
        ⟨(h.function_eq_some b hb).1, fun _ ha => (h.function_eq_some b hb).2 ha⟩
      severity := chooses_of_mem h.severity.1 fun x hx => h.severity.2 ⟨x, hx, rfl⟩
      adjustedSeverity := chooses_of_optional h.adjustedSeverity_eq_none fun b hb =>
        ⟨(h.adjustedSeverity_eq_some b hb).1, fun _ ha => (h.adjustedSeverity_eq_some b hb).2 ha⟩ }

/-- What some findings come to, each of which shows what others come to, is what these come to. -/
theorem Outlines.flatten (h : Outlines S m) {Q : List (Finding ν) → Finding ν → Prop}
    (hQ : ∀ r ∈ S, ∃ g, Q g r) (hg : ∀ r ∈ S, ∀ g, Q g r → Outlines {x | x ∈ g} r) :
    Outlines {x | ∃ r ∈ S, ∃ g, Q g r ∧ x ∈ g} m where
  kind := by
    rintro x ⟨r, hr, g, hgr, hx⟩
    exact ((hg r hr g hgr).kind x hx).trans (h.kind r hr)
  agents a := by
    constructor
    · intro ha
      obtain ⟨r, hr, har⟩ := (h.agents a).1 ha
      obtain ⟨g, hgr⟩ := hQ r hr
      obtain ⟨x, hx, hax⟩ := ((hg r hr g hgr).agents a).1 har
      exact ⟨x, ⟨r, hr, g, hgr, hx⟩, hax⟩
    · rintro ⟨x, ⟨r, hr, g, hgr, hx⟩, hax⟩
      exact (h.agents a).2 ⟨r, hr, ((hg r hr g hgr).agents a).2 ⟨x, hx, hax⟩⟩
  id := h.id.flatten hQ (fun r hr g hgr => (hg r hr g hgr).id) Std.le_trans
  startLine :=
    h.startLine.flatten hQ (fun r hr g hgr => (hg r hr g hgr).startLine) Std.le_trans
  endLine := h.endLine.flatten hQ (fun r hr g hgr => (hg r hr g hgr).endLine)
    fun hab hbd => Std.le_trans hbd hab
  function := h.function.flatten hQ (fun r hr g hgr => (hg r hr g hgr).function) Std.le_trans
  severity := h.severity.flatten hQ (fun r hr g hgr => (hg r hr g hgr).severity)
    fun hab hbd => Std.le_trans hbd hab
  adjustedSeverity :=
    h.adjustedSeverity.flatten hQ (fun r hr g hgr => (hg r hr g hgr).adjustedSeverity)
      fun hab hbd => Std.le_trans hbd hab

/-- Findings that show what the same findings come to report one issue alike. -/
theorem Outlines.sameIssue (h : Outlines S m) (h' : Outlines S n) : SameIssue m n := by
  obtain ⟨x, hx, -⟩ := h.id.attained m.id rfl
  obtain ⟨htype, hfile⟩ := (h.kind x hx).symm.trans (h'.kind x hx)
  have hstart := Option.some.inj (h.startLine.eq h'.startLine Std.le_antisymm)
  have hend := Option.some.inj (h.endLine.eq h'.endLine fun hba hab => Std.le_antisymm hab hba)
  have hfunction := h.function.eq h'.function Std.le_antisymm
  exact {
    id := Option.some.inj (h.id.eq h'.id Std.le_antisymm)
    findingType := htype
    location := Location.eq_of_fields hfile hstart hend hfunction
    agents := OrderedSet.eq_of_mem_iff fun a => (h.agents a).trans (h'.agents a).symm
    severity :=
      Option.some.inj (h.severity.eq h'.severity fun hba hab => Std.le_antisymm hab hba)
    adjustedSeverity :=
      h.adjustedSeverity.eq h'.adjustedSeverity fun hba hab => Std.le_antisymm hab hba }

end Outlines

/-! ## The results of both ways -/

theorem comparePosition_of_sameIssue {m n : Finding ν} (h : SameIssue m n) :
    m.comparePosition n = .eq :=
  comparePosition_eq_iff.2
    ⟨⟨h.findingType, congrArg Location.file h.location⟩, congrArg Location.startLine h.location⟩

variable [Quantity ν] {c : CorrelationConfig ν} {xs ys : List (Finding ν)}

/-- The results for a chain of all findings and for the chain of the second correlation that holds
what one of its members went into. -/
theorem sameIssue_of_isFrom (hlines : ∀ f ∈ xs ++ ys, f.location.startLine ≤ f.location.endLine)
    {all second g : List (Finding ν)} {r x m n : Finding ν}
    (hall : all ∈ chains c.lineTolerance (sort (xs ++ ys)))
    (hsecond : second ∈ chains c.lineTolerance (sort (correlate c xs ++ ys)))
    (hm : StandsFor c second m) (hn : StandsFor c all n) (hg : IsFrom c xs ys g r) (hx : x ∈ g)
    (hxall : x ∈ all) (hr : r ∈ second) : SameIssue m n := by
  have hmembers : {y | ∃ s ∈ second, ∃ k, IsFrom c xs ys k s ∧ y ∈ k} = {y | y ∈ all} :=
    Set.ext fun y => (mem_iff_exists_isFrom hlines hall hsecond hg hx hxall hr y).symm
  have houtlines : Outlines {y | y ∈ all} m := by
    rw [← hmembers]
    refine hm.outlines.flatten (fun s hs => ?_) fun s _ k hk => hk.standsFor.outlines
    exact exists_isFrom (mem_chains_sort.1 ⟨second, hsecond, hs⟩)
  exact houtlines.sameIssue hn.outlines

/-- **Correlation can be done bit by bit.**  Correlating later findings with the results of an
earlier correlation gives as many results as correlating all findings at once, and at each place
the same id, type, location, agents and severities. -/
theorem correlate_correlate_append (c : CorrelationConfig ν) {xs ys : List (Finding ν)}
    (hxs : ∀ f ∈ xs, f.location.startLine ≤ f.location.endLine)
    (hys : ∀ f ∈ ys, f.location.startLine ≤ f.location.endLine) :
    List.Forall₂ SameIssue (correlate c (correlate c xs ++ ys)) (correlate c (xs ++ ys)) := by
  have hlines : ∀ f ∈ xs ++ ys, f.location.startLine ≤ f.location.endLine :=
    List.forall_mem_append.2 ⟨hxs, hys⟩
  have hresults : ∀ f ∈ correlate c xs ++ ys, f.location.startLine ≤ f.location.endLine :=
    fun f hf => lines_of_mem hlines hf
  refine forall₂_of_ascending comparePosition_of_sameIssue
    (pairwise_position_correlate c hresults) (pairwise_position_correlate c hlines) ?_ ?_
  · intro m hm
    obtain ⟨second, hsecond, hstands⟩ :=
      exists_left_of_forall₂ (forall₂_standsFor_correlate c _) hm
    obtain ⟨r, hr⟩ := List.exists_mem_of_ne_nil second (ne_nil_of_mem_chains hsecond)
    obtain ⟨g, hg⟩ := exists_isFrom (mem_chains_sort.1 ⟨second, hsecond, hr⟩)
    obtain ⟨x, hx⟩ := List.exists_mem_of_ne_nil g (hg.chained hlines).ne_nil
    obtain ⟨all, hall, hxall⟩ := mem_chains_sort.2 (hg.subset hx)
    obtain ⟨n, hn, hstands'⟩ := exists_right_of_forall₂ (forall₂_standsFor_correlate c _) hall
    exact ⟨n, hn, sameIssue_of_isFrom hlines hall hsecond hstands hstands' hg hx hxall hr⟩
  · intro n hn
    obtain ⟨all, hall, hstands'⟩ := exists_left_of_forall₂ (forall₂_standsFor_correlate c _) hn
    obtain ⟨x, hxall⟩ := List.exists_mem_of_ne_nil all (ne_nil_of_mem_chains hall)
    obtain ⟨r, g, hg, hx⟩ := exists_isFrom_of_mem (mem_chains_sort.1 ⟨all, hall, hxall⟩)
    obtain ⟨second, hsecond, hr⟩ := mem_chains_sort.2 hg.mem
    obtain ⟨m, hm, hstands⟩ := exists_right_of_forall₂ (forall₂_standsFor_correlate c _) hsecond
    exact ⟨m, hm, sameIssue_of_isFrom hlines hall hsecond hstands hstands' hg hx hxall hr⟩

/-- Two findings that become one, the lines between them included. -/
def banksOfRiver : List (Finding Float) :=
  [⟨"b", "leak", .low, 0.5, ⟨"m.c", 10, 11, some "g"⟩, "", .singleton "first", .pending, none,
      none⟩,
    ⟨"a", "leak", .high, 0.7, ⟨"m.c", 14, 14, some "f"⟩, "", .singleton "second", .pending,
      some .low, none⟩]

/-- Findings that come later: one between the two, one that the second reaches, and one that is too
far away by a line. -/
def laterLeaks : List (Finding Float) :=
  [⟨"e", "leak", .medium, 0.5, ⟨"m.c", 21, 4294967295, none⟩, "", .singleton "third", .pending,
      none, none⟩,
    ⟨"d", "leak", .critical, 0.9, ⟨"m.c", 17, 17, none⟩, "", .singleton "third", .pending, none,
      none⟩,
    ⟨"c", "leak", .low, 0.5, ⟨"m.c", 12, 13, none⟩, "", .singleton "first", .pending, none, none⟩]

theorem correlate_correlate_append_laterLeaks :
    (∀ f ∈ banksOfRiver, f.location.startLine ≤ f.location.endLine) ∧
      (∀ f ∈ laterLeaks, f.location.startLine ≤ f.location.endLine) ∧
      List.Forall₂ SameIssue
        (correlate .standard (correlate .standard banksOfRiver ++ laterLeaks))
        (correlate .standard (banksOfRiver ++ laterLeaks)) := by
  have hxs : ∀ f ∈ banksOfRiver, f.location.startLine ≤ f.location.endLine := by decide
  have hys : ∀ f ∈ laterLeaks, f.location.startLine ≤ f.location.endLine := by decide
  exact ⟨hxs, hys, correlate_correlate_append .standard hxs hys⟩

end Correlate

end Vigil
