import Mathlib.Data.List.Perm.Subperm
import Mathlib.Tactic.Linarith
import Vigil.Proofs.Correlate.Idempotent
import Vigil.Proofs.Exact

/-!
# More evidence never weakens a finding

One more finding may be linked to several groups at once.  They become one group then, with another
leading member and more agents.  Over exact numbers none of this costs the result anything:

* `IsClustering.subperm` -- the group of a finding only grows, each member as often as before;
* `StandsFor.confidence_ge` -- a result is as confident as each member, and no more than certain;
* `StandsFor.confidence_mono` -- a group that has grown is as confident as before, whoever leads it
  now and however many agents it has;
* `correlate_with_more_evidence` -- **the main result**.
-/

namespace Vigil

/-- A set has no more members than one that holds them all. -/
theorem OrderedSet.size_le_of_subset {s t : OrderedSet String} (h : ∀ a ∈ s, a ∈ t) :
    s.size ≤ t.size := by
  have hnodup : s.toList.Nodup := s.ascending.imp fun hlt => Std.ne_of_lt hlt
  exact (List.subperm_of_subset hnodup h).length_le

namespace Correlate

variable {ν : Type} {t : UInt32} {l l' : List (Finding ν)}

/-! ## Groups of a longer list -/

theorem Connected.mono (hsub : ∀ f ∈ l, f ∈ l') {a b : Finding ν} (h : Connected t l a b) :
    Connected t l' a b :=
  h.lift id fun _ _ ⟨hx, hy, hlink⟩ => ⟨hsub _ hx, hsub _ hy, hlink⟩

variable {gs gs' : List (List (Finding ν))} {g g' : List (Finding ν)}

/-- A finding is in no group but its own. -/
theorem IsClustering.exists_split (h : IsClustering t l gs) (hg : g ∈ gs) {a : Finding ν}
    (ha : a ∈ g) : ∃ before after, gs = before ++ g :: after ∧ ∀ k ∈ before ++ after, a ∉ k := by
  obtain ⟨before, after, rfl⟩ := List.append_of_mem hg
  obtain ⟨-, hafter, hbefore⟩ := List.pairwise_append.1 h.separate
  refine ⟨before, after, rfl, fun k hk hak => ?_⟩
  rcases List.mem_append.1 hk with hk | hk
  · exact hbefore k hk g (List.mem_cons_self ..) a hak a ha Relation.ReflTransGen.refl
  · exact (List.pairwise_cons.1 hafter).1 k hk a ha a hak Relation.ReflTransGen.refl

theorem IsClustering.eq_of_mem (h : IsClustering t l gs) (hg : g ∈ gs) (hg' : g' ∈ gs)
    {a : Finding ν} (ha : a ∈ g) (ha' : a ∈ g') : g' = g := by
  obtain ⟨before, after, rfl, hout⟩ := h.exists_split hg ha
  rcases List.mem_append.1 hg' with hg' | hg'
  · exact absurd ha' (hout g' (List.mem_append_left _ hg'))
  · rcases List.mem_cons.1 hg' with hg' | hg'
    · exact hg'
    · exact absurd ha' (hout g' (List.mem_append_right _ hg'))

section Count

variable [DecidableEq (Finding ν)]

/-- A finding is in its group as often as in the list. -/
theorem IsClustering.count_eq (h : IsClustering t l gs) (hg : g ∈ gs) {a : Finding ν}
    (ha : a ∈ g) : g.count a = l.count a := by
  obtain ⟨before, after, rfl, hout⟩ := h.exists_split hg ha
  have hzero (ks : List (List (Finding ν))) (hks : ∀ k ∈ ks, a ∉ k) : ks.flatten.count a = 0 := by
    refine List.count_eq_zero.2 fun hmem => ?_
    obtain ⟨k, hk, hak⟩ := List.mem_flatten.1 hmem
    exact hks k hk hak
  rw [← h.perm.count_eq, List.flatten_append, List.flatten_cons, List.count_append,
    List.count_append, hzero before fun k hk => hout k (List.mem_append_left _ hk),
    hzero after fun k hk => hout k (List.mem_append_right _ hk)]
  omega

/-- **A group only grows with the list**: of two groups that share a finding, the one of the longer
list has all members of the other, each as often. -/
theorem IsClustering.subperm (h : IsClustering t l gs) (h' : IsClustering t l' gs')
    (hsub : l.Subperm l') (hg : g ∈ gs) (hg' : g' ∈ gs') {x : Finding ν} (hx : x ∈ g)
    (hx' : x ∈ g') : g.Subperm g' := by
  refine List.subperm_ext_iff.2 fun a ha => ?_
  have hal : a ∈ l := h.perm.subset (List.mem_flatten_of_mem hg ha)
  have hconnected : Connected t l x a := (h.mem_iff g hg x hx a hal).1 ha
  have ha' : a ∈ g' :=
    (h'.mem_iff g' hg' x hx' a (hsub.subset hal)).2 (hconnected.mono fun _ hf => hsub.subset hf)
  rw [h.count_eq hg ha, h'.count_eq hg' ha']
  exact hsub.count_le a

end Count

/-! ## The finding for a group that has grown -/

section Members

variable [Quantity ν] {c : CorrelationConfig ν} {m m' : Finding ν}

theorem StandsFor.exists_severity (h : StandsFor c g m) : ∃ f ∈ g, f.severity = m.severity := by
  rcases h with rfl | ⟨-, h⟩
  · exact ⟨m, List.mem_singleton.2 rfl, rfl⟩
  · exact h.severity.1

/-- The finding for more members is as severe, names all agents and covers all lines. -/
theorem StandsFor.mono (h : StandsFor c g m) (h' : StandsFor c g' m') (hsub : g ⊆ g') :
    m.severity ≤ m'.severity ∧ (∀ a ∈ m.agents, a ∈ m'.agents) ∧ m.IsWithin m' := by
  obtain ⟨worst, hworst, hseverity⟩ := h.exists_severity
  obtain ⟨first, hfirst, hposition⟩ := h.exists_position
  obtain ⟨last, hlast, -, hend⟩ := h.exists_end
  obtain ⟨hkind, hstart⟩ := Finding.comparePosition_eq_iff.1 hposition
  have hwithin := h'.isWithin (hsub hfirst)
  refine ⟨hseverity ▸ h'.severity_le (hsub hworst), fun a ha => ?_,
    hkind.symm.trans hwithin.kind, hstart ▸ hwithin.start_le, ?_⟩
  · obtain ⟨f, hf, haf⟩ := h.mem_agents_iff.1 ha
    exact h'.mem_agents_iff.2 ⟨f, hsub hf, haf⟩
  · exact hend ▸ (h'.isWithin (hsub hlast)).le_end

end Members

/-! ## Confidence -/

/-- A finding with its lines in order and a confidence between zero and one. -/
structure IsSound (f : Finding ℚ) : Prop where
  lines : f.location.startLine ≤ f.location.endLine
  nonneg : 0 ≤ f.confidence
  le_one : f.confidence ≤ 1

/-- Agreement adds something, and that of many agents no less than that of two. -/
structure IsEncouraging (c : CorrelationConfig ℚ) : Prop where
  two_nonneg : 0 ≤ c.twoAgentBoost
  two_le_multi : c.twoAgentBoost ≤ c.multiAgentBoost

theorem IsEncouraging.boost_nonneg {c : CorrelationConfig ℚ} (h : IsEncouraging c) (n : Nat) :
    0 ≤ c.boost n := by
  match n with
  | 0 => exact le_refl _
  | 1 => exact le_refl _
  | 2 => exact h.two_nonneg
  | _ + 3 => exact h.two_nonneg.trans h.two_le_multi

theorem IsEncouraging.boost_mono {c : CorrelationConfig ℚ} (h : IsEncouraging c) {m n : Nat}
    (hmn : m ≤ n) : c.boost m ≤ c.boost n := by
  match m, n with
  | 0, n => exact h.boost_nonneg n
  | 1, n => exact h.boost_nonneg n
  | 2, 2 => exact le_refl _
  | 2, _ + 3 => exact h.two_le_multi
  | _ + 3, _ + 3 => exact le_refl _

section Confidence

variable {c : CorrelationConfig ℚ} {g g' : List (Finding ℚ)} {m m' : Finding ℚ}

/-- What becomes of the confidence of the leading member. -/
theorem Summarizes.confidence_eq (h : Summarizes c g m) : ∃ x ∈ g,
    (∀ y ∈ g, y.confidence ≤ x.confidence) ∧
      m.confidence = min (x.confidence * (1 + c.boost m.agents.size)) 1 := by
  obtain ⟨x, hx, hahead, hconfidence, -⟩ := h.lead
  exact ⟨x, hx, fun y hy => of_decide_eq_true (hahead y hy).1, hconfidence⟩

/-- **A finding is as confident as each member of its group**, and never more than certain. -/
theorem StandsFor.confidence_ge (h : StandsFor c g m) (hc : IsEncouraging c)
    (hg : ∀ f ∈ g, IsSound f) :
    (∀ f ∈ g, f.confidence ≤ m.confidence) ∧ m.confidence ≤ 1 := by
  rcases h with rfl | ⟨-, h⟩
  · exact ⟨List.forall_mem_singleton.2 (le_refl _), (hg m (List.mem_singleton.2 rfl)).le_one⟩
  · obtain ⟨x, hx, hmax, hconfidence⟩ := h.confidence_eq
    have hboost := hc.boost_nonneg m.agents.size
    refine ⟨fun f hf => ?_, hconfidence ▸ min_le_right _ _⟩
    have hraised : x.confidence ≤ x.confidence * (1 + c.boost m.agents.size) :=
      le_mul_of_one_le_right (hg x hx).nonneg (by linarith)
    rw [hconfidence]
    exact le_min ((hmax f hf).trans hraised) (hg f hf).le_one

/-- **A group that has grown is as confident as before.** -/
theorem StandsFor.confidence_mono (h : StandsFor c g m) (h' : StandsFor c g' m')
    (hc : IsEncouraging c) (hg' : ∀ f ∈ g', IsSound f) (hsub : g.Subperm g') :
    m.confidence ≤ m'.confidence := by
  have hagents : m.agents.size ≤ m'.agents.size :=
    OrderedSet.size_le_of_subset (h.mono h' hsub.subset).2.1
  obtain ⟨hmembers, -⟩ := h'.confidence_ge hc hg'
  rcases h with rfl | ⟨hseveral, h⟩
  · exact hmembers m (hsub.subset (List.mem_singleton.2 rfl))
  · -- A group of several does not become a group of one.
    rcases h' with rfl | ⟨-, h'⟩
    · have hlength := hsub.length_le
      rw [List.length_singleton] at hlength
      omega
    · obtain ⟨x, hx, -, hconfidence⟩ := h.confidence_eq
      obtain ⟨y, hy, hmax, hconfidence'⟩ := h'.confidence_eq
      have hxy : x.confidence ≤ y.confidence := hmax x (hsub.subset hx)
      have hboost := hc.boost_mono hagents
      have hpos := hc.boost_nonneg m.agents.size
      rw [hconfidence, hconfidence']
      refine min_le_min_right _ (mul_le_mul hxy (by linarith) (by linarith) (hg' y hy).nonneg)

end Confidence

/-! ## From findings to results -/

/-- The finding `x` of a list goes into the finding `m` of its correlation. -/
def GoesInto [Quantity ν] (c : CorrelationConfig ν) (l : List (Finding ν)) (x m : Finding ν) :
    Prop :=
  ∃ g ∈ chains c.lineTolerance (sort l), x ∈ g ∧ m ∈ mergeChain c g

section GoesInto

variable [Quantity ν] {c : CorrelationConfig ν} {x m : Finding ν}

/-- What a chain is merged into is one finding, which stands for it. -/
theorem mergeChain_eq_of_mem (hg : g ∈ chains c.lineTolerance (sort l))
    (hm : m ∈ mergeChain c g) : mergeChain c g = [m] ∧ StandsFor c g m := by
  obtain ⟨n, hn, hstands⟩ := standsFor_mergeChain c (ne_nil_of_mem_chains hg)
    fun _ hx _ hy => sameKind_of_mem_chains hg hx hy
  rw [hn] at hm
  obtain rfl := List.mem_singleton.1 hm
  exact ⟨hn, hstands⟩

/-- **Each finding goes into just one.** -/
theorem existsUnique_goesInto (hlines : ∀ f ∈ l, f.location.startLine ≤ f.location.endLine)
    (hx : x ∈ l) : ∃! m, GoesInto c l x m := by
  have hgs : IsClustering c.lineTolerance l _ := isClustering_chains hlines
  obtain ⟨g, hg, hxg⟩ := mem_chains_sort.2 hx
  obtain ⟨m, hm, -⟩ := standsFor_mergeChain c (ne_nil_of_mem_chains hg)
    fun _ hx _ hy => sameKind_of_mem_chains hg hx hy
  have hmem : m ∈ mergeChain c g := hm ▸ List.mem_singleton.2 rfl
  refine ⟨m, ⟨g, hg, hxg, hmem⟩, ?_⟩
  rintro n ⟨k, hk, hxk, hn⟩
  rw [hgs.eq_of_mem hg hk hxg hxk, hm] at hn
  exact List.mem_singleton.1 hn

end GoesInto

/-- **More evidence never weakens a finding.**  Whatever finding is added, and wherever: what each
finding goes into is then as confident as before and as severe, it names all agents that it named
before, and it covers all lines that it covered.  And the confidence of every result lies between
zero and one, no lower than that of any finding that goes into it. -/
theorem correlate_with_more_evidence {c : CorrelationConfig ℚ} (hc : IsEncouraging c)
    {xs ys : List (Finding ℚ)} {y : Finding ℚ} (hsound : ∀ f ∈ y :: xs, IsSound f)
    (hadded : ys.Perm (y :: xs)) :
    (∀ x ∈ xs, (∃! m, GoesInto c xs x m) ∧ (∃! m', GoesInto c ys x m') ∧
      ∀ m m', GoesInto c xs x m → GoesInto c ys x m' →
        m.confidence ≤ m'.confidence ∧ m.severity ≤ m'.severity ∧
          (∀ a ∈ m.agents, a ∈ m'.agents) ∧ m.IsWithin m') ∧
    ∀ l, (∀ f ∈ l, IsSound f) → ∀ m ∈ correlate c l,
      0 ≤ m.confidence ∧ m.confidence ≤ 1 ∧
        ∀ x, GoesInto c l x m → x.confidence ≤ m.confidence := by
  have hsub : xs.Subperm ys := (List.sublist_cons_self y xs).subperm.trans hadded.symm.subperm
  have hys : ∀ f ∈ ys, IsSound f := fun f hf => hsound f (hadded.mem_iff.1 hf)
  have hxs : ∀ f ∈ xs, IsSound f := fun f hf => hsound f (List.mem_cons_of_mem _ hf)
  constructor
  · intro x hx
    refine ⟨existsUnique_goesInto (fun f hf => (hxs f hf).lines) hx,
      existsUnique_goesInto (fun f hf => (hys f hf).lines) (hsub.subset hx), ?_⟩
    rintro m m' ⟨g, hg, hxg, hm⟩ ⟨g', hg', hxg', hm'⟩
    have hgrown : g.Subperm g' :=
      (isClustering_chains fun f hf => (hxs f hf).lines).subperm
        (isClustering_chains fun f hf => (hys f hf).lines) hsub hg hg' hxg hxg'
    have hstands := (mergeChain_eq_of_mem hg hm).2
    have hstands' := (mergeChain_eq_of_mem hg' hm').2
    refine ⟨?_, hstands.mono hstands' hgrown.subset⟩
    exact hstands.confidence_mono hstands' hc
      (fun f hf => hys f (mem_chains_sort.1 ⟨g', hg', hf⟩)) hgrown
  · intro l hl m hm
    have hof {g : List (Finding ℚ)} (hg : g ∈ chains c.lineTolerance (sort l))
        (hmg : m ∈ mergeChain c g) :
        (∀ f ∈ g, f.confidence ≤ m.confidence) ∧ m.confidence ≤ 1 :=
      (mergeChain_eq_of_mem hg hmg).2.confidence_ge hc
        fun f hf => hl f (mem_chains_sort.1 ⟨g, hg, hf⟩)
    obtain ⟨g, hg, hmg⟩ := List.mem_flatMap.1 hm
    obtain ⟨f, hf⟩ := List.exists_mem_of_ne_nil g (ne_nil_of_mem_chains hg)
    obtain ⟨hmembers, hone⟩ := hof hg hmg
    have hnonneg := (hl f (mem_chains_sort.1 ⟨g, hg, hf⟩)).nonneg.trans (hmembers f hf)
    refine ⟨hnonneg, hone, ?_⟩
    rintro x ⟨k, hk, hxk, hmk⟩
    exact (hof hk hmk).1 x hxk

/-- Two findings too far from each other to be one issue, and equal ones beside the second. -/
def banks : List (Finding ℚ) :=
  let upper : Finding ℚ := ⟨"upper", "leak", .low, 9 / 10, ⟨"m.c", 10, 10, none⟩, "",
    .singleton "first", .pending, none, none⟩
  let lower : Finding ℚ := ⟨"lower", "leak", .high, 1 / 2, ⟨"m.c", 20, 22, none⟩, "",
    .singleton "second", .pending, none, none⟩
  [lower, upper, lower]

/-- A finding between them that makes them one issue. -/
def bridge : Finding ℚ :=
  ⟨"bridge", "leak", .medium, 19 / 20, ⟨"m.c", 12, 18, none⟩, "", .singleton "third", .pending,
    none, none⟩

theorem correlate_with_more_evidence_bridge :
    IsEncouraging .standard ∧ (∀ f ∈ bridge :: banks, IsSound f) ∧
      (∀ x ∈ banks, (∃! m, GoesInto .standard banks x m) ∧
        (∃! m', GoesInto .standard (banks ++ [bridge]) x m') ∧
        ∀ m m', GoesInto .standard banks x m → GoesInto .standard (banks ++ [bridge]) x m' →
          m.confidence ≤ m'.confidence ∧ m.severity ≤ m'.severity ∧
            (∀ a ∈ m.agents, a ∈ m'.agents) ∧ m.IsWithin m') ∧
      ∀ m ∈ correlate .standard (banks ++ [bridge]), 0 ≤ m.confidence ∧ m.confidence ≤ 1 := by
  have hc : IsEncouraging .standard := ⟨by decide +kernel, by decide +kernel⟩
  have hlower : IsSound ⟨"lower", "leak", .high, 1 / 2, ⟨"m.c", 20, 22, none⟩, "",
      .singleton "second", .pending, none, none⟩ := ⟨by decide, by norm_num, by norm_num⟩
  have hbanks : ∀ f ∈ banks, IsSound f :=
    List.forall_mem_cons.2 ⟨hlower, List.forall_mem_cons.2
      ⟨⟨by decide, by norm_num, by norm_num⟩, List.forall_mem_singleton.2 hlower⟩⟩
  have hbridge : IsSound bridge := ⟨by decide, by norm_num [bridge], by norm_num [bridge]⟩
  have hsound : ∀ f ∈ bridge :: banks, IsSound f := List.forall_mem_cons.2 ⟨hbridge, hbanks⟩
  have hadded : (banks ++ [bridge]).Perm (bridge :: banks) := List.perm_append_singleton ..
  obtain ⟨hmono, hresults⟩ := correlate_with_more_evidence hc hsound hadded
  have hall : ∀ f ∈ banks ++ [bridge], IsSound f := fun f hf => hsound f (hadded.mem_iff.1 hf)
  refine ⟨hc, hsound, hmono, fun m hm => ?_⟩
  obtain ⟨hnonneg, hone, -⟩ := hresults _ hall m hm
  exact ⟨hnonneg, hone⟩

end Correlate

end Vigil
