import Mathlib.Order.Bounds.Defs
import Vigil.Proofs.Correlate.Chain
import Vigil.Proofs.Related

/-!
# What one finding for several says

`Summarizes` states, field by field and without any order of the members, what the finding for a
group must say; `summarizes_merge` proves it of `merge`.  Most fields are folds with an operation
that picks one of its two arguments, and are settled together by `Picks.foldl`:

* the id, the lines and the function are the least or greatest of the group;
* the severities are the greatest ones;
* the rest is taken from a member that is `Ahead` of all others, the most confident one and among
  equally confident ones that with the least id.

`StandsFor` adds the case of a group of one, which is left as it is.
-/

namespace Vigil.Correlate

open Finding

/-! ## Picking one of several -/

section Picks

variable {α β : Type} {op : α → α → α} {R : α → α → Prop}

/-- The operation picks that one of its two arguments that is related to the other. -/
structure Picks (op : α → α → α) (R : α → α → Prop) : Prop where
  pick : ∀ x y, op x y = x ∧ R x y ∨ op x y = y ∧ R y x
  trans : ∀ {x y z}, R x y → R y z → R x z

theorem Picks.refl (h : Picks op R) (x : α) : R x x := by
  rcases h.pick x x with ⟨-, hx⟩ | ⟨-, hx⟩ <;> exact hx

theorem Picks.left (h : Picks op R) (x y : α) : R (op x y) x := by
  rcases h.pick x y with ⟨e, hxy⟩ | ⟨e, hyx⟩
  · rw [e]
    exact h.refl x
  · rw [e]
    exact hyx

theorem Picks.right (h : Picks op R) (x y : α) : R (op x y) y := by
  rcases h.pick x y with ⟨e, hxy⟩ | ⟨e, hyx⟩
  · rw [e]
    exact hxy
  · rw [e]
    exact h.refl y

/-- A fold with such an operation picks a member of the list that is related to all. -/
theorem Picks.foldl (h : Picks op R) (a : α) (l : List α) :
    l.foldl op a ∈ a :: l ∧ ∀ x ∈ a :: l, R (l.foldl op a) x := by
  induction l generalizing a with
  | nil => simpa using h.refl a
  | cons b l ih =>
    obtain ⟨hmem, hrel⟩ := ih (op a b)
    have hop : R (List.foldl op (op a b) l) (op a b) := hrel _ (List.mem_cons_self ..)
    rw [List.foldl_cons]
    constructor
    · rcases List.mem_cons.1 hmem with e | hl
      · rw [e]
        rcases h.pick a b with ⟨e, -⟩ | ⟨e, -⟩ <;> simp [e]
      · exact List.mem_cons_of_mem _ (List.mem_cons_of_mem _ hl)
    · intro x hx
      rcases List.mem_cons.1 hx with rfl | hx
      · exact h.trans hop (h.left ..)
      · rcases List.mem_cons.1 hx with rfl | hx
        · exact h.trans hop (h.right ..)
        · exact hrel x (List.mem_cons_of_mem _ hx)

/-- The same for a fold over the values that some data have. -/
theorem Picks.foldl_map (h : Picks op R) (p : β → α) (f : β) (rest : List β) :
    (∃ g ∈ f :: rest, p g = rest.foldl (fun x g => op x (p g)) (p f)) ∧
      ∀ g ∈ f :: rest, R (rest.foldl (fun x g => op x (p g)) (p f)) (p g) := by
  obtain ⟨hmem, hrel⟩ := h.foldl (p f) (rest.map p)
  rw [← List.map_cons, List.foldl_map] at hmem hrel
  exact ⟨List.mem_map.1 hmem, fun g hg => hrel _ (List.mem_map_of_mem hg)⟩

theorem Picks.isLeast_foldl [LE α] (h : Picks op (· ≤ ·)) (p : β → α) (f : β) (rest : List β) :
    IsLeast {x | ∃ g ∈ f :: rest, p g = x} (rest.foldl (fun x g => op x (p g)) (p f)) := by
  obtain ⟨hmem, hle⟩ := h.foldl_map p f rest
  refine ⟨hmem, ?_⟩
  rintro x ⟨g, hg, rfl⟩
  exact hle g hg

theorem Picks.isGreatest_foldl [LE α] (h : Picks op fun x y => y ≤ x) (p : β → α) (f : β)
    (rest : List β) :
    IsGreatest {x | ∃ g ∈ f :: rest, p g = x} (rest.foldl (fun x g => op x (p g)) (p f)) := by
  obtain ⟨hmem, hle⟩ := h.foldl_map p f rest
  refine ⟨hmem, ?_⟩
  rintro x ⟨g, hg, rfl⟩
  exact hle g hg

/-- Picking among the values that some data have and others have not. -/
theorem Picks.optional (h : Picks op R) (pick? : List α → Option α) (hnil : pick? [] = none)
    (hcons : ∀ a l, pick? (a :: l) = some (l.foldl op a)) (p : β → Option α) (g : List β) :
    (pick? (g.filterMap p) = none ↔ ∀ x ∈ g, p x = none) ∧
      ∀ s, pick? (g.filterMap p) = some s →
        (∃ x ∈ g, p x = some s) ∧ ∀ y, (∃ x ∈ g, p x = some y) → R s y := by
  rcases e : g.filterMap p with _ | ⟨a, l⟩
  · rw [List.filterMap_eq_nil_iff] at e
    exact ⟨iff_of_true hnil e, fun s hs => by simp [hnil] at hs⟩
  · rw [hcons]
    obtain ⟨hmem, hrel⟩ := h.foldl a l
    refine ⟨iff_of_false (by simp) fun hnone => ?_, ?_⟩
    · simp [List.filterMap_eq_nil_iff.2 hnone] at e
    · intro s hs
      obtain rfl := Option.some.inj hs
      rw [← e] at hmem hrel
      exact ⟨List.mem_filterMap.1 hmem, fun y hy => hrel y (List.mem_filterMap.2 hy)⟩

end Picks

section Orders

variable {α : Type} [LE α] [DecidableLE α] [Std.IsLinearOrder α]

theorem picks_lesser : Picks (fun x y : α => if x ≤ y then x else y) (· ≤ ·) where
  pick x y := by
    by_cases h : x ≤ y
    · exact Or.inl ⟨if_pos h, h⟩
    · exact Or.inr ⟨if_neg h, Std.le_of_not_ge h⟩
  trans := Std.le_trans

theorem picks_greater : Picks (fun x y : α => if x ≤ y then y else x) fun x y => y ≤ x where
  pick x y := by
    by_cases h : x ≤ y
    · exact Or.inr ⟨if_pos h, h⟩
    · exact Or.inl ⟨if_neg h, Std.le_of_not_ge h⟩
  trans hxy hyz := Std.le_trans hyz hxy

end Orders

theorem picks_lesserText : Picks (fun x y : String => if y < x then y else x) (· ≤ ·) where
  pick x y := by
    by_cases h : y < x
    · exact Or.inr ⟨if_pos h, Std.le_of_lt h⟩
    · exact Or.inl ⟨if_neg h, Std.not_lt.1 h⟩
  trans := Std.le_trans

/-! ## The leading member -/

variable {ν : Type} [Quantity ν]

/-- The first finding is more confident than the second, or as confident with no greater id. -/
def Ahead (a b : Finding ν) : Prop :=
  Quantity.precedes b.confidence a.confidence = true ∧
    (Quantity.precedes a.confidence b.confidence = true → a.id ≤ b.id)

theorem Ahead.trans {a b c : Finding ν} (h : Ahead a b) (k : Ahead b c) : Ahead a c := by
  obtain ⟨hba, hab⟩ := h
  obtain ⟨hcb, hbc⟩ := k
  refine ⟨Quantity.precedes_trans _ _ _ hcb hba, fun hac => ?_⟩
  have hid : a.id ≤ b.id := hab (Quantity.precedes_trans _ _ _ hac hcb)
  exact Std.le_trans hid (hbc (Quantity.precedes_trans _ _ _ hba hac))

theorem picks_leader : Picks (fun a b : Finding ν => if leads a b then a else b) Ahead where
  pick a b := by
    by_cases h : leads a b = true
    · refine Or.inl ⟨if_pos h, ?_⟩
      simp only [leads, Bool.or_eq_true, Bool.not_eq_true', Bool.and_eq_true, decide_eq_true_eq]
        at h
      rcases h with h | ⟨hba, hid⟩
      · have hba := (Quantity.precedes_total a.confidence b.confidence).resolve_left (by simp [h])
        exact ⟨hba, fun hab => absurd hab (by simp [h])⟩
      · exact ⟨hba, fun _ => Std.le_of_lt hid⟩
    · refine Or.inr ⟨if_neg h, ?_⟩
      simp only [leads, Bool.or_eq_true, Bool.not_eq_true', Bool.and_eq_true, decide_eq_true_eq,
        not_or, Bool.not_eq_false, not_and] at h
      obtain ⟨hab, hid⟩ := h
      exact ⟨hab, fun hba => Std.not_lt.1 (hid hba)⟩
  trans := Ahead.trans

/-! ## The finding for a group -/

/-- The finding `m` says what there is to say about a group of findings. -/
structure Summarizes (c : CorrelationConfig ν) (g : List (Finding ν)) (m : Finding ν) : Prop where
  kind : ∀ x ∈ g, SameKind x m
  id : IsLeast {s | ∃ x ∈ g, x.id = s} m.id
  agents : ∀ s, s ∈ m.agents ↔ ∃ x ∈ g, s ∈ x.agents
  severity : IsGreatest {s | ∃ x ∈ g, x.severity = s} m.severity
  startLine : IsLeast {n | ∃ x ∈ g, x.location.startLine = n} m.location.startLine
  endLine : IsGreatest {n | ∃ x ∈ g, x.location.endLine = n} m.location.endLine
  function_eq_none : m.location.function = none ↔ ∀ x ∈ g, x.location.function = none
  function_eq_some : ∀ s, m.location.function = some s →
    IsLeast {s | ∃ x ∈ g, x.location.function = some s} s
  adjustedSeverity_eq_none : m.adjustedSeverity = none ↔ ∀ x ∈ g, x.adjustedSeverity = none
  adjustedSeverity_eq_some : ∀ s, m.adjustedSeverity = some s →
    IsGreatest {s | ∃ x ∈ g, x.adjustedSeverity = some s} s
  /-- The rest comes from the leading member. -/
  lead : ∃ x ∈ g, (∀ y ∈ g, Ahead x y) ∧
    m.confidence = Quantity.least (x.confidence * (1 + c.boost m.agents.size)) 1 ∧
    m.description = x.description ∧ m.status = x.status ∧ m.classification = x.classification

omit [Quantity ν] in
theorem mem_foldl_union (s : String) (l : List (Finding ν)) (u : OrderedSet String) :
    s ∈ l.foldl (fun u g => u.union g.agents) u ↔ s ∈ u ∨ ∃ x ∈ l, s ∈ x.agents := by
  induction l generalizing u with
  | nil => simp
  | cons f l ih =>
    rw [List.foldl_cons, ih, OrderedSet.mem_union]
    simp only [List.mem_cons, exists_eq_or_imp, or_assoc]

/-- **One finding for several says what there is to say about them.** -/
theorem summarizes_merge (c : CorrelationConfig ν) {f : Finding ν} {rest : List (Finding ν)}
    (hkind : ∀ x ∈ f :: rest, ∀ y ∈ f :: rest, SameKind x y) :
    Summarizes c (f :: rest) (merge c f rest) := by
  obtain ⟨hlead, hahead⟩ := picks_leader.foldl f rest
  obtain ⟨hfnone, hfsome⟩ := picks_lesserText.optional leastText? rfl
    (fun _ _ => rfl) (fun x : Finding ν => x.location.function) (f :: rest)
  obtain ⟨hsnone, hssome⟩ := (picks_greater (α := Severity)).optional
    greatestSeverity? rfl (fun _ _ => rfl)
    (fun x : Finding ν => x.adjustedSeverity) (f :: rest)
  exact {
    kind := fun x hx => hkind x hx (leader f rest) hlead
    id := picks_lesserText.isLeast_foldl (fun x : Finding ν => x.id) f rest
    agents := fun s => by
      have hempty : ¬ s ∈ (OrderedSet.empty : OrderedSet String) := fun h => by cases h
      exact (mem_foldl_union s (f :: rest) OrderedSet.empty).trans (by simp only [hempty, false_or])
    severity := picks_greater.isGreatest_foldl (fun x : Finding ν => x.severity) f rest
    startLine := picks_lesser.isLeast_foldl (fun x : Finding ν => x.location.startLine) f rest
    endLine := picks_greater.isGreatest_foldl (fun x : Finding ν => x.location.endLine) f rest
    function_eq_none := hfnone
    function_eq_some := fun s hs => ⟨(hfsome s hs).1, fun y hy => (hfsome s hs).2 y hy⟩
    adjustedSeverity_eq_none := hsnone
    adjustedSeverity_eq_some := fun s hs => ⟨(hssome s hs).1, fun y hy => (hssome s hs).2 y hy⟩
    lead := ⟨leader f rest, hlead, hahead, rfl, rfl, rfl, rfl⟩ }

/-! ## Groups of any size -/

/-- The finding `m` is all there is of a group, or it says what there is to say about several. -/
def StandsFor (c : CorrelationConfig ν) (g : List (Finding ν)) (m : Finding ν) : Prop :=
  g = [m] ∨ 2 ≤ g.length ∧ Summarizes c g m

theorem standsFor_mergeChain (c : CorrelationConfig ν) {g : List (Finding ν)} (hne : g ≠ [])
    (hkind : ∀ x ∈ g, ∀ y ∈ g, SameKind x y) :
    ∃ m, mergeChain c g = [m] ∧ StandsFor c g m := by
  match g with
  | [f] => exact ⟨f, rfl, Or.inl rfl⟩
  | f :: h :: rest =>
    refine ⟨merge c f (h :: rest), rfl, Or.inr ⟨?_, summarizes_merge c hkind⟩⟩
    simp only [List.length_cons]
    omega

/-- Merging the groups one after the other gives one finding for each. -/
theorem forall₂_standsFor_flatMap (c : CorrelationConfig ν) {gs : List (List (Finding ν))}
    (hgs : ∀ g ∈ gs, g ≠ [] ∧ ∀ x ∈ g, ∀ y ∈ g, SameKind x y) :
    List.Forall₂ (StandsFor c) gs (gs.flatMap (mergeChain c)) := by
  induction gs with
  | nil => exact List.Forall₂.nil
  | cons g gs ih =>
    obtain ⟨hne, hkind⟩ := hgs g (List.mem_cons_self ..)
    obtain ⟨m, hm, hstands⟩ := standsFor_mergeChain c hne hkind
    rw [List.flatMap_cons, hm]
    exact List.Forall₂.cons hstands (ih fun g' hg' => hgs g' (List.mem_cons_of_mem _ hg'))

/-- **Correlation gives one finding for each chain.** -/
theorem forall₂_standsFor_correlate (c : CorrelationConfig ν) (l : List (Finding ν)) :
    List.Forall₂ (StandsFor c) (chains c.lineTolerance (sort l)) (correlate c l) :=
  forall₂_standsFor_flatMap c fun _ hg =>
    ⟨ne_nil_of_mem_chains hg, fun _ hx _ hy => sameKind_of_mem_chains hg hx hy⟩

section StandsFor

variable {c : CorrelationConfig ν} {g : List (Finding ν)} {m : Finding ν}

/-- The members lie within the finding that stands for them. -/
theorem StandsFor.isWithin (h : StandsFor c g m) {f : Finding ν} (hf : f ∈ g) : f.IsWithin m := by
  rcases h with rfl | ⟨-, h⟩
  · rw [List.mem_singleton.1 hf]
    exact IsWithin.refl m
  · exact ⟨h.kind f hf, h.startLine.2 ⟨f, hf, rfl⟩, h.endLine.2 ⟨f, hf, rfl⟩⟩

theorem StandsFor.severity_le (h : StandsFor c g m) {f : Finding ν} (hf : f ∈ g) :
    f.severity ≤ m.severity := by
  rcases h with rfl | ⟨-, h⟩
  · rw [List.mem_singleton.1 hf]
    exact Std.le_refl _
  · exact h.severity.2 ⟨f, hf, rfl⟩

theorem StandsFor.mem_agents_iff (h : StandsFor c g m) {s : String} :
    s ∈ m.agents ↔ ∃ f ∈ g, s ∈ f.agents := by
  rcases h with rfl | ⟨-, h⟩
  · simp only [List.mem_singleton, exists_eq_left]
  · exact h.agents s

/-- A member begins where the finding that stands for the group begins. -/
theorem StandsFor.exists_position (h : StandsFor c g m) :
    ∃ f ∈ g, f.comparePosition m = .eq := by
  rcases h with rfl | ⟨-, h⟩
  · exact ⟨m, List.mem_singleton.2 rfl, comparePosition_eq_iff.2 ⟨SameKind.rfl, rfl⟩⟩
  · obtain ⟨f, hf, hstart⟩ := h.startLine.1
    exact ⟨f, hf, comparePosition_eq_iff.2 ⟨h.kind f hf, hstart⟩⟩

end StandsFor

end Vigil.Correlate
