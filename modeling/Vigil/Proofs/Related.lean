import Mathlib.Data.List.Forall2

/-!
# Lists related member by member

Correlation relates each group to the finding that stands for it, and triage each finding to what
it becomes.  `exists_left_of_forall₂` and `exists_right_of_forall₂` follow a member from one list
to the other; `pairwise_of_forall₂` carries over what relates any two members.  The other way round,
`forall₂_of_ascending` relates two ascending lists whose members can be followed in both directions.
-/

namespace Vigil

variable {α β : Type} {R : α → β → Prop}

theorem exists_right_of_forall₂ {xs : List α} {us : List β} (h : List.Forall₂ R xs us) {x : α}
    (hx : x ∈ xs) : ∃ u ∈ us, R x u := by
  induction h with
  | nil => cases hx
  | @cons y u xs us hyu _ ih =>
    rcases List.mem_cons.1 hx with rfl | hx
    · exact ⟨u, List.mem_cons_self .., hyu⟩
    · obtain ⟨v, hv, hxv⟩ := ih hx
      exact ⟨v, List.mem_cons_of_mem _ hv, hxv⟩

theorem exists_left_of_forall₂ {xs : List α} {us : List β} (h : List.Forall₂ R xs us) {u : β}
    (hu : u ∈ us) : ∃ x ∈ xs, R x u := by
  have hflip : List.Forall₂ (flip R) us xs := List.Forall₂.flip h
  exact exists_right_of_forall₂ hflip hu

/-- What relates any two members of the first list carries over to the second. -/
theorem pairwise_of_forall₂ {S : α → α → Prop} {T : β → β → Prop}
    (hST : ∀ {x y u v}, R x u → R y v → S x y → T u v) {xs : List α} {us : List β}
    (h : List.Forall₂ R xs us) (hxs : xs.Pairwise S) : us.Pairwise T := by
  induction h with
  | nil => exact List.Pairwise.nil
  | @cons x u xs us hxu hrest ih =>
    obtain ⟨hx, hxs⟩ := List.pairwise_cons.1 hxs
    refine List.pairwise_cons.2 ⟨fun v hv => ?_, ih hxs⟩
    obtain ⟨y, hy, hyv⟩ := exists_left_of_forall₂ hrest hv
    exact hST hxu hyv (hx y hy)

/-- Ascending lists are related member by member if each member of one is related to some member of
the other, and only members of one rank are related. -/
theorem forall₂_of_ascending {cmp : α → α → Ordering} [Std.TransCmp cmp] {S : α → α → Prop}
    (hS : ∀ {x u}, S x u → cmp x u = .eq) {xs us : List α}
    (hxs : xs.Pairwise fun x y => cmp x y = .lt) (hus : us.Pairwise fun u v => cmp u v = .lt)
    (hright : ∀ x ∈ xs, ∃ u ∈ us, S x u) (hleft : ∀ u ∈ us, ∃ x ∈ xs, S x u) :
    List.Forall₂ S xs us := by
  induction xs generalizing us with
  | nil =>
    cases us with
    | nil => exact List.Forall₂.nil
    | cons u us =>
      obtain ⟨x, hx, -⟩ := hleft u (List.mem_cons_self ..)
      cases hx
  | cons x xs ih =>
    cases us with
    | nil =>
      obtain ⟨u, hu, -⟩ := hright x (List.mem_cons_self ..)
      cases hu
    | cons u us =>
      obtain ⟨hx, hxs⟩ := List.pairwise_cons.1 hxs
      obtain ⟨hu, hus⟩ := List.pairwise_cons.1 hus
      have hfirst : S x u := by
        obtain ⟨v, hv, hxv⟩ := hright x (List.mem_cons_self ..)
        obtain ⟨y, hy, hyu⟩ := hleft u (List.mem_cons_self ..)
        rcases List.mem_cons.1 hv with rfl | hv
        · exact hxv
        rcases List.mem_cons.1 hy with rfl | hy
        · exact hyu
        -- Then `x` is below `y`, which has the rank of `u`, and so below `v`, whose rank it has.
        have hbelow : cmp x u = .lt := Std.TransCmp.lt_of_lt_of_eq (hx y hy) (hS hyu)
        have hlt : cmp x v = .lt := Std.TransCmp.lt_trans hbelow (hu v hv)
        rw [hS hxv] at hlt
        cases hlt
      refine List.Forall₂.cons hfirst (ih hxs hus (fun y hy => ?_) fun v hv => ?_)
      · obtain ⟨v, hv, hyv⟩ := hright y (List.mem_cons_of_mem _ hy)
        rcases List.mem_cons.1 hv with rfl | hv
        · have hlt : cmp x v = .lt := Std.TransCmp.lt_of_lt_of_eq (hx y hy) (hS hyv)
          rw [hS hfirst] at hlt
          cases hlt
        · exact ⟨v, hv, hyv⟩
      · obtain ⟨y, hy, hyv⟩ := hleft v (List.mem_cons_of_mem _ hv)
        rcases List.mem_cons.1 hy with rfl | hy
        · have hlt : cmp y v = .lt := Std.TransCmp.lt_of_eq_of_lt (hS hfirst) (hu v hv)
          rw [hS hyv] at hlt
          cases hlt
        · exact ⟨y, hy, hyv⟩

end Vigil
