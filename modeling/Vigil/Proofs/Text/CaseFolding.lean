import Mathlib.Data.List.Chain
import Vigil.Proofs.Text.SmallLetters

/-!
# Letters that differ in case only

Case folding sends every letter to a representative of those that differ from it in case only.  That
the representatives stay where they are, and that `caseVariants` lists just the letters with a common
representative, depends on the table.

* `folding_checked` -- the check of the table: its shifts come one after another, and none that a
  shift leads to is sent on;
* `mem_caseVariants_iff` -- **the variants of a character are those that fold as it does**;
* `folded` -- texts are equal up to case if their letters fold alike.
-/

namespace Vigil.Text

namespace Shift

/-- A shift leads from a code point to another one exactly if the way back is found from there. -/
theorem source?_eq_some_iff {s : Shift} {n m : Nat} :
    s.source? m = some n ↔ s.image? n = some m := by
  refine ⟨fun h => ?_, source?_of_image?⟩
  rw [source?] at h
  split at h
  · rename_i hcovers
    simp only [Bool.and_eq_true, decide_eq_true_eq] at hcovers
    obtain rfl := Option.some.inj h
    rw [image?, if_pos hcovers.2]
    exact congrArg some (by omega)
  · cases h

/-- The code points of a shift all come before those of another one. -/
def Precedes (s t : Shift) : Prop :=
  s.2.1 < t.1 ∧ t.1 ≤ t.2.1

instance (s t : Shift) : Decidable (s.Precedes t) := instDecidableAnd

instance : IsTrans Shift Precedes :=
  ⟨fun _ _ _ hst htu => ⟨by have := hst.2; have := htu.1; have := hst.1; omega, htu.2⟩⟩

theorem image?_eq_none_of_precedes {s t : Shift} (h : s.Precedes t) {n m : Nat}
    (ht : t.image? n = some m) : s.image? n = none := by
  have hcovers : t.domain.holds n = true := by
    rw [← Bool.not_eq_false, ← image?_eq_none_iff, ht]
    exact Option.some_ne_none m
  refine image?_eq_none_iff.2 (Bool.eq_false_iff.2 fun hs => ?_)
  have hbefore : n ≤ s.2.1 := (Span.bounds_of_holds hs).2
  have hbehind : t.1 ≤ n := (Span.bounds_of_holds hcovers).1
  have hapart : s.2.1 < t.1 := h.1
  omega

/-- No code point that a shift leads to is sent on by case folding. -/
def isSettled (s : Shift) : Bool :=
  (Shifts.folding.map domain).all s.images.isApart

end Shift

/-! ## The table -/

/-- **The shifts of the table come one after another, and what they lead to is not sent on.** -/
theorem folding_checked :
    Shifts.folding.IsChain Shift.Precedes ∧ Shifts.folding.all Shift.isSettled = true := by
  decide +kernel

/-- If shifts come one after another, any of them that covers a code point decides where it is
sent. -/
theorem findSome?_image? {l : List Shift} (hl : l.Pairwise Shift.Precedes) {s : Shift} (hs : s ∈ l)
    {n m : Nat} (h : s.image? n = some m) : l.findSome? (·.image? n) = some m := by
  induction l with
  | nil => cases hs
  | cons t l ih =>
    obtain ⟨ht, hl⟩ := List.pairwise_cons.1 hl
    rcases List.mem_cons.1 hs with rfl | hs
    · rw [List.findSome?_cons, h]
    · rw [List.findSome?_cons, Shift.image?_eq_none_of_precedes (ht s hs) h]
      exact ih hl hs

theorem foldPoint_of_image? {s : Shift} (hs : s ∈ Shifts.folding) {n m : Nat}
    (h : s.image? n = some m) : foldPoint n = m := by
  rw [foldPoint, shifted, findSome?_image? folding_checked.1.pairwise hs h, Option.getD_some]

/-- A code point is its own representative, or a shift leads to its representative. -/
theorem foldPoint_cases (n : Nat) :
    foldPoint n = n ∨ ∃ s ∈ Shifts.folding, s.image? n = some (foldPoint n) := by
  rw [foldPoint, shifted]
  cases hfound : Shifts.folding.findSome? (·.image? n) with
  | none => exact .inl rfl
  | some m =>
    obtain ⟨s, hs, hm⟩ := List.exists_of_findSome?_eq_some hfound
    exact .inr ⟨s, hs, hm⟩

/-- **A representative represents itself.** -/
theorem foldPoint_foldPoint (n : Nat) : foldPoint (foldPoint n) = foldPoint n := by
  rcases foldPoint_cases n with h | ⟨s, hs, himage⟩
  · rw [h, h]
  · rcases foldPoint_cases (foldPoint n) with h' | ⟨t, ht, himage'⟩
    · exact h'
    · have hsettled := List.all_eq_true.1 (List.all_eq_true.1 folding_checked.2 s hs) t.domain
        (List.mem_map_of_mem ht)
      have hnone := Span.not_holds_of_isApart hsettled (Shift.holds_images himage)
      rw [Shift.image?_eq_none_iff.2 hnone] at himage'
      cases himage'

/-- **The variants of a character are those that fold as it does.** -/
theorem mem_caseVariants_iff {n m : Nat} : n ∈ caseVariants m ↔ foldPoint n = foldPoint m := by
  rw [caseVariants, foldSources, List.mem_cons, List.mem_filterMap]
  simp only [Shift.source?_eq_some_iff]
  constructor
  · rintro (rfl | ⟨s, hs, himage⟩)
    · exact foldPoint_foldPoint m
    · exact foldPoint_of_image? hs himage
  · intro h
    rcases foldPoint_cases n with hself | ⟨s, hs, himage⟩
    · exact .inl (hself.symm.trans h)
    · exact .inr ⟨s, hs, h ▸ himage⟩

/-! ## Texts -/

/-- The representatives of the characters of a text.  Texts are equal up to case if they have the
same representatives. -/
def folded (s : List Char) : List Nat :=
  s.map fun c => foldPoint c.toNat

theorem folded_prefix_iff {s t : List Char} :
    folded s <+: folded t ↔ ∃ u v, t = u ++ v ∧ folded u = folded s := by
  constructor
  · rintro ⟨r, h⟩
    obtain ⟨u, v, rfl, hu, -⟩ := List.map_eq_append_iff.1 h.symm
    exact ⟨u, v, rfl, hu⟩
  · rintro ⟨u, v, rfl, hu⟩
    exact ⟨folded v, by rw [← hu]; exact List.map_append.symm⟩

theorem folded_suffix_iff {s t : List Char} :
    folded s <:+ folded t ↔ ∃ u v, t = u ++ v ∧ folded v = folded s := by
  constructor
  · rintro ⟨r, h⟩
    obtain ⟨u, v, rfl, -, hv⟩ := List.map_eq_append_iff.1 h.symm
    exact ⟨u, v, rfl, hv⟩
  · rintro ⟨u, v, rfl, hv⟩
    exact ⟨folded u, by rw [← hv]; exact List.map_append.symm⟩

/-- A character that no character of a text folds to is in none that is equal to it up to case. -/
theorem not_mem_of_folded_eq {c : Char} {s t : List Char} (h : folded s = folded t)
    (hc : foldPoint c.toNat ∉ folded t) : c ∉ s :=
  fun hmem => hc (h ▸ List.mem_map_of_mem hmem)

end Vigil.Text
