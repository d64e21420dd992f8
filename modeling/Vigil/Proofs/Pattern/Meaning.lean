import Vigil.Pattern.Parser
import Vigil.Proofs.Pattern.Search
import Vigil.Proofs.Text.CaseFolding

/-!
# What patterns mean

A pattern is made of sets of characters and of parts.  A set is kept as ranges, and is built by
merging ranges and joining those that touch; as long as the ranges begin in order, whatever is built
has the members that its parts have.

* `CharSet.holds_unionAll` -- the members of a union are those of its parts;
* `CharSet.holds_caseVariants` -- the set of the variants of a character holds what folds as it does.

`Pattern.Matches` speaks of positions.  To say what a given pattern means it is easier to take a
text apart, into what comes before a stretch, the stretch and what comes after it.  Then every kind
of pattern has its equation, and so have sequences and choices of many parts.

* `isMatch_iff_covers` -- a pattern is found in a text exactly if the text can be taken apart so;
* `covers_sequence`, `covers_choice`, `covers_star` and others -- the equations;
* `covers_letters` -- **a word read without regard to case matches the texts that fold as it does**.
-/

namespace Vigil.CharSet

variable {n : Nat} {r : CodeRange} {k l : List CodeRange} {s t : CharSet}

/-! ## Ranges -/

/-- The ranges begin in ascending order. -/
def InOrder (l : List CodeRange) : Prop :=
  l.Pairwise (·.1 ≤ ·.1)

/-- The code point is in one of the ranges. -/
def Covered (n : Nat) (l : List CodeRange) : Prop :=
  ∃ r ∈ l, r.1 ≤ n ∧ n ≤ r.2

theorem covered_cons : Covered n (r :: l) ↔ (r.1 ≤ n ∧ n ≤ r.2) ∨ Covered n l := by
  simp [Covered]

/-- If ranges begin in order, they can be searched up to the first that begins too late. -/
theorem holdsIn_iff (h : InOrder l) : holdsIn n l = true ↔ Covered n l := by
  induction l with
  | nil => simp [holdsIn, Covered]
  | cons r l ih =>
    obtain ⟨hr, hl⟩ := List.pairwise_cons.1 h
    rw [holdsIn, covered_cons]
    by_cases hn : n < r.1
    · have hlate : ¬Covered n l := by
        rintro ⟨x, hx, hxn, -⟩
        have hle : r.1 ≤ x.1 := hr x hx
        omega
      simp [hn, hlate]
    · simp [hn, ih hl, not_lt.1 hn]

/-! ### Merging -/

theorem mem_mergeRanges {x : CodeRange} : x ∈ mergeRanges k l ↔ x ∈ k ∨ x ∈ l := by
  induction k generalizing l with
  | nil => simp [mergeRanges]
  | cons r k ih =>
    have hsplit : x ∈ l ↔ x ∈ l.takeWhile (·.1 < r.1) ∨ x ∈ l.dropWhile (·.1 < r.1) := by
      rw [← List.mem_append, List.takeWhile_append_dropWhile]
    rw [mergeRanges, List.mem_append, List.mem_cons, ih, List.mem_cons, hsplit]
    grind

theorem le_of_mem_dropWhile (h : InOrder l) {a : Nat} {x : CodeRange}
    (hx : x ∈ l.dropWhile (·.1 < a)) : a ≤ x.1 := by
  induction l with
  | nil => cases hx
  | cons r l ih =>
    obtain ⟨hr, hl⟩ := List.pairwise_cons.1 h
    by_cases ha : r.1 < a
    · simp only [List.dropWhile_cons, ha, decide_true, if_true] at hx
      exact ih hl hx
    · simp only [List.dropWhile_cons, ha, decide_false, Bool.false_eq_true, if_false] at hx
      rcases List.mem_cons.1 hx with rfl | hx
      · exact not_lt.1 ha
      · exact (not_lt.1 ha).trans (hr x hx)

theorem inOrder_mergeRanges (hk : InOrder k) (hl : InOrder l) : InOrder (mergeRanges k l) := by
  induction k generalizing l with
  | nil => exact hl
  | cons r k ih =>
    obtain ⟨hr, hk⟩ := List.pairwise_cons.1 hk
    have hrest : InOrder (l.dropWhile (·.1 < r.1)) := hl.sublist (List.dropWhile_sublist _)
    have hafter : ∀ x ∈ mergeRanges k (l.dropWhile (·.1 < r.1)), r.1 ≤ x.1 := by
      intro x hx
      rcases mem_mergeRanges.1 hx with hx | hx
      · exact hr x hx
      · exact le_of_mem_dropWhile hl hx
    have hbefore : ∀ x ∈ l.takeWhile (·.1 < r.1), x.1 ≤ r.1 := by
      intro x hx
      have hlt : x.1 < r.1 := of_decide_eq_true (List.all_eq_true.1 List.all_takeWhile x hx)
      exact hlt.le
    refine List.pairwise_append.2 ⟨hl.sublist (List.takeWhile_sublist _),
      List.pairwise_cons.2 ⟨hafter, ih hk hrest⟩, fun x hx y hy => ?_⟩
    rcases List.mem_cons.1 hy with rfl | hy
    · exact hbefore x hx
    · exact (hbefore x hx).trans (hafter y hy)

/-! ### Joining -/

/-- Two ranges that touch are one. -/
theorem inOrder_cons_join {x : CodeRange} (h : InOrder (r :: x :: l)) :
    InOrder ((r.1, max r.2 x.2) :: l) := by
  obtain ⟨hr, hl⟩ := List.pairwise_cons.1 h
  exact List.pairwise_cons.2
    ⟨fun y hy => hr y (List.mem_cons_of_mem _ hy), (List.pairwise_cons.1 hl).2⟩

theorem covered_joinFrom (h : InOrder (r :: l)) :
    Covered n (joinFrom r l) ↔ Covered n (r :: l) := by
  induction l generalizing r with
  | nil => rfl
  | cons x l ih =>
    obtain ⟨hr, hl⟩ := List.pairwise_cons.1 h
    have hle : r.1 ≤ x.1 := hr x List.mem_cons_self
    rw [joinFrom]
    split
    · rw [ih (inOrder_cons_join h), covered_cons, covered_cons, covered_cons, ← or_assoc]
      refine or_congr_left ?_
      dsimp only
      omega
    · rw [covered_cons, covered_cons, ih hl]

theorem le_of_mem_joinFrom (h : InOrder (r :: l)) {x : CodeRange} (hx : x ∈ joinFrom r l) :
    r.1 ≤ x.1 := by
  induction l generalizing r with
  | nil =>
    obtain rfl := List.mem_singleton.1 hx
    exact Nat.le_refl _
  | cons y l ih =>
    obtain ⟨hr, hl⟩ := List.pairwise_cons.1 h
    rw [joinFrom] at hx
    split at hx
    · have hjoined : (r.1, max r.2 y.2).1 ≤ x.1 := ih (inOrder_cons_join h) hx
      exact hjoined
    · rcases List.mem_cons.1 hx with rfl | hx
      · exact Nat.le_refl _
      · exact (hr y List.mem_cons_self).trans (ih hl hx)

theorem inOrder_joinFrom (h : InOrder (r :: l)) : InOrder (joinFrom r l) := by
  induction l generalizing r with
  | nil => exact h
  | cons x l ih =>
    obtain ⟨hr, hl⟩ := List.pairwise_cons.1 h
    rw [joinFrom]
    split
    · exact ih (inOrder_cons_join h)
    · refine List.pairwise_cons.2 ⟨fun y hy => ?_, ih hl⟩
      exact (hr x List.mem_cons_self).trans (le_of_mem_joinFrom hl hy)

theorem inOrder_joinRanges (h : InOrder l) : InOrder (joinRanges l) := by
  cases l with
  | nil => exact h
  | cons r l => exact inOrder_joinFrom h

theorem covered_joinRanges (h : InOrder l) : Covered n (joinRanges l) ↔ Covered n l := by
  cases l with
  | nil => rfl
  | cons r l => exact covered_joinFrom h

/-! ## Unions -/

theorem inOrder_union (hs : InOrder s.ranges) (ht : InOrder t.ranges) :
    InOrder (union s t).ranges :=
  inOrder_joinRanges (inOrder_mergeRanges hs ht)

/-- **The members of a union are those of its two parts.** -/
theorem holds_union (hs : InOrder s.ranges) (ht : InOrder t.ranges) :
    (union s t).holds n = true ↔ s.holds n = true ∨ t.holds n = true := by
  have hmerge := inOrder_mergeRanges hs ht
  rw [holds, holds, holds, holdsIn_iff hs, holdsIn_iff ht, union,
    holdsIn_iff (inOrder_joinRanges hmerge), covered_joinRanges hmerge]
  simp only [Covered, mem_mergeRanges]
  grind

section Rounds

variable {sets : List CharSet}

theorem length_unionPairs (sets : List CharSet) :
    (unionPairs sets).length = (sets.length + 1) / 2 := by
  induction sets using unionPairs.induct with
  | case1 s t rest ih => simp only [unionPairs, List.length_cons, ih]; omega
  | case2 sets h =>
    match sets, h with
    | [], _ | [_], _ => simp [unionPairs]
    | s :: t :: rest, h => exact absurd rfl (h s t rest)

/-- A round of unions keeps the members. -/
theorem holds_unionPairs (h : ∀ s ∈ sets, InOrder s.ranges) :
    (∀ s ∈ unionPairs sets, InOrder s.ranges) ∧
      ((∃ s ∈ unionPairs sets, s.holds n = true) ↔ ∃ s ∈ sets, s.holds n = true) := by
  induction sets using unionPairs.induct with
  | case1 s t rest ih =>
    have hs : InOrder s.ranges := h s (by simp)
    have ht : InOrder t.ranges := h t (by simp)
    obtain ⟨horder, hmem⟩ := ih fun u hu => h u (by simp [hu])
    simp only [unionPairs, List.forall_mem_cons, List.exists_mem_cons_iff, holds_union hs ht, hmem,
      or_assoc, and_true]
    exact ⟨inOrder_union hs ht, horder⟩
  | case2 sets hshort =>
    rw [unionPairs.eq_2 sets hshort]
    exact ⟨h, Iff.rfl⟩

/-- As many rounds as there are sets to be joined are enough. -/
theorem holds_unionRounds {rounds : Nat} (h : ∀ s ∈ sets, InOrder s.ranges)
    (hrounds : sets.length ≤ rounds + 1) :
    (unionRounds rounds sets).holds n = true ↔ ∃ s ∈ sets, s.holds n = true := by
  induction rounds generalizing sets with
  | zero =>
    match sets, hrounds with
    | [], _ => simp [unionRounds, empty, holds, holdsIn]
    | [s], _ => simp [unionRounds]
  | succ rounds ih =>
    match sets with
    | [] => simp [unionRounds, empty, holds, holdsIn]
    | [s] => simp [unionRounds]
    | s :: t :: rest =>
      obtain ⟨horder, hmem⟩ := holds_unionPairs (n := n) h
      have hlength := length_unionPairs (s :: t :: rest)
      simp only [List.length_cons] at hlength hrounds
      rw [unionRounds.eq_4 _ _ (by simp) (by simp), ih horder (by omega), hmem]

end Rounds

/-- **The members of a union of many sets are those of each.** -/
theorem holds_unionAll {sets : List CharSet} (h : ∀ s ∈ sets, InOrder s.ranges) :
    (unionAll sets).holds n = true ↔ ∃ s ∈ sets, s.holds n = true :=
  holds_unionRounds h (Nat.le_succ _)

theorem holds_span {a b : Nat} : (span a b).holds n = true ↔ a ≤ n ∧ n ≤ b := by
  rw [holds, span, holdsIn_iff (List.pairwise_singleton _ _)]
  simp [Covered]

theorem holds_ofPoints {points : List Nat} :
    (ofPoints points).holds n = true ↔ n ∈ points := by
  have horder : ∀ s ∈ points.map fun n => span n n, InOrder s.ranges := by
    intro s hs
    obtain ⟨m, -, rfl⟩ := List.mem_map.1 hs
    exact List.pairwise_singleton _ _
  rw [ofPoints, holds_unionAll horder]
  simp only [List.mem_map, exists_exists_and_eq_and, holds_span]
  constructor
  · rintro ⟨m, hm, hmn, hnm⟩
    exact le_antisymm hmn hnm ▸ hm
  · intro hn
    exact ⟨n, hn, Nat.le_refl n, Nat.le_refl n⟩

/-- **The set of the variants of a character holds what folds as it does.** -/
theorem holds_caseVariants {c : Char} :
    (CharSet.caseVariants c).holds n = true ↔ Text.foldPoint n = Text.foldPoint c.toNat := by
  rw [CharSet.caseVariants, holds_ofPoints, Text.mem_caseVariants_iff]

/-- A set with one member only has no other. -/
theorem holds_of_only? {d : Char} (h : s.only? = some d) :
    ∃ a, d = Char.ofNat a ∧ ∀ n, s.holds n = true ↔ n = a := by
  rw [only?] at h
  split at h
  · rename_i a b hranges
    split at h
    · rename_i hab
      refine ⟨a, (Option.some.inj h).symm, fun n => ?_⟩
      have hspan : s = span a b := congrArg CharSet.mk hranges
      rw [hspan, holds_span]
      omega
    · cases h
  · cases h

/-- A character without variants is its own only one. -/
theorem foldPoint_eq_iff_of_only? {c d e : Char}
    (h : (CharSet.caseVariants c).only? = some d) :
    Text.foldPoint e.toNat = Text.foldPoint c.toNat ↔ e = d := by
  obtain ⟨a, rfl, ha⟩ := holds_of_only? h
  simp only [holds_caseVariants] at ha
  obtain rfl : c.toNat = a := (ha c.toNat).1 rfl
  rw [ha, Char.ofNat_toNat, Char.toNat_inj]

end Vigil.CharSet

namespace Vigil.Pattern

variable {p q : Pattern} {ps qs : List Pattern} {t u v w x : List Char}

/-- The pattern matches the stretch `v` between `u` and `w`. -/
def Covers (p : Pattern) (u v w : List Char) : Prop :=
  Matches (u ++ (v ++ w)).toArray p u.length (u.length + v.length)

/-! ## Taking a text apart -/

/-- A match that begins behind `u` is one of a stretch behind `u`. -/
theorem exists_covers {j : Nat} (h : Matches (u ++ t).toArray p u.length j) :
    ∃ v w, t = v ++ w ∧ j = u.length + v.length ∧ p.Covers u v w := by
  obtain ⟨hij, hbound⟩ := h.bounds
  have hj : j ≤ u.length + t.length := by simpa using hbound (by simp)
  have hlength : j = u.length + (t.take (j - u.length)).length := by
    rw [List.length_take]
    omega
  refine ⟨t.take (j - u.length), t.drop (j - u.length), ?_, hlength, ?_⟩
  · rw [List.take_append_drop]
  · rw [Covers, List.take_append_drop, ← hlength]
    exact h

/-- **A pattern is found in a text exactly if it matches a stretch between two others.** -/
theorem isMatch_iff_covers {text : String} (hp : p.boundsInOrder = true) :
    p.isMatch text = true ↔ ∃ u v w, text.toList = u ++ (v ++ w) ∧ p.Covers u v w := by
  rw [isMatch_iff hp]
  constructor
  · rintro ⟨i, j, hi, h⟩
    have hu : (text.toList.take i).length = i := by
      rw [List.length_take]
      omega
    have hparts : Matches (text.toList.take i ++ text.toList.drop i).toArray p
        (text.toList.take i).length j := by
      rwa [List.take_append_drop, hu]
    obtain ⟨v, w, ht, -, hcovers⟩ := exists_covers hparts
    exact ⟨_, v, w, by rw [← ht, List.take_append_drop], hcovers⟩
  · rintro ⟨u, v, w, ht, h⟩
    rw [ht]
    refine ⟨u.length, _, ?_, h⟩
    rw [List.length_append]
    exact Nat.le_add_right _ _

/-! ### What stands at the end of the part before -/

theorem getElem?_length_append (u t : List Char) : (u ++ t).toArray[u.length]? = t.head? := by
  rw [List.getElem?_toArray, List.getElem?_append_right (Nat.le_refl _), Nat.sub_self,
    List.head?_eq_getElem?]

theorem literalAt_append (u t x : List Char) :
    literalAt (u ++ t).toArray x u.length = true ↔ x <+: t := by
  induction x generalizing u t with
  | nil => simp [literalAt]
  | cons c x ih =>
    rw [literalAt, getElem?_length_append]
    cases t with
    | nil => simp
    | cons d t =>
      have hnext : literalAt (u ++ d :: t).toArray x (u.length + 1) = true ↔ x <+: t := by
        rw [List.append_cons, ← ih (u ++ [d]) t, List.length_append, List.length_singleton]
      rw [Bool.and_eq_true, hnext, List.cons_prefix_cons, List.head?_cons, beq_iff_eq,
        Option.some_inj, eq_comm]

theorem charAt_append (u t : List Char) (s : CharSet) :
    charAt (u ++ t).toArray s u.length = t.head?.any fun c => s.holds c.toNat := by
  rw [charAt, getElem?_length_append]

/-! ## Single parts -/

theorem covers_empty : empty.Covers u v w ↔ v = [] := by
  rw [Covers, matches_empty_iff, Nat.add_eq_left, List.length_eq_zero_iff]

theorem covers_literal : (literal x).Covers u v w ↔ v = x := by
  rw [Covers, matches_literal_iff, literalAt_append, Nat.add_left_cancel_iff]
  constructor
  · rintro ⟨hstart, hlength⟩
    exact ((List.prefix_of_prefix_length_le hstart (List.prefix_append v w)
      hlength.ge).eq_of_length hlength.symm).symm
  · rintro rfl
    exact ⟨List.prefix_append v w, rfl⟩

theorem covers_chars {s : CharSet} :
    (chars s).Covers u v w ↔ ∃ c, s.holds c.toNat = true ∧ v = [c] := by
  rw [Covers, matches_chars_iff, charAt_append, Nat.add_left_cancel_iff, List.length_eq_one_iff]
  constructor
  · rintro ⟨hc, c, rfl⟩
    exact ⟨c, hc, rfl⟩
  · rintro ⟨c, hc, rfl⟩
    exact ⟨hc, c, rfl⟩

theorem covers_textStart : (look .textStart).Covers u v w ↔ v = [] ∧ u = [] := by
  rw [Covers, matches_look_iff, Nat.add_eq_left, List.length_eq_zero_iff, and_comm]
  refine and_congr_right fun _ => ?_
  rcases List.eq_nil_or_concat u with rfl | ⟨u, c, rfl⟩
  · simp [lookAt, Look.holds]
  · have hbefore : (u ++ [c] ++ (v ++ w)).toArray[(u ++ [c]).length - 1]? = some c := by
      rw [List.length_append, List.length_singleton, Nat.add_sub_cancel, List.append_assoc,
        getElem?_length_append]
      rfl
    rw [lookAt, List.concat_eq_append, hbefore]
    simp [Look.holds]

theorem covers_textEnd : (look .textEnd).Covers u v w ↔ v = [] ∧ w = [] := by
  rw [Covers, matches_look_iff, Nat.add_eq_left, List.length_eq_zero_iff, and_comm]
  refine and_congr_right fun hv => ?_
  rw [lookAt, getElem?_length_append]
  simp [Look.holds, hv]

/-! ## Composed patterns -/

theorem covers_group {n : Nat} : (group n p).Covers u v w ↔ p.Covers u v w :=
  ⟨fun | .group h => h, .group⟩

theorem covers_choice : (choice p q).Covers u v w ↔ p.Covers u v w ∨ q.Covers u v w :=
  ⟨fun | .left h => .inl h | .right h => .inr h, fun h => h.elim .left .right⟩

/-- One match behind another one is a stretch that is taken apart. -/
theorem exists_matches_iff :
    (∃ k, Matches (u ++ (v ++ w)).toArray p u.length k ∧
        Matches (u ++ (v ++ w)).toArray q k (u.length + v.length)) ↔
      ∃ v₁ v₂, v = v₁ ++ v₂ ∧ p.Covers u v₁ (v₂ ++ w) ∧ q.Covers (u ++ v₁) v₂ w := by
  constructor
  · rintro ⟨k, hp, hq⟩
    obtain ⟨v₁, t, ht, hk, hcovers⟩ := exists_covers hp
    rw [ht, hk, ← List.append_assoc, ← List.length_append] at hq
    obtain ⟨v₂, w', rfl, hlength, hcovers'⟩ := exists_covers hq
    rw [List.length_append, Nat.add_assoc, Nat.add_left_cancel_iff, ← List.length_append] at hlength
    rw [← List.append_assoc] at ht
    obtain ⟨rfl, rfl⟩ := List.append_inj ht hlength
    exact ⟨v₁, v₂, rfl, hcovers, hcovers'⟩
  · rintro ⟨v₁, v₂, rfl, hp, hq⟩
    rw [Covers, List.append_assoc, List.length_append] at hq
    rw [List.length_append, ← Nat.add_assoc, List.append_assoc]
    exact ⟨u.length + v₁.length, hp, hq⟩

theorem covers_sequence :
    (sequence p q).Covers u v w ↔
      ∃ v₁ v₂, v = v₁ ++ v₂ ∧ p.Covers u v₁ (v₂ ++ w) ∧ q.Covers (u ++ v₁) v₂ w := by
  rw [← exists_matches_iff]
  exact ⟨fun | .sequence hp hq => ⟨_, hp, hq⟩, fun ⟨_, hp, hq⟩ => .sequence hp hq⟩

/-- A repetition at will is nothing, or the pattern and then such a repetition. -/
theorem covers_repetition {r : Bool} :
    (repetition p 0 none r).Covers u v w ↔ v = [] ∨
      ∃ v₁ v₂, v = v₁ ++ v₂ ∧ p.Covers u v₁ (v₂ ++ w) ∧
        (repetition p 0 none r).Covers (u ++ v₁) v₂ w := by
  have hsteps {text : Subject} {i j : Nat} : Matches text (repetition p 0 none r) i j ↔
      j = i ∨ ∃ k, Matches text p i k ∧ Matches text (repetition p 0 none r) k j :=
    ⟨fun | .done _ => .inl rfl | .again h hs => .inr ⟨_, h, hs⟩,
      fun | .inl h => h ▸ .done _ | .inr ⟨_, h, hs⟩ => .again h hs⟩
  rw [← exists_matches_iff, Covers, hsteps, Nat.add_eq_left, List.length_eq_zero_iff]

/-- A character of a set, repeated at will, matches the texts of such characters. -/
theorem covers_star {s : CharSet} {r : Bool} :
    (repetition (chars s) 0 none r).Covers u v w ↔ ∀ c ∈ v, s.holds c.toNat = true := by
  induction v generalizing u with
  | nil =>
    rw [covers_repetition]
    simp
  | cons c v ih =>
    rw [covers_repetition, List.forall_mem_cons]
    simp only [covers_chars]
    constructor
    · rintro (hnil | ⟨_, v₂, hv, ⟨d, hd, rfl⟩, hs⟩)
      · cases hnil
      · obtain ⟨rfl, rfl⟩ := List.cons.inj hv
        exact ⟨hd, ih.1 hs⟩
    · rintro ⟨hc, hs⟩
      exact .inr ⟨[c], v, rfl, ⟨c, hc, rfl⟩, ih.2 hs⟩

/-! ## Many parts -/

theorem covers_ofSteps_cons :
    (ofSteps (p :: ps)).Covers u v w ↔ (sequence p (ofSteps ps)).Covers u v w := by
  cases ps with
  | nil => simp [ofSteps, covers_sequence, covers_empty]
  | cons q ps => rfl

theorem covers_ofSteps_append :
    (ofSteps (ps ++ qs)).Covers u v w ↔
      ∃ v₁ v₂, v = v₁ ++ v₂ ∧ (ofSteps ps).Covers u v₁ (v₂ ++ w) ∧
        (ofSteps qs).Covers (u ++ v₁) v₂ w := by
  induction ps generalizing u v with
  | nil => simp [ofSteps, covers_empty]
  | cons p ps ih =>
    simp only [List.cons_append, covers_ofSteps_cons, covers_sequence, ih]
    constructor
    · rintro ⟨v₁, _, rfl, hp, v₂, v₃, rfl, hps, hqs⟩
      refine ⟨v₁ ++ v₂, v₃, by simp, ⟨v₁, v₂, rfl, by simpa using hp, hps⟩, by simpa using hqs⟩
    · rintro ⟨_, v₃, rfl, ⟨v₁, v₂, rfl, hp, hps⟩, hqs⟩
      exact ⟨v₁, v₂ ++ v₃, by simp, by simpa using hp, v₂, v₃, rfl, hps, by simpa using hqs⟩

theorem covers_ofAlternatives :
    (ofAlternatives ps).Covers u v w ↔ ∃ p ∈ ps, p.Covers u v w := by
  induction ps with
  | nil => simp [ofAlternatives, covers_chars, CharSet.empty, CharSet.holds, CharSet.holdsIn]
  | cons p ps ih =>
    cases ps with
    | nil => simp [ofAlternatives]
    | cons q ps => rw [List.exists_mem_cons_iff, ← ih]; exact covers_choice

theorem boundsInOrder_ofSteps (h : ∀ p ∈ ps, p.boundsInOrder = true) :
    (ofSteps ps).boundsInOrder = true := by
  induction ps with
  | nil => rfl
  | cons p ps ih =>
    obtain ⟨hp, hps⟩ := List.forall_mem_cons.1 h
    cases ps with
    | nil => exact hp
    | cons q ps => exact Bool.and_eq_true_iff.2 ⟨hp, ih hps⟩

theorem boundsInOrder_ofAlternatives (h : ∀ p ∈ ps, p.boundsInOrder = true) :
    (ofAlternatives ps).boundsInOrder = true := by
  induction ps with
  | nil => rfl
  | cons p ps ih =>
    obtain ⟨hp, hps⟩ := List.forall_mem_cons.1 h
    cases ps with
    | nil => exact hp
    | cons q ps => exact Bool.and_eq_true_iff.2 ⟨hp, ih hps⟩

/-! ## Words without regard to case -/

/-- What a single character matches without regard to case. -/
theorem covers_ofChar {c : Char} :
    (ofChar { ignoreCase := true } c).Covers u v w ↔
      ∃ d, Text.foldPoint d.toNat = Text.foldPoint c.toNat ∧ v = [d] := by
  have hset : ofChar { ignoreCase := true } c = ofSet (.caseVariants c) := rfl
  rw [hset, ofSet]
  split
  · rename_i d honly
    simp only [covers_literal, CharSet.foldPoint_eq_iff_of_only? honly, exists_eq_left]
  · simp only [covers_chars, CharSet.holds_caseVariants]

/-- The parts of a word that is read without regard to case. -/
def letters (x : List Char) : List Pattern :=
  x.map (ofChar { ignoreCase := true })

theorem boundsInOrder_of_mem_letters (h : p ∈ letters x) : p.boundsInOrder = true := by
  obtain ⟨c, -, rfl⟩ := List.mem_map.1 h
  show (ofSet (.caseVariants c)).boundsInOrder = true
  rw [ofSet]
  split <;> rfl

/-- **A word read without regard to case matches the texts that fold as it does.** -/
theorem covers_letters :
    (ofSteps (letters x)).Covers u v w ↔ Text.folded v = Text.folded x := by
  induction x generalizing u v with
  | nil => simp [letters, ofSteps, covers_empty, Text.folded]
  | cons c x ih =>
    simp only [letters, List.map_cons] at ih ⊢
    simp only [covers_ofSteps_cons, covers_sequence, covers_ofChar, ih, Text.folded, List.map_cons]
    constructor
    · rintro ⟨_, v, rfl, ⟨d, hd, rfl⟩, hv⟩
      simp [hd, hv]
    · intro h
      obtain ⟨d, v, rfl, hd, hv⟩ := List.map_eq_cons_iff.1 h
      exact ⟨[d], v, rfl, ⟨d, hd, rfl⟩, hv⟩

end Vigil.Pattern
