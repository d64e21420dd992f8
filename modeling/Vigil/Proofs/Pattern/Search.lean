import Mathlib.Order.Nat
import Vigil.Pattern.Match

/-!
# The search finds what there is

`Pattern.Matches` says which stretches of a text a pattern matches; `Pattern.advance` follows the
pattern from many positions at once.  Here the second is shown to compute the first.  A repetition
takes the most care: its rounds go on from new positions only, and they end after as many rounds as
the text has positions.

* `Follows` -- a step from a list of positions to another one follows a relation between single
  positions;
* `Follows.rounds` and `Follows.closure` -- so do a fixed number of rounds, and the search that
  collects what is reached in any smaller number;
* `follows_advance` -- **the search follows the matches of its pattern**;
* `isMatch_iff` -- so a pattern is found in a text exactly if it matches some stretch of it.
-/

namespace Vigil.Pattern

/-! ## Lists of positions -/

/-- Strictly ascending positions, none of them beyond the last one. -/
structure IsPlaces (last : Nat) (s : List Nat) : Prop where
  ascending : s.Pairwise (· < ·)
  le_last : ∀ i ∈ s, i ≤ last

section Places

variable {i j last : Nat} {s t : List Nat}

theorem isPlaces_nil (last : Nat) : IsPlaces last [] :=
  ⟨List.Pairwise.nil, fun _ h => absurd h List.not_mem_nil⟩

theorem isPlaces_range (last : Nat) : IsPlaces last (List.range (last + 1)) where
  ascending := List.pairwise_lt_range
  le_last i hi := by
    rw [List.mem_range] at hi
    omega

theorem IsPlaces.sublist (ht : IsPlaces last t) (h : s.Sublist t) : IsPlaces last s :=
  ⟨ht.ascending.sublist h, fun i hi => ht.le_last i (h.subset hi)⟩

/-- In an ascending list, what a condition on small numbers takes off the front is all that meets
it. -/
theorem mem_takeWhile_iff {p : Nat → Bool} (hp : ∀ a b, a < b → p b = true → p a = true)
    (ht : t.Pairwise (· < ·)) : j ∈ t.takeWhile p ↔ j ∈ t ∧ p j = true := by
  induction t with
  | nil => simp
  | cons a t ih =>
    obtain ⟨ha, ht⟩ := List.pairwise_cons.1 ht
    by_cases h : p a = true
    · rw [List.takeWhile_cons_of_pos h, List.mem_cons, List.mem_cons, ih ht]
      grind
    · rw [List.takeWhile_cons_of_neg h]
      grind

theorem mem_dropWhile_iff {p : Nat → Bool} (hp : ∀ a b, a < b → p b = true → p a = true)
    (ht : t.Pairwise (· < ·)) : j ∈ t.dropWhile p ↔ j ∈ t ∧ p j = false := by
  induction t with
  | nil => simp
  | cons a t ih =>
    obtain ⟨ha, ht⟩ := List.pairwise_cons.1 ht
    by_cases h : p a = true
    · rw [List.dropWhile_cons_of_pos h, List.mem_cons, ih ht]
      grind
    · rw [List.dropWhile_cons_of_neg h]
      grind

theorem mem_takeWhile_lt (ht : t.Pairwise (· < ·)) :
    j ∈ t.takeWhile (· < i) ↔ j ∈ t ∧ j < i := by
  rw [mem_takeWhile_iff (by simp; omega) ht, decide_eq_true_eq]

theorem mem_dropWhile_lt (ht : t.Pairwise (· < ·)) :
    j ∈ t.dropWhile (· < i) ↔ j ∈ t ∧ i ≤ j := by
  rw [mem_dropWhile_iff (by simp; omega) ht, decide_eq_false_iff_not, not_lt]

theorem mem_dropWhile_le (ht : t.Pairwise (· < ·)) :
    j ∈ t.dropWhile (· ≤ i) ↔ j ∈ t ∧ i < j := by
  rw [mem_dropWhile_iff (by simp; omega) ht, decide_eq_false_iff_not, not_le]

/-! ### Joining and taking away -/

theorem mem_merge (ht : t.Pairwise (· < ·)) : j ∈ merge s t ↔ j ∈ s ∨ j ∈ t := by
  induction s generalizing t with
  | nil => simp [merge]
  | cons i s ih =>
    have hrest : (t.dropWhile (· ≤ i)).Pairwise (· < ·) := ht.sublist (List.dropWhile_sublist _)
    rw [merge, List.mem_append, List.mem_cons, ih hrest, mem_takeWhile_lt ht, mem_dropWhile_le ht,
      List.mem_cons]
    grind

theorem pairwise_merge (hs : s.Pairwise (· < ·)) (ht : t.Pairwise (· < ·)) :
    (merge s t).Pairwise (· < ·) := by
  induction s generalizing t with
  | nil => exact ht
  | cons i s ih =>
    obtain ⟨hi, hs⟩ := List.pairwise_cons.1 hs
    have hrest : (t.dropWhile (· ≤ i)).Pairwise (· < ·) := ht.sublist (List.dropWhile_sublist _)
    have hafter : ∀ j ∈ merge s (t.dropWhile (· ≤ i)), i < j := by
      intro j hj
      rcases (mem_merge hrest).1 hj with hj | hj
      · exact hi j hj
      · exact ((mem_dropWhile_le ht).1 hj).2
    have hbefore : ∀ j ∈ t.takeWhile (· < i), j < i := fun j hj => ((mem_takeWhile_lt ht).1 hj).2
    rw [merge, List.pairwise_append]
    refine ⟨ht.sublist (List.takeWhile_sublist _), List.pairwise_cons.2 ⟨hafter, ih hs hrest⟩, ?_⟩
    intro a ha b hb
    rcases List.mem_cons.1 hb with rfl | hb
    · exact hbefore a ha
    · exact (hbefore a ha).trans (hafter b hb)

theorem IsPlaces.merge (hs : IsPlaces last s) (ht : IsPlaces last t) :
    IsPlaces last (merge s t) where
  ascending := pairwise_merge hs.ascending ht.ascending
  le_last i hi := ((mem_merge ht.ascending).1 hi).elim (hs.le_last i) (ht.le_last i)

theorem head?_dropWhile_lt_iff (ht : t.Pairwise (· < ·)) :
    (t.dropWhile (· < i)).head? = some i ↔ i ∈ t := by
  have hmem : ∀ {j}, j ∈ t.dropWhile (· < i) ↔ j ∈ t ∧ i ≤ j := mem_dropWhile_lt ht
  have hrest : (t.dropWhile (· < i)).Pairwise (· < ·) := ht.sublist (List.dropWhile_sublist _)
  cases hdrop : t.dropWhile (· < i) with
  | nil => grind
  | cons a rest =>
    rw [hdrop] at hmem hrest
    have ha : ∀ b ∈ rest, a < b := (List.pairwise_cons.1 hrest).1
    have hle : i ≤ a := (hmem.1 List.mem_cons_self).2
    grind

theorem without_sublist (s t : List Nat) : (without s t).Sublist s := by
  induction s generalizing t with
  | nil => exact List.Sublist.slnil
  | cons i s ih =>
    simp only [without]
    split
    · exact (ih _).cons _
    · exact (ih _).cons_cons _

theorem mem_without (hs : s.Pairwise (· < ·)) (ht : t.Pairwise (· < ·)) :
    j ∈ without s t ↔ j ∈ s ∧ j ∉ t := by
  induction s generalizing t with
  | nil => simp [without]
  | cons i s ih =>
    obtain ⟨hi, hs⟩ := List.pairwise_cons.1 hs
    have hrest : (t.dropWhile (· < i)).Pairwise (· < ·) := ht.sublist (List.dropWhile_sublist _)
    have hlater : j ∈ without s (t.dropWhile (· < i)) ↔ j ∈ s ∧ j ∉ t := by
      rw [ih hs hrest, mem_dropWhile_lt ht]
      grind
    simp only [without, beq_iff_eq, head?_dropWhile_lt_iff ht]
    split <;> grind

end Places

/-! ## Steps that follow a relation -/

section Steps

variable {last : Nat} {R Q : Nat → Nat → Prop} {step next : List Nat → List Nat} {s : List Nat}

/-- A step leads from every list of positions to the list of those that a relation leads to from
one of them. -/
structure Follows (last : Nat) (R : Nat → Nat → Prop) (step : List Nat → List Nat) : Prop where
  places : ∀ {s}, IsPlaces last s → IsPlaces last (step s)
  mem_iff : ∀ {s}, IsPlaces last s → ∀ {j}, j ∈ step s ↔ ∃ i ∈ s, R i j

/-- The relation so many times in a row. -/
def Times (R : Nat → Nat → Prop) : Nat → Nat → Nat → Prop
  | 0, i, j => i = j
  | k + 1, i, j => ∃ m, R i m ∧ Times R k m j

theorem times_add {k l i j : Nat} :
    Times R (k + l) i j ↔ ∃ m, Times R k i m ∧ Times R l m j := by
  induction k generalizing i with
  | zero => simp [Times]
  | succ k ih =>
    rw [Nat.succ_add]
    simp only [Times, ih]
    grind

/-- To keep some positions and move each of them on by a fixed distance is a step. -/
theorem follows_filter_map {p : Nat → Bool} {d : Nat}
    (hlast : ∀ i, p i = true → i ≤ last → i + d ≤ last) :
    Follows last (fun i j => p i = true ∧ j = i + d) fun s => (s.filter p).map (· + d) where
  places {s} hs := by
    refine ⟨List.pairwise_map.2 ?_, ?_⟩
    · exact (hs.ascending.sublist List.filter_sublist).imp (by omega)
    · simp only [List.mem_map, List.mem_filter]
      rintro j ⟨i, ⟨hi, hp⟩, rfl⟩
      exact hlast i hp (hs.le_last i hi)
  mem_iff {s} _ j := by
    simp only [List.mem_map, List.mem_filter]
    grind

theorem Follows.imp (h : Follows last R step) (hRQ : ∀ i j, R i j ↔ Q i j) :
    Follows last Q step where
  places := h.places
  mem_iff hs j := by
    rw [h.mem_iff hs]
    simp only [hRQ]

/-- One step after another. -/
theorem Follows.comp (h : Follows last R step) (h' : Follows last Q next) :
    Follows last (fun i j => ∃ m, R i m ∧ Q m j) fun s => next (step s) where
  places hs := h'.places (h.places hs)
  mem_iff hs j := by
    rw [h'.mem_iff (h.places hs)]
    simp only [h.mem_iff hs]
    grind

/-- Two steps from the same positions. -/
theorem Follows.merge (h : Follows last R step) (h' : Follows last Q next) :
    Follows last (fun i j => R i j ∨ Q i j) fun s => merge (step s) (next s) where
  places hs := (h.places hs).merge (h'.places hs)
  mem_iff hs j := by
    rw [mem_merge (h'.places hs).ascending, h.mem_iff hs, h'.mem_iff hs]
    grind

/-! ### A number of rounds -/

/-- Where a step leads back to its positions, so does any number of steps. -/
theorem Follows.mem_iff_of_fixed (h : Follows last R step) (hs : IsPlaces last s)
    (hfixed : step s = s) (k : Nat) {j : Nat} : j ∈ s ↔ ∃ i ∈ s, Times R k i j := by
  induction k generalizing j with
  | zero => simp [Times]
  | succ k ih =>
    have hstep : ∀ {m}, m ∈ s ↔ ∃ i ∈ s, R i m := by
      intro m
      conv_lhs => rw [← hfixed]
      exact h.mem_iff hs
    rw [ih]
    simp only [Times]
    grind

theorem Follows.rounds (h : Follows last R step) (k : Nat) :
    Follows last (Times R k) (rounds step k) := by
  induction k with
  | zero => exact ⟨id, by simp [Pattern.rounds, Times]⟩
  | succ k ih =>
    constructor
    · intro s hs
      simp only [Pattern.rounds]
      split
      · exact hs
      · exact ih.places (h.places hs)
    · intro s hs j
      simp only [Pattern.rounds]
      split
      · rename_i hfixed
        exact h.mem_iff_of_fixed hs hfixed (k + 1)
      · rw [ih.mem_iff (h.places hs)]
        simp only [h.mem_iff hs, Times]
        grind

/-! ### Any smaller number of rounds -/

/-- The state of a search: `seen` holds what has been reached, and wherever the relation leads from
there is in it too, unless it leads there from `front`. -/
structure Explored (last : Nat) (R : Nat → Nat → Prop) (seen front : List Nat) : Prop where
  seen_places : IsPlaces last seen
  front_places : IsPlaces last front
  front_seen : ∀ i ∈ front, i ∈ seen
  done : ∀ i ∈ seen, i ∈ front ∨ ∀ j, R i j → j ∈ seen

variable {seen front : List Nat}

theorem explored_self (hs : IsPlaces last s) : Explored last R s s :=
  ⟨hs, hs, fun _ => id, fun _ => .inl⟩

/-- What a round finds that is new. -/
theorem Follows.mem_fresh (h : Follows last R step) (hx : Explored last R seen front) {j : Nat} :
    j ∈ without (step front) seen ↔ (∃ i ∈ front, R i j) ∧ j ∉ seen := by
  rw [mem_without (h.places hx.front_places).ascending hx.seen_places.ascending,
    h.mem_iff hx.front_places]

/-- A round keeps the state of a search. -/
theorem Follows.explored (h : Follows last R step) (hx : Explored last R seen front) :
    Explored last R (Pattern.merge seen (without (step front) seen))
      (without (step front) seen) := by
  have hfresh : IsPlaces last (without (step front) seen) :=
    (h.places hx.front_places).sublist (without_sublist _ _)
  have hmem : ∀ {j}, j ∈ Pattern.merge seen (without (step front) seen) ↔
      j ∈ seen ∨ j ∈ without (step front) seen := mem_merge hfresh.ascending
  refine ⟨hx.seen_places.merge hfresh, hfresh, fun i hi => hmem.2 (.inr hi), fun i hi => ?_⟩
  rcases hmem.1 hi with hi | hi
  · refine .inr fun j hj => hmem.2 ?_
    rcases hx.done i hi with hfront | hdone
    · rw [h.mem_fresh hx]
      by_cases hseen : j ∈ seen
      · exact .inl hseen
      · exact .inr ⟨⟨i, hfront, hj⟩, hseen⟩
    · exact .inl (hdone j hj)
  · exact .inl hi

/-- Without anything new, the search has been everywhere. -/
theorem Follows.mem_of_times (h : Follows last R step) (hx : Explored last R seen front)
    (hnone : without (step front) seen = []) {k i j : Nat} (hi : i ∈ seen)
    (hij : Times R k i j) : j ∈ seen := by
  induction k generalizing i with
  | zero =>
    obtain rfl : i = j := hij
    exact hi
  | succ k ih =>
    obtain ⟨m, him, hmj⟩ := hij
    refine ih ?_ hmj
    rcases hx.done i hi with hfront | hdone
    · by_contra hm
      have hfresh := (h.mem_fresh hx).2 ⟨⟨i, hfront, him⟩, hm⟩
      rw [hnone] at hfresh
      cases hfresh
    · exact hdone m him

/-- A way that begins where the search has been, either stays there or leads through what the next
round finds, and then that round has been made up for. -/
theorem Follows.seen_or_fresh (h : Follows last R step) (hx : Explored last R seen front)
    {k i j : Nat} (hi : i ∈ seen) (hij : Times R (k + 1) i j) :
    j ∈ seen ∨ ∃ m ∈ without (step front) seen, ∃ l ≤ k, Times R l m j := by
  induction k generalizing i with
  | zero =>
    obtain ⟨m, him, hmj⟩ := hij
    obtain rfl : m = j := hmj
    by_cases hm : m ∈ seen
    · exact .inl hm
    · refine .inr ⟨m, (h.mem_fresh hx).2 ⟨⟨i, ?_, him⟩, hm⟩, 0, Nat.le_refl _, rfl⟩
      exact (hx.done i hi).resolve_right fun hdone => hm (hdone m him)
  | succ k ih =>
    obtain ⟨m, him, hmj⟩ := hij
    by_cases hm : m ∈ seen
    · rcases ih hm hmj with hseen | ⟨m', hm', l, hl, hlj⟩
      · exact .inl hseen
      · exact .inr ⟨m', hm', l, Nat.le_succ_of_le hl, hlj⟩
    · refine .inr ⟨m, (h.mem_fresh hx).2 ⟨⟨i, ?_, him⟩, hm⟩, k + 1, Nat.le_refl _, hmj⟩
      exact (hx.done i hi).resolve_right fun hdone => hm (hdone m him)

/-- **The search collects what is reached in at most so many rounds.** -/
theorem Follows.closure (h : Follows last R step) (k : Nat) (hx : Explored last R seen front) :
    IsPlaces last (closure step k seen front) ∧
      ∀ j, j ∈ closure step k seen front ↔ ∃ i ∈ seen, ∃ l ≤ k, Times R l i j := by
  induction k generalizing seen front with
  | zero =>
    refine ⟨hx.seen_places, fun j => ?_⟩
    simp [Pattern.closure, Times]
  | succ k ih =>
    simp only [Pattern.closure, List.isEmpty_iff]
    split
    · rename_i hnone
      refine ⟨hx.seen_places, fun j => ⟨fun hj => ⟨j, hj, 0, Nat.zero_le _, rfl⟩, ?_⟩⟩
      rintro ⟨i, hi, l, -, hij⟩
      exact h.mem_of_times hx hnone hi hij
    · obtain ⟨hplaces, hmem⟩ := ih (h.explored hx)
      refine ⟨hplaces, fun j => (hmem j).trans ?_⟩
      simp only [mem_merge (h.explored hx).front_places.ascending]
      constructor
      · rintro ⟨i, hi | hi, l, hl, hij⟩
        · exact ⟨i, hi, l, Nat.le_succ_of_le hl, hij⟩
        · obtain ⟨⟨f, hf, hfi⟩, -⟩ := (h.mem_fresh hx).1 hi
          exact ⟨f, hx.front_seen f hf, l + 1, Nat.succ_le_succ hl, i, hfi, hij⟩
      · rintro ⟨i, hi, l, hl, hij⟩
        cases l with
        | zero => exact ⟨i, .inl hi, 0, Nat.zero_le _, hij⟩
        | succ l =>
          rcases h.seen_or_fresh hx hi hij with hj | ⟨m, hm, l', hl', hmj⟩
          · exact ⟨j, .inl hj, 0, Nat.zero_le _, rfl⟩
          · exact ⟨m, .inr hm, l', by omega, hmj⟩

end Steps

/-! ## Stretches of a text -/

section Stretches

variable {text : Subject} {p q : Pattern} {i j : Nat}

theorem le_size_of_literalAt {w : List Char} (h : literalAt text w i = true) (hi : i ≤ text.size) :
    i + w.length ≤ text.size := by
  induction w generalizing i with
  | nil => exact hi
  | cons c w ih =>
    simp only [literalAt, Bool.and_eq_true, beq_iff_eq] at h
    obtain ⟨hlt, -⟩ := Array.getElem?_eq_some_iff.1 h.1
    have hrest := ih h.2 hlt
    rw [List.length_cons]
    omega

theorem lt_size_of_charAt {s : CharSet} (h : charAt text s i = true) : i < text.size := by
  rw [charAt, Option.any_eq_true] at h
  obtain ⟨c, hc, -⟩ := h
  exact (Array.getElem?_eq_some_iff.1 hc).1

/-- A stretch ends where it begins or later, and within the text. -/
theorem Matches.bounds (h : Matches text p i j) : i ≤ j ∧ (i ≤ text.size → j ≤ text.size) := by
  induction h with
  | empty | look | done => exact ⟨Nat.le_refl _, id⟩
  | literal h => exact ⟨Nat.le_add_right _ _, le_size_of_literalAt h⟩
  | chars h => exact ⟨Nat.le_succ _, fun _ => lt_size_of_charAt h⟩
  | group _ ih | left _ ih | right _ ih => exact ih
  | sequence _ _ ih ih' | again _ _ ih ih' | againAtMost _ _ ih ih' =>
    exact ⟨ih.1.trans ih'.1, fun hi => ih'.2 (ih.2 hi)⟩

/-! ### Single parts -/

theorem matches_empty_iff : Matches text empty i j ↔ j = i :=
  ⟨fun | .empty _ => rfl, fun | rfl => .empty _⟩

theorem matches_literal_iff {w : List Char} :
    Matches text (literal w) i j ↔ literalAt text w i = true ∧ j = i + w.length :=
  ⟨fun | .literal h => ⟨h, rfl⟩, fun ⟨h, hj⟩ => hj ▸ .literal h⟩

theorem matches_chars_iff {s : CharSet} :
    Matches text (chars s) i j ↔ charAt text s i = true ∧ j = i + 1 :=
  ⟨fun | .chars h => ⟨h, rfl⟩, fun ⟨h, hj⟩ => hj ▸ .chars h⟩

theorem matches_look_iff {l : Look} :
    Matches text (look l) i j ↔ lookAt text l i = true ∧ j = i :=
  ⟨fun | .look h => ⟨h, rfl⟩, fun | ⟨h, rfl⟩ => .look h⟩

/-! ### Repetitions -/

/-- A repetition without an upper bound matches in any number of rounds that is large enough. -/
theorem matches_repetition_none_iff {least : Nat} {r : Bool} :
    Matches text (.repetition p least none r) i j ↔
      ∃ k, least ≤ k ∧ Times (Matches text p) k i j := by
  constructor
  · intro h
    generalize hpattern : Pattern.repetition p least none r = p' at h
    induction h generalizing least with
    | done =>
      cases hpattern
      exact ⟨0, Nat.le_refl _, rfl⟩
    | again h hs _ ih =>
      cases hpattern
      obtain ⟨k, hk, hkj⟩ := ih rfl
      exact ⟨k + 1, by omega, _, h, hkj⟩
    | _ => cases hpattern
  · rintro ⟨k, hk, hkj⟩
    induction k generalizing least i with
    | zero =>
      obtain rfl : i = j := hkj
      obtain rfl : least = 0 := by omega
      exact .done i
    | succ k ih =>
      obtain ⟨m, him, hmj⟩ := hkj
      exact .again him (ih (by omega) hmj)

/-- One with an upper bound matches in any number of rounds within its bounds. -/
theorem matches_repetition_some_iff {least most : Nat} {r : Bool} :
    Matches text (.repetition p least (some most) r) i j ↔
      ∃ k, least ≤ k ∧ k ≤ most ∧ Times (Matches text p) k i j := by
  constructor
  · intro h
    generalize hpattern : Pattern.repetition p least (some most) r = p' at h
    induction h generalizing least most with
    | done =>
      cases hpattern
      exact ⟨0, Nat.le_refl _, Nat.zero_le _, rfl⟩
    | againAtMost h hs _ ih =>
      cases hpattern
      obtain ⟨k, hk, hk', hkj⟩ := ih rfl
      exact ⟨k + 1, by omega, by omega, _, h, hkj⟩
    | _ => cases hpattern
  · rintro ⟨k, hk, hk', hkj⟩
    induction k generalizing least most i with
    | zero =>
      obtain rfl : i = j := hkj
      obtain rfl : least = 0 := by omega
      exact .done i
    | succ k ih =>
      obtain ⟨m, him, hmj⟩ := hkj
      obtain ⟨most, rfl⟩ := Nat.exists_eq_add_of_le' (show 1 ≤ most by omega)
      exact .againAtMost him (ih (by omega) (by omega) hmj)

theorem bounds_of_times {k : Nat} (h : Times (Matches text p) k i j) :
    i ≤ j ∧ (i ≤ text.size → j ≤ text.size) := by
  induction k generalizing i with
  | zero =>
    obtain rfl : i = j := h
    exact ⟨Nat.le_refl _, id⟩
  | succ k ih =>
    obtain ⟨m, him, hmj⟩ := h
    have hfirst := him.bounds
    exact ⟨hfirst.1.trans (ih hmj).1, fun hi => (ih hmj).2 (hfirst.2 hi)⟩

/-- Rounds that lead nowhere can be left out, so that there are no more than characters. -/
theorem exists_times_le {k : Nat} (h : Times (Matches text p) k i j) :
    ∃ l ≤ j - i, Times (Matches text p) l i j := by
  induction k generalizing i with
  | zero => exact ⟨0, Nat.zero_le _, h⟩
  | succ k ih =>
    obtain ⟨m, him, hmj⟩ := h
    obtain ⟨l, hl, hlj⟩ := ih hmj
    have him' : i ≤ m := him.bounds.1
    have hmj' : m ≤ j := (bounds_of_times hlj).1
    by_cases hm : i = m
    · subst hm
      exact ⟨l, hl, hlj⟩
    · exact ⟨l + 1, by omega, m, him, hlj⟩

end Stretches

/-! ## The search -/

/-- In every repetition the lower bound is at most the upper one. -/
def boundsInOrder : Pattern → Bool
  | empty | literal _ | chars _ | look _ => true
  | repetition p least most _ => most.all (least ≤ ·) && p.boundsInOrder
  | group _ p => p.boundsInOrder
  | sequence p q | choice p q => p.boundsInOrder && q.boundsInOrder

variable {text : Subject} {p : Pattern}

theorem Follows.repetition (h : Follows text.size (Matches text p) (advance text p)) {least : Nat}
    {most : Option Nat} (hbounds : most.all (least ≤ ·) = true) (r : Bool) :
    Follows text.size (Matches text (.repetition p least most r))
      (advance text (.repetition p least most r)) := by
  have hrounds {s : List Nat} (hs : IsPlaces text.size s) :=
    (h.rounds least).places hs
  refine ⟨fun hs => (h.closure _ (explored_self (hrounds hs))).1, fun {s} hs j => ?_⟩
  simp only [advance]
  rw [(h.closure _ (explored_self (hrounds hs))).2]
  simp only [(h.rounds least).mem_iff hs]
  cases most with
  | none =>
    simp only [matches_repetition_none_iff]
    constructor
    · rintro ⟨m, ⟨i, hi, him⟩, l, -, hmj⟩
      exact ⟨i, hi, least + l, Nat.le_add_right _ _, times_add.2 ⟨m, him, hmj⟩⟩
    · rintro ⟨i, hi, k, hk, hij⟩
      obtain ⟨l, rfl⟩ := Nat.exists_eq_add_of_le hk
      obtain ⟨m, him, hmj⟩ := times_add.1 hij
      obtain ⟨l', hl', hmj'⟩ := exists_times_le hmj
      have hj : j ≤ text.size := (bounds_of_times hij).2 (hs.le_last i hi)
      exact ⟨m, ⟨i, hi, him⟩, l', by omega, hmj'⟩
  | some most =>
    have hle : least ≤ most := of_decide_eq_true hbounds
    simp only [matches_repetition_some_iff]
    constructor
    · rintro ⟨m, ⟨i, hi, him⟩, l, hl, hmj⟩
      exact ⟨i, hi, least + l, Nat.le_add_right _ _, by omega, times_add.2 ⟨m, him, hmj⟩⟩
    · rintro ⟨i, hi, k, hk, hk', hij⟩
      obtain ⟨l, rfl⟩ := Nat.exists_eq_add_of_le hk
      obtain ⟨m, him, hmj⟩ := times_add.1 hij
      exact ⟨m, ⟨i, hi, him⟩, l, by omega, hmj⟩

/-- **The search follows the matches of its pattern.** -/
theorem follows_advance (text : Subject) (hp : p.boundsInOrder = true) :
    Follows text.size (Matches text p) (advance text p) := by
  induction p with
  | empty =>
    refine ⟨id, fun _ j => ?_⟩
    simp [advance, matches_empty_iff]
  | literal w =>
    exact (follows_filter_map fun i h hi => le_size_of_literalAt h hi).imp fun i j =>
      matches_literal_iff.symm
  | chars s =>
    exact (follows_filter_map fun i h _ => lt_size_of_charAt h).imp fun i j =>
      matches_chars_iff.symm
  | look l =>
    refine ⟨fun hs => hs.sublist List.filter_sublist, fun _ j => ?_⟩
    simp only [advance, List.mem_filter, matches_look_iff]
    grind
  | group n p ih =>
    exact (ih hp).imp fun i j => ⟨.group, fun | .group h => h⟩
  | sequence p q ihp ihq =>
    rw [boundsInOrder, Bool.and_eq_true] at hp
    have hq := ihq hp.2
    -- Nothing is reached from nowhere, so that the search may as well end there.
    have hnil : advance text q [] = [] := by
      refine List.eq_nil_iff_forall_not_mem.2 fun j hj => ?_
      obtain ⟨i, hi, -⟩ := (hq.mem_iff (isPlaces_nil _)).1 hj
      cases hi
    have hcomp : advance text (.sequence p q) = fun s => advance text q (advance text p s) := by
      funext s
      simp only [advance]
      split
      · rename_i hempty
        rw [List.isEmpty_iff.1 hempty, hnil]
      · rfl
    rw [hcomp]
    refine ((ihp hp.1).comp hq).imp fun i j => ?_
    exact ⟨fun ⟨_, h, h'⟩ => .sequence h h', fun | .sequence h h' => ⟨_, h, h'⟩⟩
  | choice p q ihp ihq =>
    rw [boundsInOrder, Bool.and_eq_true] at hp
    refine ((ihp hp.1).merge (ihq hp.2)).imp fun i j => ?_
    exact ⟨fun h => h.elim .left .right, fun | .left h => .inl h | .right h => .inr h⟩
  | repetition p least most r ih =>
    rw [boundsInOrder, Bool.and_eq_true] at hp
    exact (ih hp.2).repetition hp.1 r

/-- **A pattern is found in a text exactly if it matches some stretch of it.** -/
theorem isMatch_iff {t : String} (hp : p.boundsInOrder = true) :
    p.isMatch t = true ↔
      ∃ i j, i ≤ t.toList.length ∧ Matches t.toList.toArray p i j := by
  have hsearch := follows_advance t.toList.toArray hp
  have hall := isPlaces_range t.toList.toArray.size
  rw [isMatch, Bool.not_eq_true', List.isEmpty_eq_false_iff_exists_mem]
  simp only [hsearch.mem_iff hall, List.mem_range]
  grind

end Vigil.Pattern
