import Mathlib.Data.List.Forall2
import Vigil.Proofs.Json.Leaves

/-!
# Lists and objects in a text

The items of a list and the members of an object are read alike: one after the other, with commas
between them, up to the closing character.  Here this is said once, as what one step of such a
reader does (`Listing`), and both readers are shown to do it.

* `listItems_listing`, `objectMembers_listing` -- the two readers;
* `Listing.sound` -- what is read are texts of the items, joined with commas;
* `Listing.complete` -- **and any such texts are read**, whatever follows the closing character.
-/

namespace Vigil.Json

variable {α β : Type}

/-! ## One step -/

/-- Where the next item begins: at once if it is the first, else behind a comma. -/
def Opens : Bool → List Char → List Char → Prop
  | true, s, rest => rest = s
  | false, s, rest => skipSpaces s = ',' :: rest

theorem opens_of_comma {first : Bool} {s t : List Char} {c : Char} (hfirst : ¬first = true)
    (hc : (c == ',') = true) (hs : skipSpaces s = c :: t) : Opens first s t := by
  rw [Bool.not_eq_true] at hfirst
  rw [hfirst, Opens, hs, beq_iff_eq.1 hc]

/-- `f` reads with `item` what stands before the character `close`; its number bounds the items. -/
structure Listing (close : Char) (item : Scan α) (f : Nat → Bool → Scan (List α)) : Prop where
  zero : ∀ {first s y}, f 0 first s ≠ .ok y
  succ : ∀ {n first s xs r}, f (n + 1) first s = .ok (xs, r) ↔
    (xs = [] ∧ skipSpaces s = close :: r) ∨
      ∃ x xs' rest rest', xs = x :: xs' ∧ Opens first s rest ∧ item rest = .ok (x, rest') ∧
        f n false rest' = .ok (xs', r)

theorem skipSpaces_eq_cons {s r : List Char} {c : Char} (h : skipSpaces s = c :: r) :
    isSpace c = false := by
  have hfirst := List.head?_dropWhile_not isSpace s
  rw [← skipSpaces, h] at hfirst
  simpa using hfirst

/-- A reader of items that begins behind the spaces, and does not take a closing character for an
item. -/
structure Itemwise (close : Char) (item : Scan α) : Prop where
  skip : ∀ s, item (skipSpaces s) = item s
  nil : ∀ y, item [] ≠ .ok y
  close : ∀ s y, item (close :: s) ≠ .ok y

theorem cons_eq_ok_iff {p : Except Failure (α × List Char)} {q : Scan (List α)} {xs : List α}
    {r : List Char} :
    (do
      let (x, rest) ← p
      let (xs, rest) ← q rest
      .ok (x :: xs, rest)) = .ok (xs, r) ↔
      ∃ x xs' rest, xs = x :: xs' ∧ p = .ok (x, rest) ∧ q rest = .ok (xs', r) := by
  constructor
  · intro h
    obtain ⟨⟨x, rest⟩, hp, hq⟩ := bind_eq_ok_iff.1 h
    obtain ⟨⟨xs', r'⟩, hxs, hend⟩ := bind_eq_ok_iff.1 hq
    cases hend
    exact ⟨x, xs', rest, rfl, hp, hxs⟩
  · rintro ⟨x, xs', rest, rfl, hp, hq⟩
    exact bind_eq_ok_iff.2 ⟨_, hp, bind_eq_ok_iff.2 ⟨_, hq, rfl⟩⟩

/-- An item stands where the spaces end, if neither the text nor the container ends there. -/
theorem Itemwise.start {close : Char} {item : Scan α} (hitem : Itemwise close item)
    {s : List Char} {y : α × List Char} (h : item s = .ok y) :
    ∃ c t, skipSpaces s = c :: t ∧ c ≠ close ∧ item (c :: t) = .ok y := by
  rw [← hitem.skip] at h
  cases hs : skipSpaces s with
  | nil => exact absurd (hs ▸ h) (hitem.nil y)
  | cons c t =>
    rw [hs] at h
    refine ⟨c, t, rfl, ?_, h⟩
    rintro rfl
    exact hitem.close t y h

theorem listItems_listing {item : Scan α} (hitem : Itemwise ']' item) :
    Listing ']' item (listItems item) where
  zero h := by cases h
  succ {n first s xs r} := by
    constructor
    · intro h
      rw [listItems] at h
      split at h
      · cases h
      · rename_i c t hs
        split at h
        · rename_i hc
          cases h
          exact .inl ⟨rfl, beq_iff_eq.1 hc ▸ hs⟩
        · right
          split at h
          · rename_i hfirst
            obtain ⟨x, xs', rest, rfl, hx, hxs⟩ := cons_eq_ok_iff.1 h
            rw [← hs, hitem.skip] at hx
            exact ⟨x, xs', s, rest, rfl, hfirst ▸ rfl, hx, hxs⟩
          · rename_i hfirst
            split at h
            · rename_i hcomma
              split at h
              · cases h
              · rename_i c' t' ht
                split at h
                · cases h
                · obtain ⟨x, xs', rest, rfl, hx, hxs⟩ := cons_eq_ok_iff.1 h
                  rw [← ht, hitem.skip] at hx
                  exact ⟨x, xs', t, rest, rfl, opens_of_comma hfirst hcomma hs, hx, hxs⟩
            · cases h
    · rintro (⟨rfl, hs⟩ | ⟨x, xs', rest, rest', rfl, hopens, hx, hxs⟩)
      · rw [listItems, hs]
        rfl
      · obtain ⟨c, t, hs, hc, hx⟩ := hitem.start hx
        have hcons := cons_eq_ok_iff.2 ⟨x, xs', rest', rfl, hx, hxs⟩
        cases first with
        | true =>
          obtain rfl : rest = s := hopens
          rw [listItems, hs]
          exact (if_neg (mt beq_iff_eq.1 hc)).trans hcons
        | false =>
          have hcomma : skipSpaces s = ',' :: rest := hopens
          simp only [listItems, hcomma, hs]
          exact (if_neg (mt beq_iff_eq.1 hc)).trans hcons

/-- A member of an object from its quote on. -/
def quoted {α : Type} (member : Scan α) (s : List Char) : Except Failure (α × List Char) :=
  match skipSpaces s with
  | '"' :: rest => member rest
  | rest => failNext .keyMustBeText rest

theorem quoted_eq_ok_iff {member : Scan α} {s : List Char} {y : α × List Char} :
    quoted member s = .ok y ↔ ∃ rest, skipSpaces s = '"' :: rest ∧ member rest = .ok y := by
  rw [quoted]
  split
  · rename_i rest hs
    simp [hs]
  · rename_i hne
    refine ⟨fun h => (by cases h), ?_⟩
    rintro ⟨rest, hs, -⟩
    exact absurd hs (hne rest)

theorem objectMembers_listing {esc : Scan Char} {item : String → Scan α} :
    Listing '\x7d' (quoted (member esc item)) (objectMembers esc item) where
  zero h := by cases h
  succ {n first s xs r} := by
    constructor
    · intro h
      rw [objectMembers] at h
      split at h
      · cases h
      · rename_i c t hs
        split at h
        · rename_i hc
          cases h
          exact .inl ⟨rfl, beq_iff_eq.1 hc ▸ hs⟩
        · right
          split at h
          · rename_i hfirst
            split at h
            · rename_i hquote
              obtain ⟨x, xs', rest, rfl, hx, hxs⟩ := cons_eq_ok_iff.1 h
              refine ⟨x, xs', s, rest, rfl, hfirst ▸ rfl, ?_, hxs⟩
              exact quoted_eq_ok_iff.2 ⟨t, beq_iff_eq.1 hquote ▸ hs, hx⟩
            · cases h
          · rename_i hfirst
            split at h
            · rename_i hcomma
              split at h
              · cases h
              · rename_i c' t' ht
                split at h
                · rename_i hquote
                  obtain ⟨x, xs', rest, rfl, hx, hxs⟩ := cons_eq_ok_iff.1 h
                  refine ⟨x, xs', t, rest, rfl, opens_of_comma hfirst hcomma hs, ?_, hxs⟩
                  exact quoted_eq_ok_iff.2 ⟨t', beq_iff_eq.1 hquote ▸ ht, hx⟩
                · split at h <;> cases h
            · cases h
    · rintro (⟨rfl, hs⟩ | ⟨x, xs', rest, rest', rfl, hopens, hx, hxs⟩)
      · rw [objectMembers, hs]
        rfl
      · obtain ⟨t, hs, hx⟩ := quoted_eq_ok_iff.1 hx
        have hcons := cons_eq_ok_iff.2 ⟨x, xs', rest', rfl, hx, hxs⟩
        cases first with
        | true =>
          obtain rfl : rest = s := hopens
          rw [objectMembers, hs]
          exact hcons
        | false =>
          have hcomma : skipSpaces s = ',' :: rest := hopens
          simp only [objectMembers, hcomma, hs]
          exact hcons

/-! ## The text of a sequence -/

/-- Texts with commas between them. -/
def joined : List (List Char) → List Char
  | [] => []
  | e :: es => e ++ es.flatMap (',' :: ·)

/-- The text holds a value, with nothing but spaces behind it.  That a text `c` holds the value by
itself is said by `P`. -/
def IsText (P : α → List Char → Prop) (x : α) (e : List Char) : Prop :=
  ∃ c g, e = c ++ g ∧ IsGap g ∧ P x c

/-- What stands between the brackets: texts of the values with commas between them, or spaces if
there are no values. -/
def IsBody (P : α → List Char → Prop) (xs : List α) (b : List Char) : Prop :=
  (xs = [] ∧ IsGap b) ∨ (xs ≠ [] ∧ ∃ es, List.Forall₂ (IsText P) xs es ∧ b = joined es)

theorem IsText.imp {P Q : α → List Char → Prop} (h : ∀ x c, P x c → Q x c) {x : α} {e : List Char}
    (he : IsText P x e) : IsText Q x e := by
  obtain ⟨c, g, rfl, hg, hc⟩ := he
  exact ⟨c, g, rfl, hg, h x c hc⟩

theorem IsBody.imp {P Q : α → List Char → Prop} (h : ∀ x c, P x c → Q x c) {xs : List α}
    {b : List Char} (hb : IsBody P xs b) : IsBody Q xs b := by
  rcases hb with hb | ⟨hne, es, hes, rfl⟩
  · exact .inl hb
  · exact .inr ⟨hne, es, hes.imp fun _ _ => IsText.imp h, rfl⟩

theorem isBody_and_left {D : α → Prop} {P : α → List Char → Prop} {xs : List α} {b : List Char} :
    IsBody (fun x c => D x ∧ P x c) xs b ↔ (∀ x ∈ xs, D x) ∧ IsBody P xs b := by
  have htext : IsText (fun x c => D x ∧ P x c) = fun x e => D x ∧ IsText P x e := by
    funext x e
    refine propext ⟨?_, ?_⟩
    · rintro ⟨c, g, rfl, hg, hx, hc⟩
      exact ⟨hx, c, g, rfl, hg, hc⟩
    · rintro ⟨hx, c, g, rfl, hg, hc⟩
      exact ⟨c, g, rfl, hg, hx, hc⟩
  rw [IsBody, IsBody, htext]
  constructor
  · rintro (⟨rfl, hb⟩ | ⟨hne, es, hes, rfl⟩)
    · exact ⟨fun _ hx => absurd hx List.not_mem_nil, .inl ⟨rfl, hb⟩⟩
    · obtain ⟨hxs, hes⟩ := (List.forall₂_and_left xs es).1 hes
      exact ⟨hxs, .inr ⟨hne, es, hes, rfl⟩⟩
  · rintro ⟨hxs, hb | ⟨hne, es, hes, rfl⟩⟩
    · exact .inl hb
    · exact .inr ⟨hne, es, (List.forall₂_and_left xs es).2 ⟨hxs, hes⟩, rfl⟩

section

variable {close : Char} {item : Scan α} {f : Nat → Bool → Scan (List α)} {P : α → List Char → Prop}

/-- Behind an item: perhaps spaces, then a comma and a text for each further item, then the end. -/
theorem Listing.sound_more (hf : Listing close item f)
    (hitem : ∀ s x r, item s = .ok (x, r) → ∃ c, s = c ++ r ∧ P x c) {n : Nat} {s r : List Char}
    {xs : List α} (h : f n false s = .ok (xs, r)) :
    ∃ g es, s = g ++ es.flatMap (',' :: ·) ++ close :: r ∧ IsGap g ∧
      List.Forall₂ (IsText P) xs es := by
  induction n generalizing s xs with
  | zero => exact absurd h hf.zero
  | succ n ih =>
    obtain ⟨g, hs, hg⟩ := exists_gap s
    rcases hf.succ.1 h with ⟨rfl, hclose⟩ | ⟨x, xs, rest, rest', rfl, hcomma, hx, hxs⟩
    · rw [hclose] at hs
      exact ⟨g, [], by simpa using hs, hg, .nil⟩
    · obtain ⟨c, rfl, hc⟩ := hitem _ _ _ hx
      obtain ⟨g', es, rfl, hg', hes⟩ := ih hxs
      rw [show skipSpaces s = _ from hcomma] at hs
      exact ⟨g, (c ++ g') :: es, by simp [hs], hg, .cons ⟨c, g', rfl, hg', hc⟩ hes⟩

/-- **What is read are texts of the items, with commas between them.** -/
theorem Listing.sound (hf : Listing close item f)
    (hitem : ∀ s x r, item s = .ok (x, r) → ∃ c, s = c ++ r ∧ P x c) {n : Nat} {s r : List Char}
    {xs : List α} (h : f n true s = .ok (xs, r)) :
    ∃ b, s = b ++ close :: r ∧ IsBody P xs b := by
  cases n with
  | zero => exact absurd h hf.zero
  | succ n =>
    rcases hf.succ.1 h with ⟨rfl, hclose⟩ | ⟨x, xs, rest, rest', rfl, hfirst, hx, hxs⟩
    · obtain ⟨g, hs, hg⟩ := exists_gap s
      exact ⟨g, hclose ▸ hs, .inl ⟨rfl, hg⟩⟩
    · obtain rfl : rest = s := hfirst
      obtain ⟨c, rfl, hc⟩ := hitem _ _ _ hx
      obtain ⟨g, es, rfl, hg, hes⟩ := hf.sound_more hitem hxs
      refine ⟨joined ((c ++ g) :: es), by simp [joined], .inr ⟨List.cons_ne_nil _ _, ?_⟩⟩
      exact ⟨_, .cons ⟨c, g, rfl, hg, hc⟩ hes, rfl⟩

/-- A character that ends a value: it is no space, and a numeral does not go on with it. -/
structure IsEnd (c : Char) : Prop where
  space : isSpace c = false
  numeral : isNumeralChar c = false

theorem IsEnd.stops {c : Char} (h : IsEnd c) (s : List Char) : Stops isNumeralChar (c :: s) := by
  intro d hd
  obtain rfl := Option.some.inj hd
  exact h.numeral

theorem isEnd_comma : IsEnd ',' :=
  ⟨by decide, by decide⟩

theorem IsGap.stops {g : List Char} (hg : IsGap g) : Stops isNumeralChar g := by
  intro c hc
  have hspace := hg c (List.mem_of_mem_head? hc)
  simp only [isSpace, Bool.or_eq_true, beq_iff_eq] at hspace
  rcases hspace with ((rfl | rfl) | rfl) | rfl <;> decide

/-- A value may stop before further texts and the end. -/
theorem stops_behind {g r : List Char} (hg : IsGap g) (hclose : IsEnd close)
    (es : List (List Char)) :
    Stops isNumeralChar (g ++ (es.flatMap (',' :: ·) ++ close :: r)) := by
  refine hg.stops.append ?_
  cases es with
  | nil => exact hclose.stops r
  | cons e es => exact isEnd_comma.stops _

theorem Listing.complete_more (hf : Listing close item f) (hclose : IsEnd close) {n : Nat}
    {g r : List Char} {xs : List α} {es : List (List Char)} (hg : IsGap g)
    (hes : List.Forall₂ (IsText (Reads isNumeralChar item)) xs es) (hn : xs.length < n) :
    f n false (g ++ (es.flatMap (',' :: ·) ++ close :: r)) = .ok (xs, r) := by
  induction hes generalizing n g with
  | nil =>
    obtain ⟨n, rfl⟩ := Nat.exists_eq_add_of_lt hn
    refine hf.succ.2 (.inl ⟨rfl, ?_⟩)
    rw [skipSpaces_append hg, List.flatMap_nil, List.nil_append, skipSpaces_cons hclose.space]
  | @cons x e xs es htext _ ih =>
    obtain ⟨c, g', rfl, hg', hread⟩ := htext
    obtain ⟨n, rfl⟩ := Nat.exists_eq_add_of_lt hn
    refine hf.succ.2 (.inr ⟨x, xs, c ++ (g' ++ (es.flatMap (',' :: ·) ++ close :: r)), _, rfl, ?_,
      hread _ (stops_behind hg' hclose es), ih hg' (by simp only [List.length_cons]; omega)⟩)
    rw [Opens, skipSpaces_append hg, List.flatMap_cons, List.cons_append, List.cons_append,
      skipSpaces_cons isEnd_comma.space]
    simp

theorem length_le_flatMap (es : List (List Char)) :
    es.length ≤ (es.flatMap (',' :: ·)).length := by
  induction es with
  | nil => exact Nat.le_refl 0
  | cons e es ih =>
    rw [List.flatMap_cons, List.length_append, List.length_cons, List.length_cons]
    omega

/-- **Texts of the items with commas between them are read**, whatever follows the end. -/
theorem Listing.complete (hf : Listing close item f) (hclose : IsEnd close) {n : Nat}
    {b r : List Char} {xs : List α} (hb : IsBody (Reads isNumeralChar item) xs b)
    (hn : (b ++ close :: r).length < n) : f n true (b ++ close :: r) = .ok (xs, r) := by
  obtain ⟨n, rfl⟩ := Nat.exists_eq_add_of_lt hn
  rcases hb with ⟨rfl, hb⟩ | ⟨hne, es, hes, rfl⟩
  · refine hf.succ.2 (.inl ⟨rfl, ?_⟩)
    rw [skipSpaces_append hb, skipSpaces_cons hclose.space]
  · cases hes with
    | nil => exact absurd rfl hne
    | @cons x e xs es htext hes =>
      obtain ⟨c, g, rfl, hg, hread⟩ := htext
      have hlength : xs.length ≤ (es.flatMap (',' :: ·)).length :=
        hes.length_eq ▸ length_le_flatMap es
      refine hf.succ.2 (.inr ⟨x, xs, _, g ++ (es.flatMap (',' :: ·) ++ close :: r), rfl, rfl, ?_,
        hf.complete_more hclose hg hes ?_⟩)
      · rw [← hread _ (stops_behind hg hclose es)]
        simp [joined]
      · simp only [joined, List.length_append, List.length_cons]
        omega

end

end Vigil.Json
