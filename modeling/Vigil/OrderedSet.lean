/-!
# Ordered sets

A finite set kept as the strictly ascending list of its members, so that two sets with the same
members are equal and are always shown in the same order.
-/

namespace Vigil

/-- A finite set, as its members in strictly ascending order. -/
structure OrderedSet (α : Type) [LT α] where
  toList : List α
  ascending : toList.Pairwise (· < ·) := by simp
deriving Repr

namespace OrderedSet

variable {α : Type} [LE α] [LT α] [DecidableEq α] [DecidableLT α]

instance : DecidableEq (OrderedSet α) := fun s t =>
  if h : s.toList = t.toList then
    .isTrue (by cases s; cases t; simpa using h)
  else .isFalse fun e => h (e ▸ rfl)

omit [LE α] [DecidableEq α] [DecidableLT α] in
@[ext]
theorem ext {s t : OrderedSet α} (h : s.toList = t.toList) : s = t := by
  cases s; cases t; simpa using h

/-- The set without members. -/
def empty : OrderedSet α := ⟨[], List.Pairwise.nil⟩

instance : Inhabited (OrderedSet α) := ⟨empty⟩

instance : EmptyCollection (OrderedSet α) := ⟨empty⟩

/-- The set with one member. -/
def singleton (a : α) : OrderedSet α := ⟨[a], by simp⟩

/-- Is it a member? -/
def contains (s : OrderedSet α) (a : α) : Bool :=
  s.toList.contains a

instance : Membership α (OrderedSet α) := ⟨fun s a => a ∈ s.toList⟩

/-- The number of members. -/
def size (s : OrderedSet α) : Nat :=
  s.toList.length

/-- Has it no member? -/
def isEmpty (s : OrderedSet α) : Bool :=
  s.toList.isEmpty

/-- Put an element at its place in an ascending list, unless it is there already. -/
def place (a : α) : List α → List α
  | [] => [a]
  | b :: rest =>
    if a = b then b :: rest
    else if a < b then a :: b :: rest
    else b :: place a rest

omit [LE α] in
theorem mem_place {a x : α} {l : List α} : x ∈ place a l ↔ x = a ∨ x ∈ l := by
  induction l with
  | nil => simp [place]
  | cons b rest ih =>
    simp only [place]
    split
    next h => subst h; simp
    next h =>
      split
      next => simp
      next => simp only [List.mem_cons, ih]; grind

variable [Std.IsLinearOrder α] [Std.LawfulOrderLT α]

theorem place_ascending {a : α} {l : List α} (h : l.Pairwise (· < ·)) :
    (place a l).Pairwise (· < ·) := by
  induction l with
  | nil => simp [place]
  | cons b rest ih =>
    have hb := List.pairwise_cons.1 h
    simp only [place]
    split
    next => exact h
    next hne =>
      split
      next hlt =>
        refine List.pairwise_cons.2 ⟨fun x hx => ?_, h⟩
        rcases List.mem_cons.1 hx with rfl | hx
        · exact hlt
        · exact Std.lt_trans hlt (hb.1 x hx)
      next hlt =>
        refine List.pairwise_cons.2 ⟨fun x hx => ?_, ih hb.2⟩
        rcases mem_place.1 hx with rfl | hx
        · exact Std.lt_of_le_of_ne (Std.not_lt.1 hlt) (Ne.symm hne)
        · exact hb.1 x hx

/-- The set with one more member. -/
def insert (a : α) (s : OrderedSet α) : OrderedSet α :=
  ⟨place a s.toList, place_ascending s.ascending⟩

/-- The set of the elements of a list. -/
def ofList (l : List α) : OrderedSet α :=
  l.foldl (fun s a => s.insert a) empty

/-- The members of both sets. -/
def union (s t : OrderedSet α) : OrderedSet α :=
  t.toList.foldl (fun u a => u.insert a) s

/-! ## Membership -/

omit [LE α] [DecidableEq α] [DecidableLT α] [Std.IsLinearOrder α] [Std.LawfulOrderLT α] in
theorem mem_toList {a : α} {s : OrderedSet α} : a ∈ s.toList ↔ a ∈ s := Iff.rfl

omit [LE α] [DecidableEq α] [DecidableLT α] [Std.IsLinearOrder α] [Std.LawfulOrderLT α] in
@[simp]
theorem mem_singleton {a x : α} : x ∈ singleton a ↔ x = a :=
  List.mem_singleton

@[simp]
theorem mem_insert {a x : α} {s : OrderedSet α} : x ∈ s.insert a ↔ x = a ∨ x ∈ s :=
  mem_place

theorem mem_foldl_insert {x : α} (l : List α) (s : OrderedSet α) :
    x ∈ l.foldl (fun u a => u.insert a) s ↔ x ∈ s ∨ x ∈ l := by
  induction l generalizing s with
  | nil => simp
  | cons a rest ih => simp only [List.foldl_cons, ih, mem_insert, List.mem_cons]; grind

@[simp]
theorem mem_union {x : α} {s t : OrderedSet α} : x ∈ s.union t ↔ x ∈ s ∨ x ∈ t :=
  mem_foldl_insert t.toList s

@[simp]
theorem mem_ofList {x : α} {l : List α} : x ∈ ofList l ↔ x ∈ l := by
  have h := mem_foldl_insert (x := x) l (empty : OrderedSet α)
  have he : ¬ x ∈ (empty : OrderedSet α) := fun h => by cases h
  simpa [ofList, he] using h

omit [DecidableEq α] [DecidableLT α] in
/-- Sets with the same members are equal. -/
theorem eq_of_mem_iff {s t : OrderedSet α} (h : ∀ a, a ∈ s ↔ a ∈ t) : s = t := by
  have hnodup (u : OrderedSet α) : u.toList.Nodup :=
    u.ascending.imp fun hlt => Std.ne_of_lt hlt
  have hperm : s.toList.Perm t.toList :=
    (List.perm_ext_iff_of_nodup (hnodup s) (hnodup t)).2 h
  refine OrderedSet.ext (hperm.eq_of_pairwise ?_ s.ascending t.ascending)
  intro a b _ _ hab hba
  exact absurd (Std.lt_trans hab hba) Std.lt_irrefl

theorem ofList_toList (s : OrderedSet α) : ofList s.toList = s :=
  eq_of_mem_iff fun _ => mem_ofList

end OrderedSet

/-! ## Orders by rank -/

/-- A type whose elements are told apart and ordered by a number. -/
class Ranked (α : Type) where
  rank : α → Nat
  rank_injective : ∀ a b : α, rank a = rank b → a = b

namespace Ranked

variable {α : Type} [Ranked α]

/-- The order by rank. -/
abbrev toLE : LE α := ⟨fun a b => rank a ≤ rank b⟩

/-- The strict order by rank. -/
abbrev toLT : LT α := ⟨fun a b => rank a < rank b⟩

/-- Orders by rank are linear. -/
theorem isLinearOrder : @Std.IsLinearOrder α toLE :=
  letI := toLE (α := α)
  { le_refl := fun a => Nat.le_refl (rank a)
    le_trans := fun a b c (h : rank a ≤ rank b) (k : rank b ≤ rank c) => Nat.le_trans h k
    le_antisymm := fun a b (h : rank a ≤ rank b) (k : rank b ≤ rank a) =>
      rank_injective a b (Nat.le_antisymm h k)
    le_total := fun a b => Nat.le_total (rank a) (rank b) }

/-- The strict order by rank belongs to the order by rank. -/
theorem lawfulOrderLT : @Std.LawfulOrderLT α toLT toLE :=
  letI := toLE (α := α)
  letI := toLT (α := α)
  { lt_iff := fun a b => by
      show rank a < rank b ↔ rank a ≤ rank b ∧ ¬ rank b ≤ rank a
      omega }

end Ranked

end Vigil
