import Vigil.Config.Merge
import Vigil.Proofs.Document.Record

/-!
# Documents of which parts are left out

An omission says which keys are left out of the object at each address of a document.  A record is
read from what remains as if each field had been looked up in the whole object and then forgotten if
it is left out, so that a field with a default falls back to it.  A whole section that is left out
falls back as if everything in it had been left out.

* `Omission`, `prune` -- what is left out of a document, and what remains of it;
* `lookup_pruneMembers` -- a key is found in what remains unless it is left out;
* `builds_required`, `builds_defaulted`, `builds_optional`, `builds_nested`, `builds_section` -- what
  a field of each kind gives;
* `decode_prune`, `listOf_prune` -- records and lists are read from what remains of them.
-/

namespace Vigil.Config

open Document
open Json (lookup orNull)

/-- Which keys are left out of the object at each address. -/
abbrev Omission := List Step → String → Bool

namespace Omission

/-- What is left out of the value behind a step. -/
def under (gone : Omission) (step : Step) : Omission :=
  fun address => gone (step :: address)

/-- Everything is left out. -/
def everything : Omission :=
  fun _ _ => true

/-- Nothing is left out. -/
def nothing : Omission :=
  fun _ _ => false

/-- What is missing of the value of a key: everything, if the key itself is left out. -/
def inside (gone : Omission) (key : String) : Omission :=
  if gone [] key then everything else gone.under (.key key)

mutual

/-- What remains of a value. -/
def prune (gone : Omission) : Json → Json
  | .list items => .list (pruneItems gone 0 items)
  | .object members => .object (pruneMembers gone members)
  | v => v

/-- What remains of the items of a list, the first of them in some position. -/
def pruneItems (gone : Omission) (position : Nat) : List Json → List Json
  | [] => []
  | v :: rest =>
    prune (gone.under (.index position)) v :: pruneItems gone (position + 1) rest

/-- What remains of the members of an object. -/
def pruneMembers (gone : Omission) : List (String × Json) → List (String × Json)
  | [] => []
  | (key, v) :: rest =>
    if gone [] key then pruneMembers gone rest
    else (key, prune (gone.under (.key key)) v) :: pruneMembers gone rest

end

variable {gone : Omission} {key : String} {v : Json} {items : List Json}
  {members : List (String × Json)} {α : Type}

/-- All keys that are left out are among these. -/
def IsWithin (gone : Omission) (keys : List Step → List String) : Prop :=
  ∀ address key, gone address key = true → key ∈ keys address

/-- What leaves out these keys, each from the object at its address. -/
def ofList (l : List (List Step × String)) : Omission :=
  fun address key => l.contains (address, key)

theorem isWithin_ofList {keys : List Step → List String} {l : List (List Step × String)}
    (h : ∀ m ∈ l, m.2 ∈ keys m.1) : (ofList l).IsWithin keys :=
  fun address key hgone => h (address, key) (List.contains_iff_mem.1 hgone)

section

variable {keys : List Step → List String} (h : gone.IsWithin keys)
include h

theorem IsWithin.under (step : Step) :
    (gone.under step).IsWithin fun address => keys (step :: address) :=
  fun address => h (step :: address)

theorem IsWithin.kept {address : List Step} (hkey : key ∉ keys address) :
    gone address key = false :=
  Bool.eq_false_iff.2 fun hgone => hkey (h address key hgone)

end

/-! ## What remains -/

mutual

/-- If nothing is left out, all remains. -/
theorem prune_nothing : (v : Json) → nothing.prune v = v
  | .null | .bool _ | .number _ | .text _ => rfl
  | .list items => congrArg Json.Tree.list (pruneItems_nothing 0 items)
  | .object members => congrArg Json.Tree.object (pruneMembers_nothing members)

theorem pruneItems_nothing : (n : Nat) → (items : List Json) → nothing.pruneItems n items = items
  | _, [] => rfl
  | n, v :: rest => congrArg₂ List.cons (prune_nothing v) (pruneItems_nothing (n + 1) rest)

theorem pruneMembers_nothing :
    (members : List (String × Json)) → nothing.pruneMembers members = members
  | [] => rfl
  | (key, v) :: rest =>
    congrArg₂ (fun v rest => (key, v) :: rest) (prune_nothing v) (pruneMembers_nothing rest)

end

/-- **A key is found in what remains** unless it is left out; of its value the rest remains. -/
theorem lookup_pruneMembers (key : String) (members : List (String × Json)) :
    lookup key (gone.pruneMembers members) =
      if gone [] key then none else (lookup key members).map (gone.under (.key key)).prune := by
  induction members with
  | nil => exact (ite_self none).symm
  | cons m rest ih =>
    obtain ⟨k, v⟩ := m
    rw [pruneMembers, lookup]
    by_cases heq : k = key
    -- If the key is left out, it is so wherever it stands, so later members do not show it either.
    · subst heq
      split
      · rw [ih]
        simp [*]
      · simp [lookup, *]
    · rw [if_neg heq, ← ih]
      split
      · rfl
      · rw [lookup, if_neg heq]

theorem keys_pruneMembers (members : List (String × Json)) :
    ((gone.pruneMembers members).map (·.1)).Sublist (members.map (·.1)) := by
  induction members with
  | nil => exact List.Sublist.refl _
  | cons m rest ih =>
    rw [pruneMembers]
    split
    · exact ih.cons _
    · exact ih.cons_cons _

/-! ## Values without members -/

/-- Nothing can be left out of the value. -/
def IsFlat (v : Json) : Prop :=
  ∀ gone : Omission, gone.prune v = v

theorem isFlat_text (s : String) : IsFlat (.text s) := fun _ => rfl

theorem isFlat_bool (b : Bool) : IsFlat (.bool b) := fun _ => rfl

theorem isFlat_nat (n : Nat) : IsFlat (Json.nat n) := fun _ => rfl

theorem isFlat_float (x : Float) : IsFlat (Json.float x) := by
  intro gone
  rw [Json.float]
  split <;> rfl

theorem isFlat_orNull_text (s : Option String) : IsFlat (orNull (s.map Json.Tree.text)) := by
  cases s <;> exact fun _ => rfl

theorem isFlat_getD {write : α → Json} (h : ∀ a, IsFlat (write a)) (o : Option α) :
    IsFlat ((o.map write).getD .null) := by
  cases o with
  | none => exact fun _ => rfl
  | some a => exact h a

theorem isFlat_map {write : α → Json} (h : ∀ a, IsFlat (write a)) (l : List α) :
    IsFlat (.list (l.map write)) := by
  intro gone
  have hitems (n : Nat) : gone.pruneItems n (l.map write) = l.map write := by
    induction l generalizing n with
    | nil => rfl
    | cons a l ih => rw [List.map_cons, pruneItems, h a, ih]
  exact congrArg Json.Tree.list (hitems 0)

/-- Of an object with flat values and no key that is left out, all remains. -/
theorem prune_object {write : α → Json} (hkept : ∀ key, gone [] key = false)
    (h : ∀ a, IsFlat (write a)) (l : List (String × α)) :
    gone.prune (.object (l.map fun m => (m.1, write m.2))) =
      .object (l.map fun m => (m.1, write m.2)) := by
  have hmembers : gone.pruneMembers (l.map fun m => (m.1, write m.2)) =
      l.map fun m => (m.1, write m.2) := by
    induction l with
    | nil => rfl
    | cons m l ih =>
      rw [List.map_cons, pruneMembers, if_neg (Bool.eq_false_iff.1 (hkept _)), h, ih]
  exact congrArg Json.Tree.object hmembers

/-! ## Records read from what remains -/

/-- What the keys of an object give in what remains of it. -/
def remaining (gone : Omission) (members : List (String × Json)) : String → Option Json :=
  fun key => lookup key (gone.pruneMembers members)

theorem remaining_of_lookup (hmem : lookup key members = some v) :
    gone.remaining members key =
      if gone [] key then none else some ((gone.under (.key key)).prune v) := by
  rw [remaining, lookup_pruneMembers, hmem]
  rfl

theorem remaining_of_flat (hv : IsFlat v) (hmem : lookup key members = some v) :
    gone.remaining members key = if gone [] key then none else some v := by
  rw [remaining_of_lookup hmem, hv]

variable {dec : Decoder Json α} {a default : α}

/-- A field that must be present is not left out. -/
theorem builds_required (hv : IsFlat v) (hdec : dec v = .ok a) (hkept : gone [] key = false)
    (hmem : lookup key members = some v) :
    (Record.required key dec).Builds (gone.remaining members) a :=
  Record.builds_required hdec
    ((remaining_of_flat hv hmem).trans (if_neg (Bool.eq_false_iff.1 hkept)))

/-- A field with a default, which is all that the field depends on if it is left out. -/
theorem builds_nested (hdec : gone [] key = false → dec ((gone.under (.key key)).prune v) = .ok a)
    (hmem : lookup key members = some v) :
    (Record.defaulted key dec default).Builds (gone.remaining members)
      (if gone [] key then default else a) := by
  cases hgone : gone [] key with
  | true =>
    have hnone : gone.remaining members key = none :=
      (remaining_of_lookup hmem).trans (if_pos hgone)
    simp only [Record.Builds, Record.defaulted, hnone, if_true]
  | false =>
    exact Record.builds_field (hdec hgone)
      ((remaining_of_lookup hmem).trans (if_neg (Bool.eq_false_iff.1 hgone)))

theorem builds_defaulted (hv : IsFlat v) (hdec : dec v = .ok a)
    (hmem : lookup key members = some v) :
    (Record.defaulted key dec default).Builds (gone.remaining members)
      (if gone [] key then default else a) :=
  builds_nested (fun _ => (hv _).symm ▸ hdec) hmem

theorem builds_optional {o : Option α} (hv : IsFlat v) (hdec : nullable dec v = .ok o)
    (hmem : lookup key members = some v) :
    (Record.defaultedOptional key dec).Builds (gone.remaining members)
      (if gone [] key then none else o) :=
  builds_defaulted hv hdec hmem

/-- A section, of which all falls back to defaults if the section itself is left out. -/
theorem builds_section {without : Omission → α} (heverything : without everything = default)
    (hdec : gone [] key = false →
      dec ((gone.under (.key key)).prune v) = .ok (without (gone.under (.key key))))
    (hmem : lookup key members = some v) :
    (Record.defaulted key dec default).Builds (gone.remaining members)
      (without (gone.inside key)) := by
  have hinside : without (gone.inside key) =
      if gone [] key then default else without (gone.under (.key key)) := by
    rw [inside, apply_ite without, heverything]
  rw [hinside]
  exact builds_nested hdec hmem

/-- The items of a list in some position, each of which is read from what remains of it. -/
theorem decodeAll_pruneItems {write : α → Json} {l : List α} (n : Nat) {without : Nat → α → α}
    (h : ∀ (i : Nat), ∀ a ∈ l,
      dec ((gone.under (.index (n + i : Nat))).prune (write a)) = .ok (without i a)) :
    decodeAll dec (gone.pruneItems n (l.map write)) = .ok (l.mapIdx without) := by
  -- The defaults of an item may depend on its position, which shifts with the first position.
  induction l generalizing n without with
  | nil => rfl
  | cons a l ih =>
    have hrest : decodeAll dec (gone.pruneItems (n + 1) (l.map write)) =
        .ok (l.mapIdx fun i => without (i + 1)) := ih (n + 1) fun i b hb => by
      rw [Nat.add_right_comm, Nat.add_assoc]
      exact h (i + 1) b (List.mem_cons_of_mem _ hb)
    have hfirst := h 0 a List.mem_cons_self
    rw [Nat.add_zero] at hfirst
    rw [List.map_cons, pruneItems, decodeAll, hfirst, hrest, List.mapIdx_cons]
    rfl

theorem listOf_prune {write : α → Json} {l : List α} {without : Nat → α → α}
    (h : ∀ (i : Nat), ∀ a ∈ l, dec ((gone.under (.index i)).prune (write a)) = .ok (without i a)) :
    listOf dec (gone.prune (.list (l.map write))) = .ok (l.mapIdx without) :=
  decodeAll_pruneItems 0 fun i a ha => by
    rw [Nat.zero_add]
    exact h i a ha

/-- **A record is read from what remains of its object.** -/
theorem decode_prune {r : Record Json α} (hr : r.IsFieldwise fun _ => Eq) (name : String)
    (hkeys : (members.map (·.1)).Nodup) (hbuild : r.Builds (gone.remaining members) a) :
    r.decode name (gone.prune (.object members)) = .ok a :=
  Record.decode_object hr (fun _ _ => rfl) name ((keys_pruneMembers members).nodup hkeys) hbuild

end Omission

end Vigil.Config
