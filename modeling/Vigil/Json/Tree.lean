/-!
# JSON trees

A tree of JSON values whose numbers are of a type `ν` that the reader of the text chooses: the
numerals as they are written, or the numbers they denote.  An object is a list of members; a tree
is *tidy* if the keys of each object ascend strictly, and `tidy` makes it so, the last of several
members with one key being kept.
-/

namespace Vigil.Json

/-- A JSON value over numbers of type `ν`. -/
inductive Tree (ν : Type) where
  | null
  | bool (b : Bool)
  | number (n : ν)
  | text (s : String)
  | list (items : List (Tree ν))
  | object (members : List (String × Tree ν))
deriving Repr, Inhabited

/-- A whole number or a double: what a numeral denotes. -/
inductive Number where
  | whole (n : Int)
  | real (x : Float)
deriving Repr, DecidableEq, Inhabited

end Vigil.Json

namespace Vigil

/-- A JSON value. -/
abbrev Json := Json.Tree Json.Number

namespace Json

/-- A whole number as a value. -/
abbrev int (n : Int) : Json := .number (.whole n)

/-- A natural number as a value. -/
abbrev nat (n : Nat) : Json := .number (.whole n)

/-- A number of 32 bits as a value. -/
abbrev word32 (n : UInt32) : Json := nat n.toNat

/-- A number of 64 bits as a value. -/
abbrev word64 (n : UInt64) : Json := nat n.toNat

/-- A double as a value; one that is not finite is no JSON number and becomes null. -/
def float (x : Float) : Json := if x.isFinite then .number (.real x) else .null

/-! ## Members -/

/-- The value of a key, if there is such a member. -/
def lookup {α : Type} (key : String) : List (String × α) → Option α
  | [] => none
  | (k, v) :: rest => if k = key then some v else lookup key rest

/-- The members with one of them set; the keys stay in ascending order. -/
def insertMember {α : Type} (key : String) (value : α) :
    List (String × α) → List (String × α)
  | [] => [(key, value)]
  | (k, v) :: rest =>
    if k = key then (key, value) :: rest
    else if key < k then (key, value) :: (k, v) :: rest
    else (k, v) :: insertMember key value rest

/-- The members in ascending order of their keys; of several with one key the last is kept. -/
def sortMembers {α : Type} (members : List (String × α)) : List (String × α) :=
  members.foldl (fun acc m => insertMember m.1 m.2 acc) []

/-- The object with these members, in ascending order of their keys. -/
def Tree.ofMembers {ν : Type} (members : List (String × Tree ν)) : Tree ν :=
  .object (sortMembers members)

mutual

/-- The same value with the keys of every object in ascending order and without repetition. -/
def Tree.tidy {ν : Type} : Tree ν → Tree ν
  | .list items => .list (tidyItems items)
  | .object members => .object (sortMembers (tidyMembers members))
  | t => t

/-- Every item tidied. -/
def tidyItems {ν : Type} : List (Tree ν) → List (Tree ν)
  | [] => []
  | t :: rest => t.tidy :: tidyItems rest

/-- The value of every member tidied. -/
def tidyMembers {ν : Type} : List (String × Tree ν) → List (String × Tree ν)
  | [] => []
  | (k, t) :: rest => (k, t.tidy) :: tidyMembers rest

end

/-- The value of a member of an object. -/
def Tree.get? {ν : Type} (key : String) : Tree ν → Option (Tree ν)
  | .object members => lookup key members
  | _ => none

/-! ## Basic facts -/

theorem lookup_insertMember_self {α : Type} (key : String) (value : α)
    (l : List (String × α)) : lookup key (insertMember key value l) = some value := by
  induction l with
  | nil => simp [insertMember, lookup]
  | cons m rest ih =>
    obtain ⟨k, v⟩ := m
    simp only [insertMember]
    split
    · simp [lookup]
    · split
      · simp [lookup]
      · rename_i h _
        simp [lookup, h, ih]

theorem lookup_insertMember_of_ne {α : Type} {key other : String} (h : other ≠ key) (value : α)
    (l : List (String × α)) : lookup other (insertMember key value l) = lookup other l := by
  induction l with
  | nil => simp [insertMember, lookup, Ne.symm h]
  | cons m rest ih =>
    obtain ⟨k, v⟩ := m
    simp only [insertMember]
    split
    · rename_i hk
      subst hk
      simp [lookup, Ne.symm h]
    · split
      · simp [lookup, Ne.symm h]
      · by_cases hk : k = other <;> simp [lookup, hk, ih]

end Json

end Vigil
