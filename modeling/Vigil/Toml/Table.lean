import Vigil.Json.Tree

/-!
# TOML: tables

A document fills a tree of tables.  A table is opened by its header, implicitly by the header of a
table inside it, or by a key with points; the three ways must not be mixed for one table, and no
key may be set twice.
-/

namespace Vigil.Toml

/-- How a table came to be. -/
inductive Origin where
  | header
  | implicit
  | dotted
deriving DecidableEq, Repr

/-- What stands under a key: a value, a table, or a list of tables. -/
inductive Node where
  | value (v : Json)
  | table (origin : Origin) (entries : List (String × Node))
  | tables (items : List (List (String × Node)))

/-- The entries of a table. -/
abbrev Entries := List (String × Node)

/-- The entries with one of them set; a new one comes last. -/
def setEntry (key : String) (node : Node) : Entries → Entries
  | [] => [(key, node)]
  | (k, n) :: rest => if k = key then (k, node) :: rest else (k, n) :: setEntry key node rest

/-- Add to the last table of a list. -/
def changeLast (f : Entries → Option Entries) (items : List Entries) : Option (List Entries) :=
  match items.getLast? with
  | none => none
  | some last => (f last).map fun new => items.dropLast ++ [new]

/-- Change the table that the parts of a header lead to. -/
def changeAt (f : Entries → Option Entries) : List String → Entries → Option Entries
  | [], t => f t
  | key :: path, t =>
    match Json.lookup key t with
    | none => (changeAt f path []).map fun new => setEntry key (.table .implicit new) t
    | some (.value _) => none
    | some (.table origin entries) =>
      (changeAt f path entries).map fun new => setEntry key (.table origin new) t
    | some (.tables items) =>
      (changeLast (changeAt f path) items).map fun new => setEntry key (.tables new) t

/-- Open a table by its header. -/
def openTable (key : String) (t : Entries) : Option Entries :=
  match Json.lookup key t with
  | none => some (setEntry key (.table .header []) t)
  | some (.table .implicit entries) => some (setEntry key (.table .header entries) t)
  | some _ => none

/-- Open one more table of a list by its header. -/
def appendTable (key : String) (t : Entries) : Option Entries :=
  match Json.lookup key t with
  | none => some (setEntry key (.tables [[]]) t)
  | some (.tables items) => some (setEntry key (.tables (items ++ [[]])) t)
  | some _ => none

/-- Set a key that must be new. -/
def setNew (key : String) (v : Json) (t : Entries) : Option Entries :=
  match Json.lookup key t with
  | none => some (t ++ [(key, .value v)])
  | some _ => none

/-- Set a key with points; the tables before its last part may only come from such keys.  The flag
says whether the present table does. -/
def setDotted (v : Json) : List String → Bool → Entries → Option Entries
  | [], _, _ => none
  | [key], reached, t => if reached then setNew key v t else none
  | key :: path, _, t =>
    match Json.lookup key t with
    | none => (setDotted v path true []).map fun new => setEntry key (.table .dotted new) t
    | some (.value _) => none
    | some (.table .header _) => none
    | some (.table origin entries) =>
      (setDotted v path (origin == .dotted) entries).map fun new =>
        setEntry key (.table origin new) t
    | some (.tables items) =>
      (changeLast (setDotted v path false) items).map fun new => setEntry key (.tables new) t

mutual

/-- What stands under a key, as a value. -/
def Node.toJson : Node → Json
  | .value v => v
  | .table _ entries => .object (entriesToJson entries)
  | .tables items => .list (tablesToJson items)

/-- The entries of a table as members. -/
def entriesToJson : List (String × Node) → List (String × Json)
  | [] => []
  | (k, n) :: rest => (k, n.toJson) :: entriesToJson rest

/-- The tables of a list as objects. -/
def tablesToJson : List (List (String × Node)) → List Json
  | [] => []
  | t :: rest => .object (entriesToJson t) :: tablesToJson rest

end

end Vigil.Toml
