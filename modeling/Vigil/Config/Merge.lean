import Vigil.Json.Tree
import Vigil.Decimal.Reading
import Vigil.Text.Lowercase

/-!
# Merging settings

Settings from several sources are merged into one object.  The keys of a source may be addresses
that lead into the object; tables are merged key by key, and everything else replaces what was
there.  Keys are kept in lower case.
-/

namespace Vigil.Config

/-- The members of a value; a value that is no object has none. -/
def membersOf : Json → List (String × Json)
  | .object members => members
  | _ => []

/-- The items of a value; a value that is no list has none. -/
def itemsOf : Json → List Json
  | .list items => items
  | _ => []

mutual

/-- Set a key of an object; an object is merged into what is there. -/
def setKey (key : String) : Json → Json → Json
  | .object incoming, root =>
    let k := Text.lowercase key
    let members := membersOf root
    .object (Json.insertMember k
      (mergeMembers incoming ((Json.lookup k members).getD (.object []))) members)
  | v, root => .object (Json.insertMember (Text.lowercase key) v (membersOf root))

/-- Set every key of a list of members. -/
def mergeMembers : List (String × Json) → Json → Json
  | [], target => target
  | (k, v) :: rest, target => mergeMembers rest (setKey k v target)

end

/-! ## Addresses -/

/-- A step of an address behind its first key. -/
inductive Step where
  | key (name : String)
  | index (i : Int)
deriving DecidableEq, Repr

/-- May a character stand in a key of an address? -/
def isKeyChar (c : Char) : Bool :=
  c.isAlphanum || c == ' ' || c == '_' || c == '-'

/-- Read an index up to its bracket: digits, with a minus sign or none, and blanks around them. -/
def index? (s : List Char) : Option (Int × List Char) :=
  let isBlank (c : Char) : Bool := c == ' ' || c == '\t'
  let s := s.dropWhile isBlank
  let (negative, s) :=
    match s with
    | '-' :: rest => (true, rest)
    | rest => (false, rest)
  match Decimal.readDigits? (s.takeWhile Char.isDigit),
      (s.dropWhile Char.isDigit).dropWhile isBlank with
  | some n, ']' :: rest =>
    let i := if negative then -(n : Int) else n
    if Decimal.isSigned64 i then some (i, rest) else none
  | _, _ => none

/-- Read the steps of an address.  The number bounds them. -/
def steps? : Nat → List Char → Option (List Step)
  | _, [] => some []
  | 0, _ :: _ => none
  | n + 1, '.' :: rest =>
    let name := rest.takeWhile isKeyChar
    if name.isEmpty then none
    else (steps? n (rest.dropWhile isKeyChar)).map (.key (String.ofList name) :: ·)
  | n + 1, '[' :: rest =>
    match index? rest with
    | some (i, rest) => (steps? n rest).map (.index i :: ·)
    | none => none
  | _ + 1, _ :: _ => none

/-- A key read as an address: its first key and the steps behind it. -/
def address? (s : String) : Option (String × List Step) :=
  let cs := s.toList
  let name := cs.takeWhile isKeyChar
  if name.isEmpty then none
  else (steps? cs.length (cs.dropWhile isKeyChar)).map fun l => (String.ofList name, l)

/-- The position that an index means in a list of some length; a negative one counts from the
end. -/
def position (i : Int) (length : Nat) : Nat :=
  if 0 ≤ i then i.toNat else length - i.natAbs

/-- The list with nulls added up to a position. -/
def padTo (n : Nat) (items : List Json) : List Json :=
  items ++ List.replicate (n + 1 - items.length) .null

/-- Set a value behind some steps. -/
def setSteps (v : Json) : List Step → Json → Json
  | [], _ => v
  | [.key name], root => setKey name v root
  | .key name :: rest, root =>
    let k := Text.lowercase name
    let members := membersOf root
    .object (Json.insertMember k (setSteps v rest ((Json.lookup k members).getD .null)) members)
  | .index i :: rest, root =>
    let items := itemsOf root
    let n := position i items.length
    .list ((padTo n items).modify n (setSteps v rest))

/-- Set a key of a source. -/
def setAddress (key : String) (v : Json) (root : Json) : Json :=
  match address? key with
  | some (first, steps) => setSteps v (.key first :: steps) root
  | none => setKey key v root

/-- Merge the members of a source. -/
def mergeSource (members : List (String × Json)) (root : Json) : Json :=
  members.foldl (fun root m => setAddress m.1 m.2 root) root

end Vigil.Config
