/-!
# Tries of byte strings

A choice between literal texts is decided byte by byte in a trie.  The order of the texts counts: a
text that ends at a node stops it, and texts that come later go on behind that stop.
-/

namespace Vigil.Pattern

/-- A node of a trie, as the chain of its branches and stops. -/
inductive Trie where
  | done
  | branch (byte : Nat) (below rest : Trie)
  | stop (rest : Trie)
deriving Repr

namespace Trie

/-- Does a text end at the node? -/
def hasStop : Trie → Bool
  | done => false
  | branch _ _ rest => rest.hasStop
  | stop _ => true

/-- Does the node lead on to others? -/
def hasBranch : Trie → Bool
  | done => false
  | branch _ _ _ => true
  | stop rest => rest.hasBranch

/-- The trie of one text. -/
def ofBytes (bytes : List Nat) : Trie :=
  bytes.foldr (fun b t => branch b t done) (stop done)

/-- Put a stop at the end of a chain. -/
def appendStop : Trie → Trie
  | done => stop done
  | branch b below rest => branch b below rest.appendStop
  | stop rest => stop rest.appendStop

/-- Add a text. -/
def add : Trie → List Nat → Trie
  | t, [] => if t.hasStop && !t.hasBranch then t else t.appendStop
  | done, bytes => ofBytes bytes
  | stop rest, bytes => stop (rest.add bytes)
  | branch c below rest, b :: bytes =>
    if rest.hasStop then branch c below (rest.add (b :: bytes))
    else if b = c then branch c (below.add bytes) rest
    else if b < c then branch b (ofBytes bytes) (branch c below rest)
    else branch c below (rest.add (b :: bytes))

/-- The trie of some texts. -/
def ofTexts (texts : List (List Nat)) : Trie :=
  texts.foldl add done

end Trie

/-!
## Slots

A fixed number of slots, each holding the last value put into it or nothing.  The slots are the
leaves of a binary tree, and the number of a slot is read bit by bit.
-/

/-- Values in numbered slots. -/
inductive SlotTree (α : Type) where
  | none
  | node (value : Option α) (even odd : SlotTree α)

namespace SlotTree

variable {α : Type}

/-- The bits that tell slots apart. -/
def bits : Nat := 14

/-- The value below a tree at a slot, read from a number of bits. -/
def find : SlotTree α → Nat → Option α
  | .none, _ => .none
  | .node v even odd, n =>
    if n = 0 then v else if n % 2 = 0 then even.find (n / 2) else odd.find (n / 2)

/-- Put a value into the slot `n`, which has at most the given number of bits. -/
def insertBits (a : α) : Nat → Nat → SlotTree α → SlotTree α
  | 0, _, t => t
  | k + 1, n, t =>
    let (v, even, odd) :=
      match t with
      | .none => (.none, .none, .none)
      | .node v even odd => (v, even, odd)
    if n = 0 then .node (some a) even odd
    else if n % 2 = 0 then .node v (insertBits a k (n / 2) even) odd
    else .node v even (insertBits a k (n / 2) odd)

/-- Put a value into a slot. -/
def insert (t : SlotTree α) (n : Nat) (a : α) : SlotTree α :=
  insertBits a (bits + 1) n t

end SlotTree

end Vigil.Pattern
