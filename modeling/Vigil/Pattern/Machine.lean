import Vigil.Pattern.Basic
import Vigil.Pattern.Trie

/-!
# The size of a pattern

A pattern is refused if one of the two machines that look for it would be too large: one reads the
bytes of a text forwards and marks groups, the other reads them backwards.  `Machine` counts the
states of such a machine and the bytes they take; the states themselves are not needed.

A state that chooses between others takes more bytes for each of them, and a state with several
ranges of bytes for each range.  Sets of characters share the states for equal endings as far as a
table of bounded size remembers them, so that their size depends on the numbers of states.
-/

namespace Vigil.Pattern

/-!
## The bytes of a set of characters

A range of characters is cut into pieces whose encodings have one length and run through a product
of ranges of bytes.
-/

/-- A range of bytes. -/
abbrev ByteRange := Nat × Nat

/-- The last code points whose encodings have one, two and three bytes. -/
def lastOfLength : List Nat := [0x7f, 0x7ff, 0xffff]

/-- Where the range from `a` to `b` is cut so that the bytes behind the first, or the first two or
three, run through everything: the last code point before the cut. -/
def alignedCut? (a b : Nat) : List Nat → Option Nat
  | [] => none
  | m :: ms =>
    if a / m = b / m then alignedCut? a b ms
    else if a % m ≠ 0 then some (a / m * m + (m - 1))
    else if b % m ≠ m - 1 then some (b / m * m - 1)
    else alignedCut? a b ms

/-- Where the range from `a` to `b` has to be cut. -/
def cut? (a b : Nat) : Option Nat :=
  match lastOfLength.find? fun m => a ≤ m && m < b with
  | some m => some m
  | none => if b ≤ 0x7f then none else alignedCut? a b [64, 4096, 262144]

/-- The pieces of a range; the first number bounds how often it is cut. -/
def pieces : Nat → Nat → Nat → List CodeRange
  | 0, a, b => [(a, b)]
  | n + 1, a, b =>
    if b < a then []
    else if a < 0xe000 ∧ 0xd7ff < b then pieces n a 0xd7ff ++ pieces n 0xe000 b
    else
      match cut? a b with
      | none => [(a, b)]
      | some m => pieces n a m ++ pieces n (m + 1) b

/-- The bytes of a code point. -/
def bytesOf (n : Nat) : List Nat :=
  if n ≤ 0x7f then [n]
  else if n ≤ 0x7ff then [0xc0 + n / 64, 0x80 + n % 64]
  else if n ≤ 0xffff then [0xe0 + n / 4096, 0x80 + n / 64 % 64, 0x80 + n % 64]
  else [0xf0 + n / 262144, 0x80 + n / 4096 % 64, 0x80 + n / 64 % 64, 0x80 + n % 64]

/-- The products of ranges of bytes that make up a range of characters. -/
def byteRanges (r : CodeRange) : List (List ByteRange) :=
  (pieces 32 r.1 r.2).map fun p => (bytesOf p.1).zip (bytesOf p.2)

/-- The products of ranges of bytes that make up a set. -/
def setByteRanges (s : CharSet) : List (List ByteRange) :=
  s.ranges.flatMap byteRanges

/-! ## Machines -/

/-- A machine under construction: how many states it has, and the bytes they take beside the states
themselves. -/
structure Machine where
  states : Nat := 0
  extra : Nat := 0
deriving DecidableEq, Repr

namespace Machine

/-- The bytes of a state. -/
def stateSize : Nat := 32

/-- The bytes of a range of a state with several ranges. -/
def rangeSize : Nat := 8

/-- The bytes of an alternative of a state that chooses. -/
def choiceSize : Nat := 4

/-- The bytes of the machine. -/
def size (m : Machine) : Nat :=
  m.states * stateSize + m.extra

/-- The greatest size. -/
def maxSize : Nat := 10485760

/-- Add states. -/
def add (m : Machine) (n : Nat) : Machine :=
  { m with states := m.states + n }

/-- Add alternatives to states that choose. -/
def choose (m : Machine) (n : Nat) : Machine :=
  { m with extra := m.extra + choiceSize * n }

/-- Add a state with several ranges of bytes. -/
def addRanges (m : Machine) (n : Nat) : Machine :=
  { states := m.states + 1, extra := m.extra + rangeSize * n }

end Machine

/-- Part of a machine: whether the state in which it ends is one that chooses, so that leading on
from it takes an alternative. -/
structure Fragment where
  chooses : Bool := false
deriving DecidableEq, Repr

/-- Lead on from the end of a part. -/
def Fragment.leadOn (f : Fragment) (m : Machine) : Machine :=
  if f.chooses then m.choose 1 else m

/-! ## Equal endings -/

/-- A range of bytes and the state to which it leads. -/
abbrev Transition := Nat × Nat × Nat

/-- Mix a number into a hash. -/
def mix (h : UInt64) (n : Nat) : UInt64 :=
  (h ^^^ UInt64.ofNat n) * 1099511628211

/-- The slot of some numbers in a table of the given size. -/
def slotOf (size : Nat) (ns : List Nat) : Nat :=
  (ns.foldl mix 14695981039346656037).toNat % size

/-- A machine with what is remembered of the set being built: the keys and numbers of states by
slots. -/
structure Shared (κ : Type) where
  machine : Machine
  table : SlotTree (κ × Nat) := .none

/-! ### Forwards -/

/-- A node whose ranges are not complete: those that are, the last first, and the one that is
not. -/
structure OpenNode where
  transitions : List Transition := []
  last : Option ByteRange := none

/-- Complete the last range of a node. -/
def OpenNode.close (n : OpenNode) (next : Nat) : OpenNode :=
  match n.last with
  | none => n
  | some r => ⟨(r.1, r.2, next) :: n.transitions, none⟩

/-- The number of slots for endings that are read forwards. -/
def forwardSlots : Nat := 10000

/-- The state of a node with these ranges, which is shared if it is remembered. -/
def share (s : Shared (List Transition)) (ts : List Transition) :
    Nat × Shared (List Transition) :=
  let slot := slotOf forwardSlots (ts.reverse.flatMap fun t => [t.1, t.2.1, t.2.2])
  let fresh : Nat × Shared (List Transition) :=
    (s.machine.states,
      ⟨s.machine.addRanges ts.length, s.table.insert slot (ts, s.machine.states)⟩)
  match s.table.find slot with
  | some (key, state) => if key = ts then (state, s) else fresh
  | none => fresh

/-- Complete the nodes of a path, the deepest first, as long as more than `keep` stand before one;
then complete the last range of the next node. -/
def closePath (keep : Nat) :
    List OpenNode → Nat → Shared (List Transition) → List OpenNode × Shared (List Transition)
  | [], _, s => ([], s)
  | n :: rest, next, s =>
    if keep < rest.length then
      let (state, s) := share s (n.close next).transitions
      closePath keep rest state s
    else (n.close next :: rest, s)

/-- How many ranges a path, its first node first, has in common with others. -/
def sharedLength : List OpenNode → List ByteRange → Nat
  | n :: ns, r :: rs => if n.last = some r then sharedLength ns rs + 1 else 0
  | _, _ => 0

/-- Begin nodes for the rest of a product of ranges. -/
def openPath (path : List OpenNode) (rs : List ByteRange) : List OpenNode :=
  match path, rs with
  | n :: rest, r :: rs =>
    (rs.map fun r => ⟨[], some r⟩).reverse ++ { n with last := some r } :: rest
  | path, _ => path

/-- Add a product of ranges to a path, whose deepest node stands first. -/
def addForward (target : Nat) (x : List OpenNode × Shared (List Transition))
    (rs : List ByteRange) : List OpenNode × Shared (List Transition) :=
  let keep := sharedLength x.1.reverse rs
  let (path, s) := closePath keep x.1 target x.2
  (openPath path (rs.drop keep), s)

/-- The states of a set read forwards. -/
def buildForward (m : Machine) (s : CharSet) : Machine :=
  let target := m.states
  let x := (setByteRanges s).foldl (addForward target) ([{}], { machine := m.add 1 })
  match closePath 0 x.1 target x.2 with
  | (n :: _, s) => (share s n.transitions).2.machine
  | ([], s) => s.machine

/-! ### Backwards -/

/-- The number of slots for endings that are read backwards. -/
def backwardSlots : Nat := 1000

/-- Add a range of bytes before a state. -/
def addBackwardByte (x : Nat × Shared (List Nat)) (r : ByteRange) : Nat × Shared (List Nat) :=
  let (before, s) := x
  let key := [before, r.1, r.2]
  let slot := slotOf backwardSlots key
  let fresh : Nat × Shared (List Nat) :=
    (s.machine.states, ⟨s.machine.add 1, s.table.insert slot (key, s.machine.states)⟩)
  match s.table.find slot with
  | some (k, state) => if k = key then (state, s) else fresh
  | none => fresh

/-- Add a product of ranges before the state where the set ends. -/
def addBackward (finish : Nat) (s : Shared (List Nat)) (rs : List ByteRange) :
    Shared (List Nat) :=
  let s := (rs.foldl addBackwardByte (finish, s)).2
  { s with machine := s.machine.choose 1 }

/-- The states of a set read backwards. -/
def buildBackward (m : Machine) (s : CharSet) : Machine :=
  ((setByteRanges s).foldl (addBackward (m.states + 1)) { machine := m.add 2 }).machine

/-! ## Parts of machines -/

/-- The states of a node of a trie and of the nodes below it; `ranges` are the branches since the
last stop, and `alternatives` what the node chooses between so far. -/
def buildTrie : Trie → Nat → Nat → Machine → Machine
  | .done, ranges, alternatives, m =>
    let m := if ranges = 0 then m else if ranges = 1 then m.add 1 else m.addRanges ranges
    (m.add 1).choose (alternatives + min ranges 1)
  | .stop rest, ranges, alternatives, m =>
    let m := if ranges = 0 then m else if ranges = 1 then m.add 1 else m.addRanges ranges
    buildTrie rest 0 (alternatives + min ranges 1 + 1) m
  | .branch _ below rest, ranges, alternatives, m =>
    let m := if below.hasBranch then buildTrie below 0 0 m else m
    buildTrie rest (ranges + 1) alternatives m

/-- The bytes of a literal. -/
def literalBytes (w : List Char) : List Nat :=
  w.flatMap fun c => bytesOf c.toNat

/-- Literals as strings of bytes, if all patterns are literals. -/
def literals? (ps : List Pattern) : Option (List (List Nat)) :=
  ps.mapM fun p =>
    match p with
    | literal w => some (literalBytes w)
    | _ => none

/-- A part of a machine with the machine, if that is not too large. -/
abbrev Built := Option (Fragment × Machine)

/-- Repeat a part a number of times, behind another part. -/
def buildCopies (part : Machine → Built) : Nat → Fragment → Machine → Built
  | 0, f, m => some (f, m)
  | n + 1, f, m =>
    if Machine.maxSize < m.size then none
    else
      match part m with
      | none => none
      | some (g, m) => buildCopies part n g (f.leadOn m)

/-- A part exactly `n` times. -/
def buildExactly (part : Machine → Built) (n : Nat) (m : Machine) : Built :=
  match n with
  | 0 => some ({}, m.add 1)
  | n + 1 => (part m).bind fun (f, m) => buildCopies part n f m

/-- A part up to `n` times more, behind another part. -/
def buildOptional (part : Machine → Built) : Nat → Fragment → Machine → Built
  | 0, f, m => some ({}, f.leadOn m)
  | n + 1, f, m =>
    if Machine.maxSize < m.size then none
    else
      match part (m.add 1) with
      | none => none
      | some (g, m) => buildOptional part n g ((f.leadOn m).choose 2)

/-- A part any number of times; `solid` says that it does not match the empty text. -/
def buildAny (part : Machine → Built) (solid : Bool) (m : Machine) : Built :=
  if solid then
    (part (m.add 1)).map fun (f, m) => (⟨true⟩, (f.leadOn m).choose 1)
  else
    (part m).map fun (f, m) => ({}, ((f.leadOn (m.add 3)).choose 4))

/-- A part at least once. -/
def buildSome (part : Machine → Built) (m : Machine) : Built :=
  (part m).map fun (f, m) => (⟨true⟩, (f.leadOn (m.add 1)).choose 1)

/-- A repetition of a part. -/
def buildRepetition (part : Machine → Built) (solid : Bool) (least : Nat) (most : Option Nat)
    (m : Machine) : Built :=
  match least, most with
  | 0, some 1 => (part (m.add 1)).map fun (f, m) => ({}, f.leadOn ((m.add 1).choose 2))
  | 0, none => buildAny part solid m
  | 1, none => buildSome part m
  | n, none =>
    (buildExactly part (n - 1) m).bind fun (f, m) =>
      (buildSome part m).map fun (g, m) => (g, f.leadOn m)
  | n, some k =>
    if n = k then buildExactly part n m
    else (buildExactly part n m).bind fun (f, m) => buildOptional part (k - n) f (m.add 1)

/-- Where a pattern stands among alternatives. -/
inductive Place where
  | alone | second | further

/-- Join an alternative to those before it.  With the second come the state that chooses and the
state behind the choice. -/
def Place.join (place : Place) (b : Built) : Built :=
  match place with
  | alone => b
  | second => b.map fun (f, m) => ({}, (f.leadOn (m.add 2)).choose 2)
  | further => b.map fun (f, m) => ({}, (f.leadOn m).choose 1)

/-- Add the states of a pattern to a machine that reads forwards or backwards. -/
def build (backward : Bool) : Pattern → Place → Machine → Built
  | empty, place, m => place.join (some ({}, m.add 1))
  | literal w, place, m => place.join (some ({}, m.add (literalBytes w).length))
  | look _, place, m => place.join (some ({}, m.add 1))
  | chars s, place, m =>
    place.join (some ({},
      if s.isBasic then (m.add 1).addRanges s.ranges.length
      else if backward then buildBackward m s
      else buildForward m s))
  | repetition p least most _, place, m =>
    place.join (buildRepetition (build backward p .alone) (p.leastLength.any (0 < ·)) least most m)
  | group _ p, place, m =>
    place.join (
      if backward then build backward p .alone m
      else (build backward p .alone (m.add 1)).map fun (f, m) => ({}, f.leadOn (m.add 1)))
  | sequence p q, place, m =>
    place.join (
      if backward then
        (build backward q .alone m).bind fun (f, m) =>
          (build backward p .alone m).map fun (g, m) => (g, f.leadOn m)
      else
        (build backward p .alone m).bind fun (f, m) =>
          (build backward q .alone m).map fun (g, m) => (g, f.leadOn m))
  | choice p q, .alone, m =>
    match literals? (p :: q.alternatives) with
    | some texts =>
      let texts := if backward then texts.map List.reverse else texts
      some ({}, buildTrie (.ofTexts texts) 0 0 (m.add 1))
    | none =>
      (build backward p .alone m).bind fun (f, m) => build backward q .second (f.leadOn m)
  | choice p q, place, m =>
    (place.join (build backward p .alone m)).bind fun (_, m) => build backward q .further m

/-! ## Whole machines -/

/-- Does every match begin where the text begins? -/
def beginsText : Pattern → Bool
  | look l => l == .textStart
  | repetition p least _ _ => 0 < least && p.beginsText
  | group _ p => p.beginsText
  | sequence p q => p.beginsText || (p.isVoid && q.beginsText)
  | choice p q => p.beginsText && q.beginsText
  | _ => false

/-- Does every match end where the text ends? -/
def endsText : Pattern → Bool
  | look l => l == .textEnd
  | repetition p least _ _ => 0 < least && p.endsText
  | group _ p => p.endsText
  | sequence p q => q.endsText || (q.isVoid && p.endsText)
  | choice p q => p.endsText && q.endsText
  | _ => false

/-- The machine of a pattern.  Unless it is bound to an end of the text, it passes over any bytes
first. -/
def machine? (backward : Bool) (p : Pattern) : Option Machine :=
  let bound := if backward then p.endsText else p.beginsText
  let start : Machine := {}
  let m := if bound then start.add 1 else ((start.add 2).addRanges 1).choose 2
  let whole := if backward then p else group 0 p
  (build backward whole .alone m).map fun (f, m) => f.leadOn (m.add 1)

/-- Are the machines of a pattern small enough? -/
def fits (p : Pattern) : Bool :=
  (machine? false p).any (·.size ≤ Machine.maxSize) &&
    (machine? true p).any (·.size ≤ Machine.maxSize)

end Vigil.Pattern
