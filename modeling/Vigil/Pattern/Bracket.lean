import Vigil.Pattern.Escape

/-!
# Sets in brackets

A set in brackets holds characters, ranges, named sets and further sets in brackets, joined by the
signs for intersection and two kinds of difference.
-/

namespace Vigil.Pattern

/-- A set in brackets, and how deep it is nested. -/
structure NestedSet where
  set : CharSet := .empty
  depth : Nat := 0

/-- What has been read between two signs: the union of the sets, how many there are, and the
greatest depth. -/
structure SetUnion where
  set : CharSet := .empty
  count : Nat := 0
  depth : Nat := 0

namespace SetUnion

/-- Add a set. -/
def add (u : SetUnion) (s : CharSet) (depth : Nat) : SetUnion :=
  ⟨u.set.union s, u.count + 1, max u.depth depth⟩

/-- The union as one set.  Several sets are one step deeper than each. -/
def total (u : SetUnion) : NestedSet :=
  ⟨u.set, if u.count ≤ 1 then u.depth else u.depth + 1⟩

end SetUnion

/-- How the sets before and after a sign are joined. -/
inductive Join where
  | intersection | difference | symmetricDifference

namespace Join

/-- The set of a sign and its operands. -/
def apply (j : Join) (s t : CharSet) : CharSet :=
  match j with
  | intersection => s.intersection t
  | difference => s.difference t
  | symmetricDifference => s.symmetricDifference t

/-- Read a sign, which is a character written twice. -/
def read (s : List Char) : Option (Join × List Char) :=
  match s with
  | '&' :: '&' :: rest => some (intersection, rest)
  | '-' :: '-' :: rest => some (difference, rest)
  | '~' :: '~' :: rest => some (symmetricDifference, rest)
  | _ => none

end Join

/-- The sets read so far at one level of brackets: the operand before the last sign, the sign, and
what has been read since. -/
structure SetDraft where
  before : Option (NestedSet × Join) := none
  current : SetUnion := {}

namespace SetDraft

/-- Add a set. -/
def add (d : SetDraft) (s : CharSet) (depth : Nat) : SetDraft :=
  { d with current := d.current.add s depth }

/-- The set of everything read at one level. -/
def total (f : Flags) (d : SetDraft) : NestedSet :=
  let last := d.current.total
  match d.before with
  | none => last
  | some (s, j) => ⟨j.apply (f.folded s.set) (f.folded last.set), max s.depth last.depth + 1⟩

end SetDraft

/-! ## Members -/

/-- A member of a bracketed set: a character, which may begin a range, or a set. -/
inductive Member where
  | char (n : Nat)
  | set (s : CharSet)

/-- The set of a member. -/
def Member.toSet : Member → CharSet
  | .char n => .span n n
  | .set s => s

/-- A character as a member, if it is allowed. -/
def memberOf? (f : Flags) (n : Nat) : Option Member :=
  if f.everyScript || n < 128 then some (.char n) else none

/-- Read one member of a bracketed set. -/
def readMember (f : Flags) (s : List Char) : Option (Member × List Char) :=
  match s with
  | [] => none
  | '\\' :: rest => do
    let (e, rest) ← readEscape f rest
    match e with
    | .char c => some (← memberOf? f c.toNat, rest)
    | .byte n => some (← memberOf? f n, rest)
    | .set t => some (.set t, rest)
    | .look _ => none
  | c :: rest => (memberOf? f c.toNat).map fun m => (m, rest)

/-- Read a member or a range of a bracketed set. -/
def readRange (f : Flags) (s : List Char) : Option (CharSet × List Char) := do
  let (first, rest) ← readMember f s
  match f.skip rest with
  | [] => none
  | '-' :: r =>
    let next := f.peekBehind r
    if next == some ']' || next == some '-' then some (first.toSet, '-' :: r)
    else
      let (last, r) ← readMember f (f.skip r)
      match first, last with
      | .char a, .char b => if a ≤ b then some (.span a b, r) else none
      | _, _ => none
  | rest => some (first.toSet, rest)

/-- Read a bracketed name such as `[:alpha:]` behind its first bracket. -/
def readBasicSet (f : Flags) (s : List Char) : Option (CharSet × List Char) :=
  match s with
  | ':' :: rest =>
    let (negated, rest) :=
      match rest with
      | '^' :: r => (true, r)
      | r => (false, r)
    let name := rest.takeWhile (· != ':')
    match rest.drop name.length with
    | ':' :: ']' :: r => (basicSet? name).map fun t => (f.adjusted negated t, r)
    | _ => none
  | _ => none

/-! ## Brackets -/

/-- Read hyphens that stand for themselves at the beginning of a set.  The number bounds the
steps. -/
def readHyphens (f : Flags) : Nat → SetUnion → List Char → SetUnion × List Char
  | 0, u, s => (u, s)
  | n + 1, u, s =>
    match s with
    | '-' :: rest => readHyphens f n (u.add (.span 45 45) 0) (f.skip rest)
    | s => (u, s)

/-- Read the beginning of a bracketed set: whether it is a complement, and the hyphens and the
bracket that stand for themselves at this place. -/
def readOpening (f : Flags) (s : List Char) : Bool × SetUnion × List Char :=
  let (negated, s) :=
    match f.skip s with
    | '^' :: r => (true, r)
    | r => (false, r)
  let (u, s) := readHyphens f (s.length + 1) {} (f.skip s)
  match s with
  | ']' :: r => if u.count = 0 then (negated, u.add (.span 93 93) 0, r) else (negated, u, s)
  | _ => (negated, u, s)

/-- Read a bracketed set behind its opening.  The number bounds the steps. -/
def readBracket (f : Flags) :
    Nat → Bool → SetDraft → List Char → Option (NestedSet × List Char)
  | 0, _, _, _ => none
  | n + 1, negated, d, s =>
    match f.skip s with
    | [] => none
    | ']' :: rest => do
      let t := d.total f
      let s ← f.checked (f.adjusted negated t.set)
      some (⟨s, t.depth + 1⟩, rest)
    | '[' :: rest =>
      match readBasicSet f rest with
      | some (t, r) => do readBracket f n negated (d.add (← f.checked t) 0) r
      | none =>
        let (inner, start, r) := readOpening f rest
        match readBracket f n inner { current := start } r with
        | none => none
        | some (t, r) => readBracket f n negated (d.add t.set t.depth) r
    | s =>
      match Join.read s with
      | some (j, r) => readBracket f n negated { before := some (d.total f, j) } r
      | none =>
        match readRange f s with
        | none => none
        | some (t, r) => readBracket f n negated (d.add t 0) r

end Vigil.Pattern
