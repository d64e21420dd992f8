import Vigil.Text.CaseShifts

/-!
# Sets of characters

A set of characters is a list of ranges of code points, ascending and apart.  The numbers between
0xd7ff and 0xe000 belong to no character; a range may pass over them but never begins or ends there.
-/

namespace Vigil

/-- The code points from a first to a last one. -/
abbrev CodeRange := Nat × Nat

/-- A set of characters. -/
structure CharSet where
  ranges : List CodeRange
deriving DecidableEq, Repr

namespace CharSet

/-! ## Membership -/

/-- Does one of some ascending ranges hold the code point? -/
def holdsIn (n : Nat) : List CodeRange → Bool
  | [] => false
  | r :: rest => if n < r.1 then false else n ≤ r.2 || holdsIn n rest

/-- Is the code point in the set? -/
def holds (s : CharSet) (n : Nat) : Bool :=
  holdsIn n s.ranges

/-! ## Neighbours -/

/-- The greatest code point. -/
def lastPoint : Nat := 0x10ffff

/-- The number of the next character. -/
def next (n : Nat) : Nat :=
  if n = 0xd7ff then 0xe000 else n + 1

/-- The number of the character before. -/
def previous (n : Nat) : Nat :=
  if n = 0xe000 then 0xd7ff else n - 1

/-! ## Building sets -/

/-- The set without members. -/
def empty : CharSet := ⟨[]⟩

/-- The characters from a first to a last one. -/
def span (first last : Nat) : CharSet := ⟨[(first, last)]⟩

/-- The set of one character. -/
def single (c : Char) : CharSet := span c.toNat c.toNat

/-- All characters. -/
def full : CharSet := span 0 lastPoint

/-- Insert ranges into others, by their first code points. -/
def mergeRanges : List CodeRange → List CodeRange → List CodeRange
  | [], t => t
  | r :: s, t =>
    t.takeWhile (·.1 < r.1) ++ r :: mergeRanges s (t.dropWhile (·.1 < r.1))

/-- Join the range `r` and those of the others that touch it or each other. -/
def joinFrom (r : CodeRange) : List CodeRange → List CodeRange
  | [] => [r]
  | x :: rest =>
    if x.1 ≤ r.2 + 1 then joinFrom (r.1, max r.2 x.2) rest else r :: joinFrom x rest

/-- Join the ranges that touch each other. -/
def joinRanges : List CodeRange → List CodeRange
  | [] => []
  | r :: rest => joinFrom r rest

/-- The members of both sets. -/
def union (s t : CharSet) : CharSet :=
  ⟨joinRanges (mergeRanges s.ranges t.ranges)⟩

/-- Join neighbouring sets of a list, two by two. -/
def unionPairs : List CharSet → List CharSet
  | s :: t :: rest => union s t :: unionPairs rest
  | l => l

/-- Join the sets of a list in a number of rounds. -/
def unionRounds : Nat → List CharSet → CharSet
  | _, [] => empty
  | _, [s] => s
  | 0, s :: _ => s
  | n + 1, l => unionRounds n (unionPairs l)

/-- The members of all sets. -/
def unionAll (l : List CharSet) : CharSet :=
  unionRounds l.length l

/-- The ranges of a span. -/
def spanRanges (s : Text.Span) : List CodeRange :=
  if s.2.2 ≤ 1 then [(s.1, s.2.1)]
  else (List.range ((s.2.1 - s.1) / s.2.2 + 1)).map fun i => (s.1 + i * s.2.2, s.1 + i * s.2.2)

/-- The set of ascending spans. -/
def ofSpans (l : List Text.Span) : CharSet :=
  ⟨joinRanges (l.flatMap spanRanges)⟩

/-- The set of some code points. -/
def ofPoints (l : List Nat) : CharSet :=
  unionAll (l.map fun n => span n n)

/-! ## Combining sets -/

/-- What lies between the ends of two neighbouring ranges.  Between the two sides of the numbers
that belong to no character there is nothing, and the two ends themselves are taken. -/
def gap (a b : Nat) : CodeRange :=
  if next a ≤ previous b then (next a, previous b) else (previous b, next a)

/-- The ranges after the code point `n` that are left free. -/
def gapsAfter (n : Nat) : List CodeRange → List CodeRange
  | [] => if n < lastPoint then [(next n, lastPoint)] else []
  | r :: rest => gap n r.1 :: gapsAfter r.2 rest

/-- The characters that are not in the set. -/
def complement (s : CharSet) : CharSet :=
  match s.ranges with
  | [] => full
  | r :: rest => ⟨(if 0 < r.1 then [(0, previous r.1)] else []) ++ gapsAfter r.2 rest⟩

/-- What ascending ranges have in common with others. -/
def meetRanges : List CodeRange → List CodeRange → List CodeRange
  | [], _ => []
  | r :: s, t =>
    let t := t.dropWhile (·.2 < r.1)
    (t.takeWhile (·.1 ≤ r.2)).map (fun x => (max r.1 x.1, min r.2 x.2)) ++ meetRanges s t

/-- The common members of two sets. -/
def intersection (s t : CharSet) : CharSet :=
  ⟨meetRanges s.ranges t.ranges⟩

/-- What is left of the range from `a` to `b` when ascending ranges are taken out. -/
def cutRange (a b : Nat) : List CodeRange → List CodeRange
  | [] => [(a, b)]
  | x :: rest =>
    if b < x.1 then [(a, b)]
    else if x.2 < a then cutRange a b rest
    else
      (if a < x.1 then [(a, previous x.1)] else []) ++
        (if x.2 < b then cutRange (next x.2) b rest else [])

/-- What is left of ranges when others are taken out. -/
def cutRanges : List CodeRange → List CodeRange → List CodeRange
  | [], _ => []
  | r :: s, t =>
    let t := t.dropWhile (·.2 < r.1)
    cutRange r.1 r.2 t ++ cutRanges s t

/-- The members of the first set that are not in the second. -/
def difference (s t : CharSet) : CharSet :=
  ⟨cutRanges s.ranges t.ranges⟩

/-- The members of exactly one of two sets. -/
def symmetricDifference (s t : CharSet) : CharSet :=
  difference (union s t) (intersection s t)

/-! ## Case -/

/-- Every letter that has a representative other than itself, with the representative. -/
def foldPairs : List (Nat × Nat) :=
  Text.Shifts.folding.flatMap fun s =>
    (List.range ((s.2.1 - s.1) / s.2.2.1 + 1)).map fun i =>
      (s.1 + i * s.2.2.1, s.2.2.2 + i * s.2.2.1)

/-- The set with all characters that differ from a member in case only. -/
def fold (s : CharSet) : CharSet :=
  let touched := foldPairs.filterMap fun p =>
    if s.holds p.1 || s.holds p.2 then some p.2 else none
  if touched.isEmpty then s
  else
    let representatives := ofPoints touched
    let others := (foldPairs.filter fun p => representatives.holds p.2).map (·.1)
    (s.union representatives).union (ofPoints others)

/-- All characters that differ from a given one in case only. -/
def caseVariants (c : Char) : CharSet :=
  ofPoints (Text.caseVariants c.toNat)

/-- The set with the other case of those of its members that are among the 26 plain letters. -/
def foldPlain (s : CharSet) : CharSet :=
  let shifted (a b : Nat) (f : Nat → Nat) : CharSet :=
    ⟨(s.intersection (span a b)).ranges.map fun r => (f r.1, f r.2)⟩
  (s.union (shifted 97 122 (· - 32))).union (shifted 65 90 (· + 32))

/-! ## Shape -/

/-- Are all members in the basic range? -/
def isBasic (s : CharSet) : Bool :=
  s.ranges.getLast?.all (·.2 < 128)

/-- The member of a set that has one only. -/
def only? (s : CharSet) : Option Char :=
  match s.ranges with
  | [(a, b)] => if a = b then some (Char.ofNat a) else none
  | _ => none

end CharSet

end Vigil
