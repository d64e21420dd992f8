import Vigil.Pattern.Repertoire

/-!
# Patterns

A pattern describes texts: literal texts, sets of characters, conditions on a position, sequences,
alternatives and repetitions.  `Pattern.Matches` says which stretches of a text a pattern matches.

Sequences and alternatives are chains: a sequence never begins with a sequence, an alternative never
with alternatives.  `Pattern.concat` and `Pattern.anyOf` build them so, and bring a pattern into the
form in which its size is counted.
-/

namespace Vigil

/-! ## Conditions on a position -/

/-- A condition on what stands before and after a position.  The plain conditions count only the
letters, digits and low line of the basic range as word characters. -/
inductive Look where
  | textStart | textEnd
  | lineStart | lineEnd
  | anyLineStart | anyLineEnd
  | boundary | noBoundary | wordStart | wordEnd | wordStartHalf | wordEndHalf
  | plainBoundary | plainNoBoundary | plainWordStart | plainWordEnd | plainWordStartHalf
  | plainWordEndHalf
deriving DecidableEq, Repr

namespace Look

open Pattern (isWordChar)

/-- Word characters of the basic range. -/
def isPlainWord (c : Char) : Bool :=
  c.isAlphanum || c == '_'

/-- Does the condition hold between two characters?  At the ends of the text there is none. -/
def holds : Look → Option Char → Option Char → Bool
  | textStart, b, _ => b.isNone
  | textEnd, _, a => a.isNone
  | lineStart, b, _ => b.all (· == '\n')
  | lineEnd, _, a => a.all (· == '\n')
  | anyLineStart, b, a => b.all fun c => c == '\n' || (c == '\r' && a != some '\n')
  | anyLineEnd, b, a => a.all fun c => c == '\r' || (c == '\n' && b != some '\r')
  | boundary, b, a => b.any isWordChar != a.any isWordChar
  | noBoundary, b, a => b.any isWordChar == a.any isWordChar
  | wordStart, b, a => !b.any isWordChar && a.any isWordChar
  | wordEnd, b, a => b.any isWordChar && !a.any isWordChar
  | wordStartHalf, b, _ => !b.any isWordChar
  | wordEndHalf, _, a => !a.any isWordChar
  | plainBoundary, b, a => b.any isPlainWord != a.any isPlainWord
  | plainNoBoundary, b, a => b.any isPlainWord == a.any isPlainWord
  | plainWordStart, b, a => !b.any isPlainWord && a.any isPlainWord
  | plainWordEnd, b, a => b.any isPlainWord && !a.any isPlainWord
  | plainWordStartHalf, b, _ => !b.any isPlainWord
  | plainWordEndHalf, _, a => !a.any isPlainWord

end Look

/-! ## Patterns -/

/-- A description of texts. -/
inductive Pattern where
  | empty
  | literal (text : List Char)
  | chars (s : CharSet)
  | look (l : Look)
  /-- The pattern at least `least` times, and at most `most` times if that is given; a reluctant
  one prefers few rounds, which matters for what is found but not for whether. -/
  | repetition (p : Pattern) (least : Nat) (most : Option Nat) (reluctant : Bool)
  | group (number : Nat) (p : Pattern)
  | sequence (p q : Pattern)
  | choice (p q : Pattern)
deriving DecidableEq, Repr

namespace Pattern

/-! ## What a pattern matches -/

/-- A text as an array of its characters. -/
abbrev Subject := Array Char

/-- Does a condition hold at a position of a text? -/
def lookAt (text : Subject) (l : Look) (i : Nat) : Bool :=
  l.holds (if i = 0 then none else text[i - 1]?) text[i]?

/-- Does a set hold the character at a position? -/
def charAt (text : Subject) (s : CharSet) (i : Nat) : Bool :=
  text[i]?.any fun c => s.holds c.toNat

/-- Do these characters stand at a position? -/
def literalAt (text : Subject) : List Char → Nat → Bool
  | [], _ => true
  | c :: cs, i => text[i]? == some c && literalAt text cs (i + 1)

/-- `p.Matches text i j`: the pattern matches the stretch of the text from position `i` up to
position `j`. -/
inductive Matches (text : Subject) : Pattern → Nat → Nat → Prop where
  | empty (i : Nat) : Matches text .empty i i
  | literal {w : List Char} {i : Nat} (h : literalAt text w i = true) :
      Matches text (.literal w) i (i + w.length)
  | chars {s : CharSet} {i : Nat} (h : charAt text s i = true) :
      Matches text (.chars s) i (i + 1)
  | look {l : Look} {i : Nat} (h : lookAt text l i = true) : Matches text (.look l) i i
  | group {n : Nat} {p : Pattern} {i j : Nat} (h : Matches text p i j) :
      Matches text (.group n p) i j
  | sequence {p q : Pattern} {i j k : Nat} (hp : Matches text p i j) (hq : Matches text q j k) :
      Matches text (.sequence p q) i k
  | left {p q : Pattern} {i j : Nat} (h : Matches text p i j) : Matches text (.choice p q) i j
  | right {p q : Pattern} {i j : Nat} (h : Matches text q i j) : Matches text (.choice p q) i j
  | done {p : Pattern} {most : Option Nat} {r : Bool} (i : Nat) :
      Matches text (.repetition p 0 most r) i i
  | again {p : Pattern} {least : Nat} {r : Bool} {i j k : Nat} (h : Matches text p i j)
      (hs : Matches text (.repetition p (least - 1) none r) j k) :
      Matches text (.repetition p least none r) i k
  | againAtMost {p : Pattern} {least most : Nat} {r : Bool} {i j k : Nat}
      (h : Matches text p i j)
      (hs : Matches text (.repetition p (least - 1) (some most) r) j k) :
      Matches text (.repetition p least (some (most + 1)) r) i k

/-! ## Lengths -/

/-- The least number of characters of a match; none if there is a part that matches nothing. -/
def leastLength : Pattern → Option Nat
  | empty => some 0
  | literal w => some w.length
  | chars s => if s.ranges.isEmpty then none else some 1
  | look _ => some 0
  | repetition p least _ _ => p.leastLength.map (· * least)
  | group _ p => p.leastLength
  | sequence p q =>
    match p.leastLength, q.leastLength with
    | some a, some b => some (a + b)
    | _, _ => none
  | choice p q =>
    match p.leastLength, q.leastLength with
    | some a, some b => some (min a b)
    | _, _ => none

/-- The greatest number of characters of a match; none if there is no bound, or a part that
matches nothing. -/
def greatestLength : Pattern → Option Nat
  | empty => some 0
  | literal w => some w.length
  | chars s => if s.ranges.isEmpty then none else some 1
  | look _ => some 0
  | repetition p _ most _ =>
    match p.greatestLength, most with
    | some a, some m => some (a * m)
    | _, _ => none
  | group _ p => p.greatestLength
  | sequence p q =>
    match p.greatestLength, q.greatestLength with
    | some a, some b => some (a + b)
    | _, _ => none
  | choice p q =>
    match p.greatestLength, q.greatestLength with
    | some a, some b => some (max a b)
    | _, _ => none

/-- Can the pattern match the empty text only? -/
def isVoid (p : Pattern) : Bool :=
  p.greatestLength == some 0

/-! ## Building patterns -/

/-- The pattern of a set of characters; a single character is a literal. -/
def ofSet (s : CharSet) : Pattern :=
  match s.only? with
  | some c => literal [c]
  | none => chars s

/-- A repetition.  What matches the empty text only is repeated once at most. -/
def repeated (p : Pattern) (least : Nat) (most : Option Nat) (reluctant : Bool) : Pattern :=
  let least := if p.isVoid then min least 1 else least
  let most := if p.isVoid then some (min (most.getD 1) 1) else most
  if least = 0 ∧ most = some 0 then empty
  else if least = 1 ∧ most = some 1 then p
  else repetition p least most reluctant

/-- The parts of a sequence. -/
def steps : Pattern → List Pattern
  | empty => []
  | sequence p q => p :: q.steps
  | p => [p]

/-- The sequence of some parts. -/
def ofSteps : List Pattern → Pattern
  | [] => empty
  | [p] => p
  | p :: ps => sequence p (ofSteps ps)

/-- Put a part before others; literals are joined. -/
def joinStep (p : Pattern) (ps : List Pattern) : List Pattern :=
  match p, ps with
  | literal v, literal w :: rest => literal (v ++ w) :: rest
  | p, ps => p :: ps

/-- The sequence of some patterns. -/
def concat (ps : List Pattern) : Pattern :=
  ofSteps ((ps.flatMap steps).foldr joinStep [])

/-- The alternatives of a choice. -/
def alternatives : Pattern → List Pattern
  | choice p q => p :: q.alternatives
  | p => [p]

/-- The choice between some alternatives. -/
def ofAlternatives : List Pattern → Pattern
  | [] => chars .empty
  | [p] => p
  | p :: ps => choice p (ofAlternatives ps)

/-- The only character of a literal. -/
def letter? : Pattern → Option Nat
  | literal [c] => some c.toNat
  | _ => none

/-- The set of a pattern that is a set. -/
def set? : Pattern → Option CharSet
  | chars s => some s
  | _ => none

/-- All alternatives as one set, if all are single characters or all are sets. -/
def commonSet? (ps : List Pattern) : Option CharSet :=
  match ps.mapM letter? with
  | some ns => some (.ofPoints ns)
  | none => (ps.mapM set?).map .unionAll

/-- The choice between alternatives that have no beginning in common. -/
def anyOfDistinct (ps : List Pattern) : Pattern :=
  let ps := ps.flatMap alternatives
  match commonSet? ps with
  | some s => ofSet s
  | none => ofAlternatives ps

/-- The parts with which two lists of parts begin alike. -/
def commonStart : List Pattern → List Pattern → List Pattern
  | p :: ps, q :: qs => if p = q then p :: commonStart ps qs else []
  | _, _ => []

/-- Is the pattern a sequence? -/
def isSequence : Pattern → Bool
  | sequence _ _ => true
  | _ => false

/-- The parts with which all alternatives begin, if all are sequences. -/
def commonSteps (ps : List Pattern) : List Pattern :=
  match ps with
  | p :: rest =>
    if ps.all isSequence then rest.foldl (fun c q => commonStart c q.steps) p.steps else []
  | [] => []

/-- The choice between some patterns.  Single characters and sets become one set, and a common
beginning is set before the choice between what follows it. -/
def anyOf (ps : List Pattern) : Pattern :=
  let ps := ps.flatMap alternatives
  match ps with
  | [p] => p
  | ps =>
    match commonSet? ps with
    | some s => ofSet s
    | none =>
      match commonSteps ps with
      | [] => ofAlternatives ps
      | start =>
        concat (start ++ [anyOfDistinct (ps.map fun p => ofSteps (p.steps.drop start.length))])

end Pattern

end Vigil
