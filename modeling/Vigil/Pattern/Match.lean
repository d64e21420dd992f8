import Vigil.Pattern.Basic

/-!
# Finding a match

`Pattern.advance` follows a pattern from a set of positions of a text to all positions where a
match may end.  A repetition collects what is reached in any number of rounds, each round going on
from the positions that are new.
-/

namespace Vigil.Pattern

/-- Join two ascending lists of positions. -/
def merge : List Nat → List Nat → List Nat
  | [], t => t
  | i :: s, t =>
    t.takeWhile (· < i) ++ i :: merge s (t.dropWhile (· ≤ i))

/-- The members of an ascending list that are not in another one. -/
def without : List Nat → List Nat → List Nat
  | [], _ => []
  | i :: s, t =>
    let t := t.dropWhile (· < i)
    if t.head? == some i then without s t else i :: without s t

/-- Everything reached in at most a number of rounds; `seen` has been reached, `front` in the last
round. -/
def closure (step : List Nat → List Nat) : Nat → List Nat → List Nat → List Nat
  | 0, seen, _ => seen
  | n + 1, seen, front =>
    let fresh := without (step front) seen
    if fresh.isEmpty then seen else closure step n (merge seen fresh) fresh

/-- Take a number of rounds.  A round that leads back to where it began ends them all. -/
def rounds (step : List Nat → List Nat) : Nat → List Nat → List Nat
  | 0, s => s
  | n + 1, s =>
    let t := step s
    if t = s then s else rounds step n t

/-- The positions at which matches that begin in an ascending list of positions end. -/
def advance (text : Subject) : Pattern → List Nat → List Nat
  | .empty, s => s
  | .literal w, s => (s.filter (literalAt text w)).map (· + w.length)
  | .chars c, s => (s.filter (charAt text c)).map (· + 1)
  | .look l, s => s.filter (lookAt text l)
  | .group _ p, s => advance text p s
  | .sequence p q, s =>
    let t := advance text p s
    if t.isEmpty then [] else advance text q t
  | .choice p q, s => merge (advance text p s) (advance text q s)
  | .repetition p least most _, s =>
    let t := rounds (advance text p) least s
    let more :=
      match most with
      | none => text.size + 1
      | some m => m - least
    closure (advance text p) more t t

/-- Does the pattern match somewhere in a text? -/
def isMatch (p : Pattern) (text : String) : Bool :=
  let subject := text.toList.toArray
  !(advance subject p (List.range (subject.size + 1))).isEmpty

end Vigil.Pattern
