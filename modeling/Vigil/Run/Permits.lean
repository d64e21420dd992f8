/-!
# Permits

A pool of permits bounds how many agents work at the same time.  There is always at least one
permit.
-/

namespace Vigil

/-- Whether agents may work at the same time. -/
inductive DispatchMode where
  | parallel | sequential
deriving DecidableEq, Repr, Inhabited

namespace DispatchMode

/-- Both modes with their names. -/
def table : List (String × DispatchMode) :=
  [("parallel", parallel), ("sequential", sequential)]

/-- The name of a mode. -/
def name : DispatchMode → String
  | parallel => "parallel"
  | sequential => "sequential"

/-- The number of permits for so many selected agents. -/
def capacity (mode : DispatchMode) (selected maxConcurrency : Nat) : Nat :=
  match mode with
  | sequential => 1
  | parallel => max 1 (min selected maxConcurrency)

theorem one_le_capacity (mode : DispatchMode) (selected maxConcurrency : Nat) :
    1 ≤ mode.capacity selected maxConcurrency := by
  cases mode <;> simp only [capacity] <;> omega

end DispatchMode

/-- A pool of permits: which are held, and how many have been granted so far.  Permits are numbered
in the order in which they are granted. -/
structure Permits where
  capacity : Nat
  held : List Nat := []
  granted : Nat := 0
  cancelled : Bool := false
deriving DecidableEq, Repr

/-- What a request for a permit comes to. -/
inductive Permits.Answer where
  | granted (permit : Nat)
  | waits
  | cancelled
deriving DecidableEq, Repr

namespace Permits

/-- A pool of at least one permit. -/
def ofCapacity (n : Nat) : Permits where
  capacity := max 1 n

/-- The pool of four permits. -/
def standard : Permits := ofCapacity 4

/-- Ask for a permit, without waiting. -/
def acquire (p : Permits) : Answer × Permits :=
  if p.cancelled then (.cancelled, p)
  else if p.held.length < p.capacity then
    (.granted p.granted, { p with held := p.held ++ [p.granted], granted := p.granted + 1 })
  else (.waits, p)

/-- Give a permit back. -/
def release (p : Permits) (permit : Nat) : Permits :=
  { p with held := p.held.filter (· != permit) }

/-- Refuse all further requests. -/
def cancel (p : Permits) : Permits :=
  { p with cancelled := true }

theorem held_acquire_le {p : Permits} (h : p.held.length ≤ p.capacity) :
    p.acquire.2.held.length ≤ p.acquire.2.capacity := by
  unfold acquire
  split
  · exact h
  · split
    · simpa using by assumption
    · exact h

end Permits

end Vigil
