import Vigil.Text.Utf8

/-!
# Executions of programs

What a program does, as far as its caller can tell: at certain times it writes or signals its
parent, and it ends with an exit code or by a signal.  It lasts until nobody can write any more.
-/

namespace Vigil.Program

/-- One thing that a program does. -/
inductive Effect where
  | output (bytes : List UInt8)
  | errorOutput (bytes : List UInt8)
  | signalParent (signal : Nat)
deriving DecidableEq, Repr

/-- How a program ended. -/
inductive Ending where
  | exited (code : Nat)
  | killed (signal : Nat)
deriving DecidableEq, Repr

/-- Everything a program did, each with the nanoseconds since its start, how long it took and how
it ended. -/
structure Execution where
  events : List (Nat × Effect)
  duration : Nat := 0
  ending : Ending
deriving DecidableEq, Repr

/-- The exit code, if there is one. -/
def Ending.code? : Ending → Option Nat
  | exited n => some n
  | killed _ => none

/-- The status by which a script knows an ending. -/
def Ending.status : Ending → Nat
  | exited n => n
  | killed n => 128 + n

namespace Execution

/-- A program that does everything at once and exits. -/
def atOnce (effects : List Effect) (code : Nat) : Execution :=
  ⟨effects.map fun e => (0, e), 0, .exited code⟩

/-- All bytes written to the output. -/
def outputBytes (x : Execution) : List UInt8 :=
  x.events.flatMap fun
    | (_, .output b) => b
    | _ => []

/-- All bytes written to the error output. -/
def errorBytes (x : Execution) : List UInt8 :=
  x.events.flatMap fun
    | (_, .errorOutput b) => b
    | _ => []

/-- The signals sent to the parent, each with its time since the start. -/
def signals (x : Execution) : List (Nat × Nat) :=
  x.events.filterMap fun
    | (t, .signalParent s) => some (t, s)
    | _ => none

end Execution

end Vigil.Program
