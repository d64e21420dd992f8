import Vigil.Program.Bytes

/-!
# Signals

The signals that programs send to each other, by their numbers and names, and what becomes of a
program that does not expect one.
-/

namespace Vigil.Program

/-- What a signal does to a program that does not expect it. -/
inductive SignalEffect where
  | ends | none | stops
deriving DecidableEq, Repr

namespace Signal

/-- The names of the signals, each at its number; the first one stands for the end of a script. -/
def names : List String :=
  ["EXIT", "HUP", "INT", "QUIT", "ILL", "TRAP", "ABRT", "BUS", "FPE", "KILL", "USR1", "SEGV", "USR2",
    "PIPE", "ALRM", "TERM", "16", "CHLD", "CONT", "STOP", "TSTP", "TTIN", "TTOU", "URG", "XCPU",
    "XFSZ", "VTALRM", "PROF", "WINCH", "IO", "PWR", "SYS", "32", "33", "RTMIN", "RTMIN+1", "RTMIN+2",
    "RTMIN+3", "RTMIN+4", "RTMIN+5", "RTMIN+6", "RTMIN+7", "RTMIN+8", "RTMIN+9", "RTMIN+10",
    "RTMIN+11", "RTMIN+12", "RTMIN+13", "RTMIN+14", "RTMIN+15", "RTMAX-14", "RTMAX-13", "RTMAX-12",
    "RTMAX-11", "RTMAX-10", "RTMAX-9", "RTMAX-8", "RTMAX-7", "RTMAX-6", "RTMAX-5", "RTMAX-4",
    "RTMAX-3", "RTMAX-2", "RTMAX-1", "RTMAX"]

/-- The number of a signal that is given by its number or its name, in capital letters or not. -/
def number? (text : Bytes) : Option Nat :=
  if !text.isEmpty && text.all Char.isDigit then
    let n := Nat.ofDigitChars 10 text 0
    if n < names.length then some n else none
  else names.findIdx? fun name => name.toList == text.map Char.toUpper

/-- The name of a signal. -/
def name (n : Nat) : String :=
  names.getD n ""

/-- How the end of a program by a signal is reported. -/
def report (n : Nat) : String :=
  let reports : List (Nat × String) :=
    [(1, "Hangup"), (3, "Quit"), (4, "Illegal instruction"), (5, "Trace/breakpoint trap"),
      (6, "Aborted"), (7, "Bus error"), (8, "Floating point exception"), (9, "Killed"),
      (10, "User defined signal 1"), (11, "Segmentation fault"), (12, "User defined signal 2"),
      (14, "Alarm clock"), (15, "Terminated"), (16, "Stack fault"), (24, "CPU time limit exceeded"),
      (25, "File size limit exceeded"), (26, "Virtual timer expired"),
      (27, "Profiling timer expired"), (29, "I/O possible"), (30, "Power failure"),
      (31, "Bad system call")]
  match reports.find? (·.1 == n) with
  | some (_, text) => text
  | none => if 34 ≤ n then s!"Real-time signal {n - 34}" else s!"Unknown signal {n}"

/-- Is the end of a program by the signal reported at all? -/
def isReported (n : Nat) : Bool :=
  n != 2 && n != 13

/-- What a signal does to a program that does not expect it. -/
def effect (n : Nat) : SignalEffect :=
  if n == 0 || n == 17 || n == 18 || n == 23 || n == 28 then .none
  else if 19 ≤ n && n ≤ 22 then .stops
  else .ends

/-- Can a program expect the signal? -/
def canBeExpected (n : Nat) : Bool :=
  n != 9 && n != 19

end Signal

end Vigil.Program
