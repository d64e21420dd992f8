import Vigil.Program.Shell.Options
import Vigil.Program.Signal

/-!
# Commands for processes

The commands of a shell that send signals, expect them, and wait for commands in the background.  A
signal for a shell is on its way until that shell looks for it; one for a command in the background
ends it at once, with all that it would have done later.
-/

namespace Vigil.Program.Shell

/-! ## Sending signals -/

/-- End a command in the background now. -/
def World.stop (w : World) (j : Job) (signal : Nat) : World :=
  let late (time process : Nat) : Bool := w.clock < time && j.process ≤ process && process ≤ j.last
  { w with
    events := w.events.filter fun (time, process, _) => !late time process
    buffers := w.buffers.map fun (n, chunks) =>
      (n, chunks.filter fun (time, process, _) => !late time process)
    signals := w.signals.filter fun (time, _, _) => time ≤ w.clock
    jobs := w.jobs.map fun k =>
      if k.process == j.process then
        { k with ends := w.clock, status := 128 + signal, signal := some signal }
      else k }

/-- Send a signal to a process; tells whether it is there. -/
def sendSignal (target signal : Nat) : Session Bool := do
  let w := (← get).world
  if target == callerNumber then
    if signal != 0 then emit (.signalParent signal)
    return true
  else if w.shells.contains target then
    if signal != 0 then
      changeWorld fun w => { w with signals := w.signals ++ [(w.clock, target, signal)] }
    return true
  else
    match w.jobs.find? fun j => j.process == target && !j.noticed with
    | none => return false
    | some j =>
      if w.clock < j.ends then
        match Signal.effect signal with
        | .ends => changeWorld fun w => w.stop j signal
        | _ => pure ()
      return true

/-- How the command `kill` is used. -/
def killUsage {α : Type} : Session α :=
  fail ("Usage: kill [-s sigspec | -signum | -sigspec] [pid | job]... or\n" ++
    "kill -l [exitstatus]").toList

/-- The commands in the background of a shell, the latest first. -/
def State.ownJobs (s : State) : List Job :=
  s.world.jobs.filter fun j => j.owner == s.process

/-- The command in the background that is meant by a sign. -/
def jobOf (a : Bytes) : Session Job := do
  let jobs := (← get).ownJobs
  let found :=
    match a with
    | ['%'] | ['%', '%'] | ['%', '+'] => jobs.head?
    | ['%', '-'] => jobs[1]?
    | _ :: digits =>
      if digits.all Char.isDigit then
        jobs.find? fun j => j.number == Nat.ofDigitChars 10 digits 0
      else none
    | [] => none
  match found with
  | some j => return j
  | none => fail ("No such job: ".toList ++ a)

/-- Send a signal to what an argument means. -/
def sendTo (signal : Nat) (a : Bytes) : Session Bool := do
  match a with
  | '%' :: _ =>
    let _ ← jobOf a
    return false
  | '-' :: rest =>
    let _ ← numberOf rest
    return false
  | _ => sendSignal (← numberOf a) signal

/-- Show the names of all signals, or of the one that a number means. -/
def listSignals (args : List Bytes) : Session Nat := do
  match args with
  | [] =>
    print ("0\n".toList ++ Signal.names.tail.flatMap fun n => n.toList ++ ['\n'])
    return 0
  | a :: _ =>
    let n ← numberOf a
    let n := if 128 < n then n - 128 else n
    if 0 < n && n < Signal.names.length then
      print ((Signal.name n).toList ++ ['\n'])
      return 0
    else fail ("invalid signal number or exit status: ".toList ++ a)

/-- The signal that the arguments of `kill` name, or that signals are to be listed, and the other
arguments. -/
def killSignal (args : List Bytes) : Session (Option Nat × List Bytes) := do
  match args with
  | ('-' :: name) :: rest =>
    match Signal.number? name with
    | some n => if n == 0 && name.head? != some '0' then options else return (some n, rest)
    | none => options
  | _ => return (some 15, args)
where
  options : Session (Option Nat × List Bytes) := do
    let (options, rest) ← optionsOf "ls:" args
    let mut signal := some 15
    for (c, a) in options do
      if c == 'l' then signal := none
      else
        match Signal.number? a with
        | some n => signal := some n
        | none => fail ("invalid signal number or name: ".toList ++ a)
    return (signal, rest)

/-- The command `kill`. -/
def killCommand (args : List Bytes) : Session Nat := do
  if args.isEmpty then killUsage
  let (signal, targets) ← killSignal args
  match signal with
  | none => listSignals targets
  | some signal =>
    if targets.isEmpty then killUsage
    let mut status := 0
    for a in targets do
      if !(← sendTo signal a) then
        complain "No such process\n".toList
        status := 1
    return status

/-! ## Expecting signals -/

/-- Show what is done at signals. -/
def showTraps : Session Nat := do
  let traps := (← get).traps
  for n in List.range Signal.names.length do
    match find? n traps with
    | some action =>
      print ("trap -- ".toList ++ inQuotes action ++ [' '] ++ (Signal.name n).toList ++ ['\n'])
    | none => pure ()
  return 0

/-- Set what is done at signals. -/
def setTraps (action : Option Bytes) : List Bytes → Session Nat
  | [] => pure 0
  | a :: rest => do
    match Signal.number? a with
    | none =>
      let _ ← write 2 ("trap: ".toList ++ a ++ ": bad trap\n".toList)
      return 1
    | some n =>
      modify fun s =>
        { s with traps :=
            match action with
            | some act => put n act s.traps
            | none => s.traps.filter (·.1 != n) }
      setTraps action rest

/-- The command `trap`. -/
def trapCommand (args : List Bytes) : Session Nat := do
  let args ← withoutOptions args
  match args with
  | [] => showTraps
  | [_] => setTraps none args
  | a :: rest =>
    if a.head?.any Char.isDigit && (Signal.number? a).isSome then setTraps none args
    else setTraps (if a = ['-'] then none else some a) rest

/-! ## Waiting -/

/-- A signal that is expected and comes before some time. -/
def expectedSignal? (until_ : Nat) : Session (Option (Nat × Nat)) := do
  let s ← get
  return (s.world.signals.find? fun (time, target, signal) =>
    target == s.process && time < until_ &&
      ((find? signal s.traps).isSome || Signal.effect signal == .ends)).map fun (t, _, n) => (t, n)

/-- Wait until some time or until a signal comes, of which the number is returned. -/
def waitFor (time : Nat) : Session (Option Nat) := do
  match ← expectedSignal? time with
  | some (t, signal) =>
    waitUntil t
    return some signal
  | none =>
    waitUntil time
    return none

/-- Take notice of the commands in the background that have ended. -/
def noticeJobs : Session Unit := do
  let process := (← get).process
  changeWorld fun w =>
    { w with jobs := w.jobs.map fun j =>
        if j.owner == process && j.ends ≤ w.clock then { j with noticed := true } else j }

/-- Keep in mind that the commands in the background for which something holds have been waited for. -/
def markWaited (p : Job → Bool) : Session Unit := do
  let process := (← get).process
  changeWorld fun w =>
    { w with jobs := w.jobs.map fun j =>
        if j.owner == process && p j then { j with waited := true } else j }

/-- Wait for one command in the background. -/
def waitForJob (j : Job) : Session Nat := do
  match ← waitFor j.ends with
  | some signal => return 128 + signal
  | none =>
    match j.signal with
    | some n =>
      if !j.noticed && Signal.isReported n then
        let _ ← write 2 ((Signal.report n).toList ++ ['\n'])
    | none => pure ()
    noticeJobs
    markWaited (·.process == j.process)
    return j.status

/-- Wait for the commands in the background that arguments mean; the last one gives the status. -/
def waitForEach : Nat → List Bytes → Session Nat
  | status, [] => pure status
  | _, a :: rest => do
    let job ←
      match a with
      | '%' :: _ => do pure (some (← jobOf a))
      | _ => do
        let n ← numberOf a
        pure ((← get).ownJobs.find? (·.process == n))
    let status ←
      match job with
      | some j => waitForJob j
      | none => pure 127
    waitForEach status rest

/-- The command `wait`. -/
def waitCommand (args : List Bytes) : Session Nat := do
  match ← withoutOptions args with
  | [] =>
    match ← waitFor ((← get).ownJobs.foldl (fun t j => max t j.ends) 0) with
    | some signal => return 128 + signal
    | none =>
      noticeJobs
      markWaited fun _ => true
      return 0
  | args => waitForEach 0 args

/-- How it stands with a command in the background. -/
def Job.condition (j : Job) (clock : Nat) : String :=
  if clock < j.ends then "Running"
  else
    match j.signal with
    | some n => Signal.report n
    | none => if j.status == 0 then "Done" else s!"Done({j.status})"

/-- The command `jobs`. -/
def jobsCommand (args : List Bytes) : Session Nat := do
  let _ ← optionsOf "lp" args
  let s ← get
  let jobs := s.ownJobs
  let mut k := 0
  for j in jobs do
    let sign := if k == 0 then '+' else if k == 1 then '-' else ' '
    let text := ['['] ++ decimal j.number ++ [']', ' ', sign, ' '] ++
      (j.condition s.world.clock).toList
    print (text ++ List.replicate (33 - text.length) ' ' ++ ['\n'])
    if s.world.clock < j.ends then k := k + 1
  let clock := s.world.clock
  changeWorld fun w =>
    { w with jobs := w.jobs.filter fun j => j.owner != s.process || clock < j.ends }
  return 0

end Vigil.Program.Shell
