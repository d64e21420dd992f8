import Vigil.Program.Execution
import Vigil.Program.FileSystem
import Vigil.Program.Shell.Syntax

/-!
# The state of a running script

A script runs in a world that it shares with the commands it starts: a clock, the effects so far,
streams that lead from one command to another, and files.  The rest of its state is its own, so that
a part of the script that runs by itself changes nothing of it.
-/

namespace Vigil.Program.Shell

/-! ## The world -/

/-- Where a stream leads. -/
inductive Channel where
  | output | errorOutput | nothing
  /-- To a place where what is written is collected. -/
  | buffer (number : Nat)
  /-- From a place where there is something to read. -/
  | source (number : Nat)
  | file (place : List String)
  /-- To a directory, from which nothing can be read. -/
  | directory
deriving DecidableEq, Repr

/-- What can still be read from a place: bytes with the times since when they are there, and the time
when it is known that no more will come. -/
structure Supply where
  chunks : List (Nat × Bytes) := []
  ends : Nat := 0
  /-- Can what has been read be given back, as with a file? -/
  rewinds : Bool := false

/-- A command in the background. -/
structure Job where
  /-- The shell that has started it, and the number by which that shell knows it. -/
  owner : Nat
  number : Nat
  process : Nat
  /-- The last of the processes that it has started. -/
  last : Nat
  ends : Nat
  status : Nat
  /-- The signal that has ended it. -/
  signal : Option Nat := none
  /-- Where its streams lead. -/
  channels : List Channel
  /-- Does the shell know that it has ended? -/
  noticed : Bool := false
  /-- Has the shell waited for it? -/
  waited : Bool := false

/-- What a script shares with the commands that it starts.  Effects and collected bytes are kept
newest first, with their time and the number of the process. -/
structure World where
  files : FileSystem
  clock : Nat := 0
  events : List (Nat × Nat × Effect) := []
  buffers : List (Nat × List (Nat × Nat × Bytes)) := []
  supplies : List (Nat × Supply) := [(0, {})]
  written : List (List String × Bytes) := []
  jobs : List Job := []
  /-- Signals on their way, with their time and the process that they are meant for. -/
  signals : List (Nat × Nat × Nat) := []
  places : Nat := 1
  processes : Nat := 1001
  /-- The shells that are running. -/
  shells : List Nat := [1001]
  /-- How many more commands can be run until it is clear that there is no end. -/
  steps : Nat

/-! ## The state -/

/-- A variable. -/
structure Variable where
  value : Option Bytes
  exported : Bool := false
  constant : Bool := false
deriving DecidableEq, Repr

/-- The state of a script. -/
structure State where
  world : World
  name : Bytes
  arguments : List Bytes
  /-- The number of the process that runs the script, and that of the process that has started it;
  a part of a script has the numbers of the whole script for itself and its parent. -/
  process : Nat
  starter : Nat
  self : Nat
  parent : Nat
  bindings : List (Bytes × Variable) := []
  functions : List (Bytes × Command) := []
  aliases : List (Bytes × Bytes) := []
  /-- The programs that have been found, with their paths. -/
  found : List (Bytes × Bytes) := []
  /-- The letters of the options that are set. -/
  options : List Char := []
  status : Nat := 0
  streams : List (Nat × Channel)
  /-- What is done at a signal; zero stands for the end of the script. -/
  traps : List (Nat × Bytes) := []
  /-- For each function that is running, the variables to be restored at its end. -/
  locals : List (List (Bytes × Option Variable)) := []
  loops : Nat := 0
  line : Nat := 1
  /-- The command that is at work and belongs to the shell, for complaints. -/
  command : Option Bytes := none
  documents : List (Nat × Word) := []
  /-- The status of the last script whose output took part in the command. -/
  outputStatus : Option Nat := none
  lastJob : Option Nat := none
  place : List String
  /-- The next argument to be looked at for options, and where the letters that are left begin in
  the one before. -/
  optionIndex : Nat := 1
  optionOffset : Option Nat := none
  /-- The permissions that new files do not get. -/
  mask : Nat := 18
  /-- Could something not be written? -/
  unwritten : Bool := false
  /-- Has something been read that has no end? -/
  unending : Bool := false

/-- Why a part of a script comes to an end before its last command. -/
inductive Departure where
  | leaves (loops : Nat)
  | again (loops : Nat)
  | returns
  | ended
  /-- After a mistake that has been complained about. -/
  | mistake
  | killed (signal : Nat)
  /-- There is no end. -/
  | endless
deriving DecidableEq, Repr

/-- What a shell does, step by step. -/
abbrev Session := ExceptT Departure (StateM State)

/-- The number by which the caller of a program is known. -/
def callerNumber : Nat := 1000

/-- The time that stands for no end. -/
def forever : Nat := 1000000000000000000000

/-! ## Access -/

/-- The value under a key of a list of pairs. -/
def find? {α β : Type} [BEq α] (key : α) (l : List (α × β)) : Option β :=
  (l.find? (·.1 == key)).map (·.2)

/-- A list of pairs with the value under a key replaced, or a pair added. -/
def put {α β : Type} [BEq α] (key : α) (value : β) (l : List (α × β)) : List (α × β) :=
  (key, value) :: l.filter (·.1 != key)

/-- Change the world. -/
def changeWorld (f : World → World) : Session Unit :=
  modify fun s => { s with world := f s.world }

/-- Set the status. -/
def setStatus (n : Nat) : Session Unit :=
  modify fun s => { s with status := n }

/-- Is the option with this letter set? -/
def hasOption (c : Char) : Session Bool := do
  return (← get).options.contains c

/-- A number in decimal digits. -/
def decimal (n : Nat) : Bytes := Nat.toDigits 10 n

/-! ## Writing -/

/-- Do something that can be told from outside. -/
def emit (e : Effect) : Session Unit := do
  let process := (← get).process
  changeWorld fun w => { w with events := (w.clock, process, e) :: w.events }

/-- Write to a channel; tells whether that is possible. -/
def writeTo (c : Channel) (b : Bytes) : Session Bool := do
  let process := (← get).process
  if b.isEmpty then return true
  match c with
  | .output => do
    emit (.output b.octets)
    return true
  | .errorOutput => do
    emit (.errorOutput b.octets)
    return true
  | .nothing => return true
  | .buffer n => do
    changeWorld fun w =>
      { w with buffers := put n ((w.clock, process, b) :: (find? n w.buffers).getD []) w.buffers }
    return true
  | .file place => do
    changeWorld fun w => { w with written := put place ((find? place w.written).getD [] ++ b) w.written }
    return true
  | .source _ | .directory => return false

/-- Write to a stream; tells whether that is possible. -/
def write (stream : Nat) (b : Bytes) : Session Bool := do
  match find? stream (← get).streams with
  | some c => writeTo c b
  | none => return b.isEmpty

/-- Write to the output; it is remembered if that is not possible. -/
def print (b : Bytes) : Session Unit := do
  let done ← write 1 b
  if !done then modify fun s => { s with unwritten := true }

/-- Complain, with the name of the script, the line and the command at work. -/
def complain (text : Bytes) : Session Unit := do
  let s ← get
  let command : Bytes :=
    match s.command with
    | some c => c ++ [':', ' ']
    | none => []
  let _ ← write 2 (s.name ++ [':', ' '] ++ decimal s.line ++ [':', ' '] ++ command ++ text ++ ['\n'])

/-- Complain and give up. -/
def fail {α : Type} (text : Bytes) : Session α := do
  complain text
  setStatus 2
  throw .mistake

/-- Complain about a number. -/
def illegalNumber {α : Type} (text : Bytes) : Session α :=
  fail ("Illegal number: ".toList ++ text)

/-! ## Reading -/

/-- A place from which something can be read. -/
def newSupply (s : Supply) : Session Channel := do
  let n := (← get).world.places
  changeWorld fun w => { w with places := n + 1, supplies := (n, s) :: w.supplies }
  return .source n

/-- Wait until some time. -/
def waitUntil (t : Nat) : Session Unit :=
  changeWorld fun w => { w with clock := max w.clock t }

/-- Take bytes from pieces up to and with a line end, or all of them: the bytes, the time of the last
piece if they end there, and what is left. -/
def takeBytes (toLineEnd : Bool) : List (Nat × Bytes) → Bytes × Option Nat × List (Nat × Bytes)
  | [] => ([], none, [])
  | (t, b) :: rest =>
    let line := b.takeWhile (· != '\n')
    if toLineEnd && line.length < b.length then
      (line ++ ['\n'], some t, (t, b.drop (line.length + 1)) :: rest)
    else
      let (more, time, left) := takeBytes toLineEnd rest
      (b ++ more, time, left)

/-- Take bytes from a supply up to and with a line end, or all of them.  The time when they are there
is returned too. -/
def Supply.take (toLineEnd : Bool) (s : Supply) : Bytes × Nat × Supply :=
  let (b, time, chunks) := takeBytes toLineEnd s.chunks
  (b, time.getD s.ends, { s with chunks })

/-- What can be read from a stream, with its number. -/
def State.supply? (s : State) (stream : Nat) : Option (Nat × Supply) :=
  match find? stream s.streams with
  | some (.source n) => some (n, (find? n s.world.supplies).getD {})
  | _ => none

/-- Read bytes from a stream up to and with a line end, and wait for them. -/
def readLineFrom (stream : Nat) : Session Bytes := do
  match (← get).supply? stream with
  | some (n, supply) =>
    let (b, time, left) := supply.take true
    changeWorld fun w => { w with supplies := put n left w.supplies }
    if forever ≤ time then throw .endless
    waitUntil time
    return b
  | none => return []

/-- Read all bytes from a stream and wait for them.  Where they have no end, those at the beginning
are returned, and that is remembered. -/
def readAllFrom (stream : Nat) : Session Bytes := do
  match (← get).supply? stream with
  | some (n, supply) =>
    let (b, time, left) := supply.take false
    changeWorld fun w => { w with supplies := put n left w.supplies }
    if forever ≤ time then modify fun s => { s with unending := true } else waitUntil time
    return b
  | none => return []

/-- Give back bytes that have been read from a stream, if it is one of a file. -/
def giveBackTo (stream : Nat) (b : Bytes) : Session Unit := do
  match (← get).supply? stream with
  | some (n, supply) =>
    if supply.rewinds then
      changeWorld fun w =>
        { w with supplies := put n { supply with chunks := (w.clock, b) :: supply.chunks } w.supplies }
  | none => pure ()

/-- What has been collected in a buffer, in the order of time. -/
def World.collected (w : World) (n : Nat) : List (Nat × Bytes) :=
  (((find? n w.buffers).getD []).reverse.mergeSort fun a b => a.1 ≤ b.1).map fun c => (c.1, c.2.2)

/-- The time when the last command in the background lets go of a channel. -/
def World.released (w : World) (held : Channel → Bool) : Nat :=
  w.jobs.foldl (fun t j => if j.channels.any held then max t j.ends else t) 0

/-! ## Variables -/

/-- The value of a variable. -/
def valueOf? (name : Bytes) : Session (Option Bytes) := do
  let s ← get
  return (find? name s.bindings).bind (·.value)

/-- Change a variable, which may be a new one. -/
def changeVariable (name : Bytes) (f : Variable → Variable) : Session Unit :=
  modify fun s =>
    { s with bindings := put name (f ((find? name s.bindings).getD ⟨none, false, false⟩)) s.bindings }

/-- Set a variable. -/
def setVariable (name value : Bytes) : Session Unit := do
  let s ← get
  if (find? name s.bindings).any (·.constant) then fail (name ++ ": is read only".toList)
  else
    let exports := s.options.contains 'a'
    changeVariable name fun v => { v with value := some value, exported := v.exported || exports }
    if name = "OPTIND".toList then
      let index := if value.all Char.isDigit then Nat.ofDigitChars 10 value 0 else 1
      modify fun s => { s with optionIndex := max 1 index, optionOffset := none }
    if name = "PATH".toList then modify fun s => { s with found := [] }

/-- The characters that separate fields. -/
def separators : Session (Option Bytes) :=
  valueOf? "IFS".toList

/-- The variables that a program inherits. -/
def State.exported (s : State) : List (Bytes × Bytes) :=
  s.bindings.filterMap fun (n, v) => if v.exported then v.value.map fun b => (n, b) else none

/-! ## Files -/

/-- The files of devices that a script may use. -/
def devices : List String :=
  ["/dev/null", "/dev/zero", "/dev/tty", "/dev/stdin", "/dev/stdout", "/dev/stderr", "/dev/full",
    "/dev/random", "/dev/urandom"]

/-- The path from the root that a path stands for. -/
def State.absolute (s : State) (path : Bytes) : List Char :=
  match path with
  | '/' :: _ => path
  | _ => s.place.flatMap (fun n => '/' :: n.toList) ++ '/' :: path

/-- What a path leads to, with its place; files that have been written count too. -/
def State.lookup (s : State) (path : Bytes) : Option (List String × Node) :=
  match s.world.files.lookup (s.absolute path) with
  | .ok r => if path.isEmpty then none else some r
  | .error _ => none

/-- The place of a file that may be written, in a directory that is there. -/
def State.placeFor? (s : State) (path : Bytes) : Option (List String) :=
  match s.lookup path with
  | some (place, .file _ _) => some place
  | some (_, .directory) => none
  | none =>
    let parts := Path.splitSlash (s.absolute path)
    let parent := Bytes.joined ['/'] parts.dropLast
    match s.world.files.lookup (if parent.isEmpty then ['/'] else parent), parts.getLast? with
    | .ok (place, .directory), some last =>
      if last.isEmpty then none else some (place ++ [(Bytes.text last)])
    | _, _ => none

/-- Make sure that there is a file, which may be made empty. -/
def createFile (place : List String) (emptied : Bool) : Session Unit := do
  let s ← get
  if (s.world.files.node? place).isNone then
    changeWorld fun w =>
      { w with
        files := { w.files with nodes := (place, .file false "") :: w.files.nodes }
        written := put place [] w.written }
  else if emptied then changeWorld fun w => { w with written := put place [] w.written }
  else
    match s.world.files.node? place, find? place s.world.written with
    | some (.file _ text), none =>
      changeWorld fun w => { w with written := put place (Bytes.ofText text.toList) w.written }
    | _, _ => pure ()

/-- The contents of a file. -/
def State.contents (s : State) (place : List String) (text : String) : Bytes :=
  (find? place s.world.written).getD (Bytes.ofText text.toList)

/-!
## Places of files

A world has files and directories at places, which are lists of names.  Here is how they are put
there, copied, removed and listed.
-/

/-- Put something at a place. -/
def World.add (w : World) (place : List String) (n : Node) : World :=
  { w with files := { w.files with nodes := (place, n) :: w.files.nodes.filter (·.1 != place) } }

/-- Remove a place with all that is in it. -/
def World.remove (w : World) (place : List String) : World :=
  { w with
    files := { w.files with nodes := w.files.nodes.filter fun n => !place.isPrefixOf n.1 }
    written := w.written.filter fun f => !place.isPrefixOf f.1 }

/-- Copy a place with all that is in it. -/
def World.copy (w : World) (source target : List String) : World :=
  let moved (p : List String) : List String := target ++ p.drop source.length
  let nodes := w.files.nodes.filter fun n => source.isPrefixOf n.1
  let written := w.written.filter fun f => source.isPrefixOf f.1
  { w with
    files := { w.files with
      nodes := nodes.map (fun n => (moved n.1, n.2)) ++
        w.files.nodes.filter fun n => !nodes.any fun m => moved m.1 == n.1 }
    written := written.map (fun f => (moved f.1, f.2)) ++
      w.written.filter fun f => !written.any fun g => moved g.1 == f.1 }

/-- The names in a directory, in their order. -/
def State.namesIn (s : State) (place : List String) : List Bytes :=
  let names := s.world.files.nodes.filterMap fun n =>
    if !n.1.isEmpty && n.1.dropLast == place then n.1.getLast? else none
  (names.eraseDups.map fun n => Bytes.ofText n.toList).mergeSort fun a b => !decide (b < a)

/-- The place where something new of this path would be, if its directory is there. -/
def State.newPlace? (s : State) (path : Bytes) : Option (List String) :=
  let parts := Path.splitSlash (s.absolute path)
  let parts := (parts.reverse.dropWhile List.isEmpty).reverse
  let parent := Bytes.joined ['/'] parts.dropLast
  match s.world.files.lookup (if parent.isEmpty then ['/'] else parent), parts.getLast? with
  | .ok (place, .directory), some last => some (place ++ [Bytes.text last])
  | _, _ => none

end Vigil.Program.Shell
