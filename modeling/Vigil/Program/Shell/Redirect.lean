import Vigil.Program.Shell.Expand

/-!
# Redirections

A redirection is prepared, which replaces the pieces of its word, and then carried out, which changes
where a stream leads or complains.
-/

namespace Vigil.Program.Shell

/-- A redirection whose word has been replaced. -/
inductive Opening where
  | file (stream : Nat) (mode : OpenMode) (path : Bytes)
  | duplicate (stream : Nat) (target : Bytes)
  | document (stream : Nat) (text : Bytes)

/-- Replace the pieces of the word of a redirection. -/
def Redirection.prepare (capture : Command → Session Bytes) : Redirection → Session Opening
  | file stream mode name => do return .file stream mode (← expandText capture name)
  | duplicate stream target => do return .duplicate stream (← expandText capture target)
  | document stream number => do
    let w := (find? number (← get).documents).getD []
    return .document stream (← expandDocument capture w)

/-- Let a stream lead somewhere, or close it. -/
def setStream (stream : Nat) (c : Option Channel) : Session Unit :=
  modify fun s =>
    { s with streams :=
        match c with
        | some c => put stream c s.streams
        | none => s.streams.filter (·.1 != stream) }

/-- A place from which a text can be read at once; that of a file can be given back. -/
def textSupply (b : Bytes) (rewinds : Bool) : Session Channel := do
  let clock := (← get).world.clock
  newSupply { chunks := [(clock, b)], ends := clock, rewinds }

/-- Where a path of a device leads. -/
def deviceChannel? (s : State) (path : Bytes) : Option (Option Channel) :=
  match String.ofList path with
  | "/dev/null" | "/dev/zero" | "/dev/full" => some (some .nothing)
  | "/dev/stdin" | "/dev/fd/0" => some (find? 0 s.streams)
  | "/dev/stdout" | "/dev/fd/1" => some (find? 1 s.streams)
  | "/dev/stderr" | "/dev/fd/2" => some (find? 2 s.streams)
  | _ => none

/-- Complain that a file cannot be opened. -/
def cannot (action : String) (path : Bytes) (reason : String) : Session (Option Channel) := do
  complain (("cannot " ++ action ++ " ").toList ++ path ++ (": " ++ reason).toList)
  return none

/-- Open a file for reading, or complain. -/
def openForReading (path : Bytes) : Session (Option Channel) := do
  let s ← get
  match s.lookup path with
  | some (place, .file _ text) => return some (← textSupply (s.contents place text) true)
  | some (_, .directory) => return some .directory
  | none => cannot "open" path "No such file"

/-- Open a file for writing, or complain. -/
def openForWriting (emptied guarded : Bool) (path : Bytes) : Session (Option Channel) := do
  let s ← get
  match s.lookup path, s.placeFor? path with
  | some (_, .directory), _ => cannot "create" path "Is a directory"
  | _, none => cannot "create" path "Directory nonexistent"
  | found, some place =>
    if guarded && found.isSome then cannot "create" path "File exists"
    else
      createFile place emptied
      return some (.file place)

/-- Carry out a redirection; tells whether that is possible. -/
def Opening.carryOut : Opening → Session Bool
  | document stream text => do
    setStream stream (some (← textSupply text false))
    return true
  | duplicate stream target => do
    match target with
    | ['-'] =>
      setStream stream none
      return true
    | [d] =>
      if d.isDigit then
        match find? (d.toNat - 48) (← get).streams with
        | some c =>
          setStream stream (some c)
          return true
        | none =>
          complain (d :: ": Bad file descriptor".toList)
          return false
      else fail "Syntax error: Bad fd number".toList
    | _ => fail "Syntax error: Bad fd number".toList
  | file stream mode path => do
    let s ← get
    let channel ←
      match deviceChannel? s path with
      | some c => pure c
      | none =>
        match mode with
        | .read => openForReading path
        | .write => openForWriting true (s.options.contains 'C') path
        | .overwrite => openForWriting true false path
        | .append => openForWriting false false path
        | .readWrite => openForWriting false false path
    match channel with
    | some c =>
      setStream stream (some c)
      return true
    | none => return false

/-- Carry out redirections, up to the first that is not possible; the status tells whether there is
one. -/
def redirect (capture : Command → Session Bytes) (rs : List Redirection) : Session Nat := do
  let openings ← rs.mapM (Redirection.prepare capture)
  for o in openings do
    if !(← o.carryOut) then return 2
  return 0

end Vigil.Program.Shell
