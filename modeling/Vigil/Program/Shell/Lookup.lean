import Vigil.Program.Shell.Environment
import Vigil.Program.Shell.Parser

/-!
# Finding commands

What a command name means: a function, a command of the shell, or a program in a directory of the
search path.
-/

namespace Vigil.Program.Shell

/-- What is run when a file is run. -/
inductive Executable where
  | tool (name : String)
  | script (text : Bytes)

/-- What the name of a command means. -/
inductive Meaning where
  | function (body : Command)
  | builtin
  /-- A program, with its path. -/
  | program (path : Bytes) (executable : Executable)
  | refused
  | missing

/-- The commands of the shell that are not special. -/
def plainCommands : List String :=
  ["[", "alias", "bg", "cd", "chdir", "command", "echo", "false", "fg", "getopts", "hash", "jobs",
    "kill", "printf", "pwd", "read", "test", "true", "type", "ulimit", "umask", "unalias", "wait"]

/-- Is a command of the shell special, so that a mistake in it ends the script? -/
def isSpecialCommand (name : Bytes) : Bool :=
  (specialCommands ++ ["local"]).any (·.toList == name)

/-- Is there a command of the shell of this name? -/
def isBuiltin (name : Bytes) : Bool :=
  isSpecialCommand name || plainCommands.any (·.toList == name)

/-- The directories in which commands are looked for. -/
def State.searchPath (s : State) : List Bytes :=
  match (find? "PATH".toList s.bindings).bind (·.value) with
  | some p => Bytes.split ':' p
  | none => s.world.files.searchPath.map String.toList

/-- The program at a path. -/
def programAt (s : State) (path : Bytes) : Meaning :=
  match s.lookup path with
  | some (place, .file true text) =>
    .program path
      (if text.isEmpty && (find? place s.world.written).isNone then .tool (place.getLastD "")
      else .script (s.contents place text))
  | some _ => .refused
  | none => .missing

/-- The first program of a name in some directories. -/
def programIn (s : State) (name : Bytes) : List Bytes → Meaning
  | [] => .missing
  | d :: rest =>
    let path := if d.isEmpty then name else d ++ ['/'] ++ name
    match programAt s path with
    | .program p n => .program p n
    | _ => programIn s name rest

/-- The program that a name means. -/
def programOf (s : State) (name : Bytes) : Meaning :=
  if name.isEmpty then .missing
  else if name.contains '/' then programAt s name
  else programIn s name s.searchPath

/-- What the name of a command means; functions may be left out. -/
def meaningOf (s : State) (functions : Bool) (name : Bytes) : Meaning :=
  match if functions then find? name s.functions else none with
  | some body => .function body
  | none => if isBuiltin name && !name.contains '/' then .builtin else programOf s name

/-- Remember where a program has been found. -/
def remember (name path : Bytes) : Session Unit :=
  if name.contains '/' then pure ()
  else modify fun s => { s with found := s.found.filter (·.1 != name) ++ [(name, path)] }

/-- Describe a command, or only name what it means; returns a status. -/
def describe (full : Bool) (name : Bytes) : Session Nat := do
  let s ← get
  let say (text : Bytes) (short : Bytes) : Session Nat := do
    print ((if full then name ++ text else short) ++ ['\n'])
    return 0
  if reservedWords.any (·.toList == name) then say " is a shell keyword".toList name
  else
    match find? name s.aliases, meaningOf s true name with
    | some text, _ =>
      say (" is an alias for ".toList ++ text) ("alias ".toList ++ assignmentText name (some text))
    | none, .function _ => say " is a shell function".toList name
    | none, .builtin =>
      say (if isSpecialCommand name then " is a special shell builtin".toList
        else " is a shell builtin".toList) name
    | none, .program path _ =>
      let known := s.found.any (·.1 == name)
      if !known then remember name path
      say ((if known then " is a tracked alias for " else " is ").toList ++ path) path
    | none, _ =>
      if full then print (name ++ ": not found\n".toList)
      return 127

/-- The command `type`. -/
def typeCommand (args : List Bytes) : Session Nat := do
  let mut status := 0
  for a in args do
    status := max status (← describe true a)
  return status

/-- The command `alias`. -/
def aliasCommand (args : List Bytes) : Session Nat := do
  let s ← get
  let mut status := 0
  if args.isEmpty then
    for (name, text) in s.aliases.reverse do
      print (assignmentText name (some text) ++ ['\n'])
  for a in args do
    let (name, text) := splitAssignment a
    match text, find? name s.aliases with
    | some t, _ =>
      modify fun s => { s with aliases := put name t s.aliases }
    | none, some t => print (assignmentText name (some t) ++ ['\n'])
    | none, none =>
      let _ ← write 2 ("alias: ".toList ++ name ++ " not found\n".toList)
      status := 1
  return status

/-- The command `unalias`. -/
def unaliasCommand (args : List Bytes) : Session Nat := do
  let (options, names) ← optionsOf "a" args
  if !options.isEmpty then modify fun s => { s with aliases := [] }
  let mut status := 0
  for name in names do
    if (find? name (← get).aliases).isNone then
      let _ ← write 2 ("unalias: ".toList ++ name ++ " not found\n".toList)
      status := 1
    modify fun s => { s with aliases := s.aliases.filter (·.1 != name) }
  return status

/-- The place of a name among the remembered ones when they are shown. -/
def shownPlace (name : Bytes) : Nat :=
  (name.foldl (fun h c => h + c.toNat) ((name.headD '\x00').toNat * 16) % 32768) % 31

/-- The command `hash`. -/
def hashCommand (args : List Bytes) : Session Nat := do
  let (options, names) ← optionsOf "r" args
  let s ← get
  if !options.isEmpty then modify fun s => { s with found := [] }
  else if names.isEmpty then
    for (_, path) in s.found.mergeSort fun a b => shownPlace a.1 ≤ shownPlace b.1 do
      print (path ++ ['\n'])
  let mut status := 0
  for name in names do
    match meaningOf s true name with
    | .missing | .refused =>
      complain (name ++ ": not found".toList)
      status := 1
    | .program path _ => remember name path
    | _ => pure ()
  return status

end Vigil.Program.Shell
