import Vigil.Program.Permissions
import Vigil.Program.Shell.State
import Vigil.Program.Tool.Basic

/-!
# Tools for files

The tools that list, make, copy, move and remove files and directories, and the one that says which
files can be run.
-/

namespace Vigil.Program.Tool

open Shell (Session State print)

/-! ## Directories -/

/-- Make a directory, perhaps with those on its way; or say why that is not possible. -/
def makeDirectory (parents : Bool) (path : Bytes) : Session (Option String) := do
  let s ← get
  match s.lookup path, s.newPlace? path with
  | some (_, .directory), _ => return if parents then none else some "File exists"
  | some _, _ => return some "File exists"
  | none, some place =>
    Shell.changeWorld (·.add place .directory)
    return none
  | none, none =>
    if !parents then return some "No such file or directory"
    let names := s.world.files.names (s.absolute path)
    for n in List.range names.length do
      let place := names.take (n + 1)
      match (← get).world.files.node? place with
      | some .directory => pure ()
      | some _ => return some "Not a directory"
      | none => Shell.changeWorld (·.add place .directory)
    return none

/-- Make directories. -/
def mkdir (name : Bytes) (args : List Bytes) : Session Nat :=
  let known : Known :=
    { letters := [('p', false), ('v', false), ('m', true)]
      names := [("parents", 'p'), ("verbose", 'v'), ("mode", 'm')] }
  withArguments name known args fun a => do
    if a.operands.isEmpty then refuse name "missing operand".toList
    else
      let mut status := 0
      for p in a.operands do
        match ← makeDirectory (a.has 'p') p with
        | none =>
          if a.has 'v' then print (name ++ ": created directory ".toList ++ quoted p ++ ['\n'])
        | some m =>
          complain name ("cannot create directory ".toList ++ quoted p ++ [':', ' '] ++ m.toList)
          status := 1
      return status

/-- Remove empty directories. -/
def rmdir (name : Bytes) (args : List Bytes) : Session Nat :=
  withArguments name { letters := [('p', false), ('v', false)] } args fun a => do
    if a.operands.isEmpty then refuse name "missing operand".toList
    else
      let mut status := 0
      for p in a.operands do
        let s ← get
        let reason :=
          match s.lookup p with
          | none => some "No such file or directory"
          | some (_, .file _ _) => some "Not a directory"
          | some (place, .directory) =>
            if (s.namesIn place).isEmpty then none else some "Directory not empty"
        match reason, s.lookup p with
        | none, some (place, _) => Shell.changeWorld (·.remove place)
        | some m, _ =>
          complain name ("failed to remove ".toList ++ quoted p ++ [':', ' '] ++ m.toList)
          status := 1
        | none, none => pure ()
      return status

/-- Remove files, and directories with all that is in them. -/
def rm (name : Bytes) (args : List Bytes) : Session Nat :=
  let known : Known :=
    { letters := "rRfivdI".toList.map fun c => (c, false)
      names := [("recursive", 'r'), ("force", 'f'), ("verbose", 'v'), ("dir", 'd')] }
  withArguments name known args fun a => do
    let forced := a.has 'f'
    let deep := a.has 'r' || a.has 'R'
    if a.operands.isEmpty && !forced then refuse name "missing operand".toList
    else
      let mut status := 0
      for p in a.operands do
        let s ← get
        let last := (Path.splitSlash p).getLastD []
        let failed (m : String) : Session Nat := do
          complain name ("cannot remove ".toList ++ quoted p ++ [':', ' '] ++ m.toList)
          return 1
        match s.lookup p with
        | none => if !forced then status ← failed "No such file or directory"
        | some (place, .file _ _) =>
          Shell.changeWorld (·.remove place)
          if a.has 'v' then print ("removed ".toList ++ quoted p ++ ['\n'])
        | some (place, .directory) =>
          if !deep && !(a.has 'd' && (s.namesIn place).isEmpty) then
            status ← failed "Is a directory"
          else if last = ['.'] || last = ['.', '.'] then
            complain name ("refusing to remove '.' or '..' directory: skipping ".toList ++ quoted p)
            status := 1
          else if place.isEmpty then
            complain name "it is dangerous to operate recursively on '/'".toList
            complain name "use --no-preserve-root to override this failsafe".toList
            status := 1
          else
            Shell.changeWorld (·.remove place)
            if a.has 'v' then print ("removed directory ".toList ++ quoted p ++ ['\n'])
      return status

/-! ## Files -/

/-- Make files that are not there. -/
def touch (name : Bytes) (args : List Bytes) : Session Nat :=
  let known : Known :=
    { letters := [('a', false), ('c', false), ('m', false), ('d', true), ('r', true), ('t', true)]
      names := [("no-create", 'c'), ("date", 'd'), ("reference", 'r')] }
  withArguments name known args fun a => do
    if a.operands.isEmpty then refuse name "missing file operand".toList
    else
      let mut status := 0
      for p in a.operands do
        let s ← get
        match s.lookup p, s.placeFor? p with
        | some _, _ => pure ()
        | none, some place => if !a.has 'c' then Shell.createFile place false
        | none, none =>
          if !a.has 'c' then
            complain name ("cannot touch ".toList ++ quoted p ++ ": No such file or directory".toList)
            status := 1
      return status

/-- Where a file of some path comes when it is copied or moved: into a directory, or to a place of its
own; or why that is not possible. -/
def targetPlace (s : State) (source target : Bytes) : Except String (List String) :=
  match s.lookup target with
  | some (place, .directory) =>
    let parts := (Path.splitSlash source).filter fun p => !p.isEmpty && p != ['.']
    .ok (place ++ (parts.getLast?.map Bytes.text).toList)
  | some (place, _) => .ok place
  | none =>
    match s.newPlace? target with
    | some place =>
      if target.getLast? == some '/' then .error "Not a directory" else .ok place
    | none => .error "No such file or directory"

/-- Copy or move files to the last operand. -/
def transfer (moves : Bool) (name : Bytes) (a : Arguments) : Session Nat := do
  let deep := moves || a.has 'r' || a.has 'R' || a.has 'a'
  match a.operands.reverse with
  | [] => refuse name "missing file operand".toList
  | [one] => refuse name ("missing destination file operand after ".toList ++ quoted one)
  | target :: sources =>
    let sources := sources.reverse
    let s ← get
    if 1 < sources.length && !(s.lookup target matches some (_, .directory)) then
      complain name ("target ".toList ++ quoted target ++
        (if (s.lookup target).isSome then ": Not a directory" else ": No such file or directory").toList)
      return 1
    let mut status := 0
    for source in sources do
      let s ← get
      match s.lookup source, targetPlace s source target with
      | none, _ =>
        complain name ("cannot stat ".toList ++ quoted source ++ ": No such file or directory".toList)
        status := 1
      | some (_, .directory), _ =>
        if !deep then
          complain name ("-r not specified; omitting directory ".toList ++ quoted source)
          status := 1
        else status ← carry s source target
      | some _, _ => status ← carry s source target
    return status
where
  /-- Carry one file or directory to its place. -/
  carry (s : State) (source target : Bytes) : Session Nat := do
    match s.lookup source, targetPlace s source target with
    | some (from_, _), .ok place =>
      if from_ == place then
        complain name (quoted source ++ " and ".toList ++ quoted target ++ " are the same file".toList)
        return 1
      else if from_.isPrefixOf place then
        complain name
          ((if moves then "cannot move " else "cannot copy a directory, ").toList ++ quoted source ++
            (if moves then " to a subdirectory of itself, " else ", into itself, ").toList ++
            quoted target)
        return 1
      else
        Shell.changeWorld fun w =>
          let w := w.copy from_ place
          if moves then w.remove from_ else w
        return 0
    | _, .error m =>
      complain name
        ((if moves then "cannot move " else "cannot create regular file ").toList ++
          (if moves then quoted source ++ " to ".toList else []) ++ quoted target ++ [':', ' '] ++
          m.toList)
      return 1
    | none, _ => return 1

/-- Copy files. -/
def cp (name : Bytes) (args : List Bytes) : Session Nat :=
  withArguments name
    { letters := "rRapfivnu".toList.map fun c => (c, false), names := [("recursive", 'r')] } args
    (transfer false name)

/-- Move files. -/
def mv (name : Bytes) (args : List Bytes) : Session Nat :=
  withArguments name
    { letters := "fivnu".toList.map fun c => (c, false), names := [("force", 'f')] } args
    (transfer true name)

/-- Say which files can be run. -/
def chmod (name : Bytes) (args : List Bytes) : Session Nat := do
  let isOption (a : Bytes) : Bool := a == "-R".toList || a == "-v".toList || a == "-f".toList
  match args.filter fun a => !isOption a with
  | [] => refuse name "missing operand".toList
  | [mode] => refuse name ("missing operand after ".toList ++ quoted mode)
  | mode :: paths =>
    let digits := mode.all fun c => '0' ≤ c && c ≤ '7'
    let number := mode.foldl (fun n c => 8 * n + (c.toNat - 48)) 0
    let changed? (old : Nat) : Option Nat :=
      if digits then (if number < 4096 then some number else none)
      else Permissions.change? old mode
    if (changed? 0).isNone then refuse name ("invalid mode: ".toList ++ quoted mode)
    else
      let mut status := 0
      for p in paths do
        let s ← get
        match s.lookup p with
        | none =>
          complain name ("cannot access ".toList ++ quoted p ++ ": No such file or directory".toList)
          status := 1
        | some (place, .file executable text) =>
          let new := (changed? (if executable then 0o755 else 0o644)).getD 0
          Shell.changeWorld (·.add place (.file (new &&& 0o111 != 0) text))
        | some (_, .directory) => pure ()
      return status

/-! ## Lists -/

/-- The options of the tool that lists. -/
def listOptions : Known where
  letters := "1aAdrFplhtSQmRC".toList.map fun c => (c, false)
  names := [("all", 'a'), ("almost-all", 'A'), ("directory", 'd'), ("reverse", 'r')]

/-- List files and the names in directories. -/
def ls (name : Bytes) (args : List Bytes) : Session Nat := do
  match readArguments listOptions (args.length + 1) args with
  | .error m =>
    let _ ← refuse name m
    return 2
  | .ok a =>
    let s ← get
    let inOrder (ps : List Bytes) : List Bytes :=
      let ps := ps.mergeSort fun p q => !decide (q < p)
      if a.has 'r' then ps.reverse else ps
    let mark (directory : Bytes) (p : Bytes) : Bytes :=
      match s.lookup (if directory.isEmpty then p else directory ++ ['/'] ++ p) with
      | some (_, .directory) => if a.has 'F' || a.has 'p' then p ++ ['/'] else p
      | some (_, .file true _) => if a.has 'F' then p ++ ['*'] else p
      | _ => p
    let operands := if a.operands.isEmpty then [['.']] else a.operands
    let mut status := 0
    for p in inOrder operands do
      if (s.lookup p).isNone && !Shell.devices.any (·.toList == p) then
        complain name ("cannot access ".toList ++ quoted p ++ ": No such file or directory".toList)
        status := 2
    let isDirectory (p : Bytes) : Bool := s.lookup p matches some (_, .directory)
    let there := inOrder (operands.filter fun p =>
      (s.lookup p).isSome || Shell.devices.any (·.toList == p))
    let (directories, files) := there.partition fun p => isDirectory p && !a.has 'd'
    let line (p : Bytes) : Bytes := p ++ ['\n']
    print (files.flatMap fun p => line (mark [] p))
    let mut first := files.isEmpty
    for d in directories do
      if !first then print ['\n']
      if 1 < operands.length then print (d ++ ":\n".toList)
      first := false
      match s.lookup d with
      | some (place, .directory) =>
        let names := (s.namesIn place).filter fun n =>
          a.has 'a' || a.has 'A' || n.head? != some '.'
        let names := (if a.has 'a' then [['.'], ['.', '.']] else []) ++ names
        print ((inOrder names).flatMap fun n => line (mark d n))
      | _ => pure ()
    return status

end Vigil.Program.Tool
