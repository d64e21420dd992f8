import Vigil.Path

/-!
# Programs in a file system

A small picture of a file system: which paths are directories, which are files, which of those can
be run and what text they hold.  A command with a slash in it is a path; any other is looked for in
the directories of the search path.
-/

namespace Vigil.Program

/-- What a path leads to. -/
inductive Node where
  | directory
  | file (executable : Bool) (text : String)
deriving DecidableEq, Repr

/-- Files and directories by the names on the way to them, the working directory, and the
directories in which commands are looked for. -/
structure FileSystem where
  nodes : List (List String × Node)
  workingDirectory : List String
  searchPath : List String
deriving Repr

/-- Why a program could not be started. -/
inductive SpawnError where
  | notFound | notPermitted | notADirectory | zeroByte
deriving DecidableEq, Repr

/-- The wording of a failed start. -/
def SpawnError.message : SpawnError → String
  | notFound => "No such file or directory (os error 2)"
  | notPermitted => "Permission denied (os error 13)"
  | notADirectory => "Not a directory (os error 20)"
  | zeroByte => "nul byte found in provided data"

namespace FileSystem

/-- What the names lead to; the empty list leads to the root. -/
def node? (fs : FileSystem) (names : List String) : Option Node :=
  if names.isEmpty then some .directory
  else (fs.nodes.find? (·.1 == names)).map (·.2)

/-- Follow the parts of a path from a place; every part but the last must be in a directory, and
dots and empty parts need a directory too. -/
def walk (fs : FileSystem) : List String → List (List Char) → Except SpawnError (List String)
  | here, [] => .ok here
  | here, part :: rest =>
    match fs.node? here with
    | none => .error .notFound
    | some (.file _ _) => .error .notADirectory
    | some .directory =>
      if part = [] || part = ['.'] then walk fs here rest
      else if part = ['.', '.'] then walk fs here.dropLast rest
      else walk fs (here ++ [String.ofList part]) rest

/-- What a path leads to. -/
def lookup (fs : FileSystem) (path : List Char) : Except SpawnError (List String × Node) :=
  match path with
  | [] => .error .notFound
  | '/' :: rest => finish (walk fs [] (Path.splitSlash rest))
  | _ => finish (walk fs fs.workingDirectory (Path.splitSlash path))
where
  finish : Except SpawnError (List String) → Except SpawnError (List String × Node)
    | .error e => .error e
    | .ok names =>
      match fs.node? names with
      | none => .error .notFound
      | some n => .ok (names, n)

/-- Does the path lead anywhere? -/
def leadsSomewhere (fs : FileSystem) (path : List Char) : Bool :=
  match fs.lookup path with
  | .ok _ => true
  | .error _ => false

/-- Does the path lead to a file? -/
def isFile (fs : FileSystem) (path : List Char) : Bool :=
  match fs.lookup path with
  | .ok (_, .file _ _) => true
  | _ => false

/-- The text of the file that a path leads to. -/
def text? (fs : FileSystem) (path : List Char) : Option String :=
  match fs.lookup path with
  | .ok (_, .file _ text) => some text
  | _ => none

/-- The path from the root that a path from the working directory stands for. -/
def absolute (fs : FileSystem) (path : List Char) : List Char :=
  match path with
  | '/' :: _ => path
  | _ => fs.workingDirectory.flatMap (fun n => '/' :: n.toList) ++ '/' :: path

/-- The names on the way along a path. -/
def names (fs : FileSystem) (path : List Char) : List String :=
  (Path.components (fs.absolute path)).foldl (fun here c =>
    match c with
    | .root | .current => here
    | .parent => here.dropLast
    | .normal n => here ++ [String.ofList n]) []

/-- Put a file that cannot be run where a path leads, with the directories on its way. -/
def addFile (fs : FileSystem) (path text : String) : FileSystem :=
  let names := fs.names path.toList
  let directories := (List.range names.length).map fun n => (names.take n, Node.directory)
  { fs with nodes := (names, .file false text) :: directories ++ fs.nodes }

/-- A command in a directory of the search path; an absolute command stands for itself. -/
def inDirectory (directory : String) (command : List Char) : List Char :=
  match command with
  | '/' :: _ => command
  | _ => directory.toList ++ ['/'] ++ command

/-- Is there a file for the command?  A command of several components is a path. -/
def hasCommand (fs : FileSystem) (command : String) : Bool :=
  let c := command.toList
  if 1 < (Path.components c).length then fs.isFile c
  else fs.searchPath.any fun d => fs.isFile (inDirectory d c)

/-- The program at a path. -/
def program (fs : FileSystem) (path : List Char) : Except SpawnError String :=
  match fs.lookup path with
  | .error e => .error e
  | .ok (names, .file true _) => .ok (names.getLastD "")
  | .ok _ => .error .notPermitted

/-- The first program of a command in some directories; `refused` if one was found that may not be
run. -/
def searchProgram (fs : FileSystem) (command : List Char) (refused : Bool) :
    List String → Except SpawnError String
  | [] => .error (if refused then .notPermitted else .notFound)
  | d :: rest =>
    match fs.program (inDirectory d command) with
    | .ok name => .ok name
    | .error .notPermitted => searchProgram fs command true rest
    | .error _ => searchProgram fs command refused rest

/-- The name of the program that a command starts. -/
def resolve (fs : FileSystem) (command : String) : Except SpawnError String :=
  let c := command.toList
  if c.contains '\x00' then .error .zeroByte
  else if c.isEmpty then .error .notFound
  else if c.contains '/' then fs.program c
  else fs.searchProgram c false fs.searchPath

/-! ## The usual place -/

/-- The names of the basic programs of a system. -/
def basicPrograms : List String :=
  ["sh", "bash", "dash", "cat", "echo", "printf", "true", "false", "sleep", "kill", "ls", "env",
    "test", "head", "tail", "wc", "sort", "uniq", "cut", "tr", "sed", "grep", "awk", "cp", "mv",
    "rm", "mkdir", "rmdir", "touch", "chmod", "date", "uname", "id", "whoami", "pwd", "seq",
    "basename", "dirname", "tee", "xargs", "find", "expr", "yes", "stat", "ln", "hostname", "ps",
    "tar", "gzip", "which", "mktemp", "nproc", "sync", "timeout", "od"]

/-- A system with the basic programs and nothing in the working directory. -/
def basic : FileSystem where
  nodes :=
    [(["bin"], .directory), (["usr"], .directory), (["usr", "bin"], .directory),
      (["usr", "local"], .directory), (["usr", "local", "bin"], .directory),
      (["sbin"], .directory), (["usr", "sbin"], .directory), (["usr", "local", "sbin"], .directory),
      (["usr", "lib"], .directory), (["lib"], .directory), (["opt"], .directory),
      (["etc"], .directory), (["etc", "passwd"], .file false ""), (["etc", "group"], .file false ""),
      (["etc", "hosts"], .file false ""), (["tmp"], .directory), (["dev"], .directory),
      (["proc"], .directory), (["home"], .directory), (["root"], .directory),
      (["var"], .directory), (["work"], .directory)] ++
    basicPrograms.flatMap fun p => [(["bin", p], .file true ""), (["usr", "bin", p], .file true "")]
  workingDirectory := ["work"]
  searchPath :=
    ["/usr/local/sbin", "/usr/local/bin", "/usr/sbin", "/usr/bin", "/sbin", "/bin"]

end FileSystem

end Vigil.Program
