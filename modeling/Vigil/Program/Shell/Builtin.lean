import Vigil.Program.Shell.Lookup
import Vigil.Program.Shell.Processes
import Vigil.Program.Tool.Index

/-!
# The commands of the shell

The commands that the shell runs itself and that run no other commands, by their names.
-/

namespace Vigil.Program.Shell

/-- The command `echo`. -/
def echoCommand (args : List Bytes) : Session Nat := do
  print (Format.shellEcho args)
  return 0

/-- The command `printf`. -/
def printfCommand (args : List Bytes) : Session Nat := do
  match ← withoutOptions args with
  | [] => fail "usage: printf format [arg ...]".toList
  | format :: rest =>
    let (p, _) := Format.Dialect.shell.printf format rest
    print p.bytes
    for c in p.complaints do
      complain c
    return p.status

/-- The command `test`, which may have to end with a bracket. -/
def testCommand (bracket : Bool) (args : List Bytes) : Session Nat := do
  match ← Tool.condition bracket args with
  | .ok b => return if b then 0 else 1
  | .error m => fail m

/-- The command `times`. -/
def timesCommand (_args : List Bytes) : Session Nat := do
  for _ in [0, 1] do
    print "0m0.000000s 0m0.000000s\n".toList
  return 0

/-- Commands that need a terminal. -/
def jobControl (args : List Bytes) : Session Nat := do
  let j ← jobOf (args.headD ['%'])
  fail ("job ".toList ++ decimal j.process ++ " not created under job control".toList)

/-- The commands that run no others. -/
def quietCommands : List (String × (List Bytes → Session Nat)) :=
  [(":", fun _ => pure 0), ("true", fun _ => pure 0), ("false", fun _ => pure 1),
    ("echo", echoCommand), ("printf", printfCommand), ("test", testCommand false),
    ("[", testCommand true), ("cd", cdCommand), ("chdir", cdCommand), ("pwd", pwdCommand),
    ("read", readLineCommand), ("getopts", getoptsCommand), ("set", setCommand),
    ("shift", shiftCommand), ("export", exportCommand), ("readonly", readonlyCommand),
    ("unset", unsetCommand), ("local", localCommand), ("trap", trapCommand), ("kill", killCommand),
    ("wait", waitCommand), ("jobs", jobsCommand), ("umask", umaskCommand), ("ulimit", ulimitCommand),
    ("type", typeCommand), ("alias", aliasCommand), ("unalias", unaliasCommand),
    ("hash", hashCommand), ("times", timesCommand), ("fg", jobControl), ("bg", jobControl)]

end Vigil.Program.Shell
