import Vigil.CommandLine.Program
import Vigil.Run.Phase

/-!
# The command line

Reads the files and the environment that a call may need, answers the call and prints the answer.
-/

open Vigil

/-- The text of a file, if it can be read. -/
def readText (path : String) : IO (Option String) := do
  try
    return some (← IO.FS.readFile path)
  catch _ =>
    return none

/-- The files that the arguments and the default paths may refer to. -/
def readFiles (arguments : List String) : IO (List (String × String)) := do
  let mut found := []
  for path in arguments ++ Config.defaultPaths do
    for candidate in path :: Config.Format.table.map fun (ending, _) => path ++ "." ++ ending do
      match ← readText candidate with
      | some text => found := found ++ [(candidate, text)]
      | none => pure ()
  return found

/-- The variables of the environment. -/
def readVariables : IO (List (String × String)) := do
  let text := (← readText "/proc/self/environ").getD ""
  return (text.splitOn "\x00").filterMap fun entry =>
    let cs := entry.toList
    let name := cs.takeWhile (· != '=')
    if name.length < cs.length then
      some (String.ofList name, String.ofList (cs.drop (name.length + 1)))
    else none

/-- Answer a call of the program. -/
def main (arguments : List String) : IO UInt32 := do
  let files ← readFiles arguments
  let bytes ← IO.getRandomBytes 16
  let host : CommandLine.Host Unit := {
    files := files.foldl (fun fs f => fs.addFile f.1 f.2) .basic
    environment := ← readVariables
    network := .down
    runId := .ofBytes (bytes.toList.map UInt8.toNat)
    now := ← IO.monoNanosNow }
  let response := CommandLine.call host arguments ()
  IO.print response.output
  IO.eprint response.complaint
  return response.exitCode.toUInt32
