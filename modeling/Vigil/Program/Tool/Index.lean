import Vigil.Program.Shell.Condition
import Vigil.Program.Tool.Files
import Vigil.Program.Tool.Output
import Vigil.Program.Tool.Text

/-!
# The tools by their names

The tools that need nothing but their arguments, their streams and the files; a program that runs
others is not among them.
-/

namespace Vigil.Program.Tool

open Shell (Session State)

/-- What holds of the file at a path. -/
def fileHolds (s : State) (letter : Char) (path : Bytes) : Bool :=
  let device := Shell.devices.any fun d => d.toList == path
  match s.lookup path with
  | none => device && (letter == 'e' || letter == 'c' || letter == 'r' || letter == 'w')
  | some (_, .directory) => "edrwxs".toList.contains letter
  | some (place, .file executable text) =>
    match letter with
    | 'e' | 'f' | 'r' | 'w' | 'O' | 'G' => true
    | 'x' => executable
    | 's' => executable || !(s.contents place text).isEmpty
    | _ => false

/-- What conditions ask about files. -/
def facts (s : State) : Shell.Condition.Facts where
  file := fileHolds s
  sameFile a b :=
    match s.lookup a, s.lookup b with
    | some (p, _), some (q, _) => p == q
    | _, _ => false

/-- Work out a condition; a closing bracket may have to be its last argument. -/
def condition (bracket : Bool) (args : List Bytes) : Session (Except Bytes Bool) := do
  if bracket && args.getLast? != some [']'] then return .error "missing ]".toList
  else return Shell.Condition.holds (facts (← get)) (if bracket then args.dropLast else args)

/-- The status of a condition. -/
def test (bracket : Bool) (name : Bytes) (args : List Bytes) : Session Nat := do
  match ← condition bracket args with
  | .ok b => return if b then 0 else 1
  | .error m =>
    complain name m
    return 2

/-- Write the working directory. -/
def pwd (_name : Bytes) (_args : List Bytes) : Session Nat := do
  let place := (← get).place
  let path := if place.isEmpty then ['/'] else place.flatMap fun n => '/' :: Bytes.ofText n.toList
  Shell.print (path ++ ['\n'])
  return 0

/-- The tools and their names. -/
def tools : List (String × (Bytes → List Bytes → Session Nat)) :=
  [("echo", echo), ("printf", printf), ("sleep", sleep), ("seq", seq), ("yes", yes), ("cat", cat),
    ("tee", tee), ("head", head), ("tail", tail), ("wc", wc), ("tac", tac), ("rev", rev),
    ("sort", sort), ("uniq", uniq), ("tr", tr), ("cut", cut), ("basename", basename),
    ("dirname", dirname), ("ls", ls), ("mkdir", mkdir), ("rmdir", rmdir),
    ("rm", rm), ("touch", touch), ("cp", cp), ("mv", mv), ("chmod", chmod), ("pwd", pwd), ("test", test false), ("[", test true),
    ("false", fun _ _ => pure 1)]

/-- Run a tool by its name; one that is not known does nothing.  A tool that reads something without
an end has none either. -/
def run (program name : Bytes) (args : List Bytes) : Session Nat := do
  match tools.find? (·.1.toList == program) with
  | some (_, tool) =>
    let status ← tool name args
    if (← get).unending then throw .endless
    return status
  | none => return 0

end Vigil.Program.Tool
