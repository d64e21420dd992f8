import Vigil.Program.Shell.State

/-!
# Tools

A tool is a program that reads streams and files, writes, and returns a status.  Here is how tools
read their options, read files and complain.
-/

namespace Vigil.Program.Tool

open Shell (Session print write readAllFrom)

/-- Write a complaint with the name of the tool. -/
def complain (name message : Bytes) : Session Unit := do
  let _ ← write 2 (name ++ [':', ' '] ++ message ++ ['\n'])

/-- Complain about the arguments. -/
def refuse (name message : Bytes) : Session Nat := do
  complain name message
  let _ ← write 2 ("Try '".toList ++ name ++ " --help' for more information.\n".toList)
  return 1

/-- A text in single quotes. -/
def quoted (s : Bytes) : Bytes :=
  '\x27' :: s ++ ['\x27']

/-! ## Options -/

/-- The options that a tool knows: letters, each with whether it takes an argument, and names of
some of them. -/
structure Known where
  letters : List (Char × Bool)
  names : List (String × Char) := []

/-- What the arguments of a tool are: options with their values, and operands. -/
structure Arguments where
  options : List (Char × Bytes) := []
  operands : List Bytes := []

namespace Arguments

/-- Add an option in front. -/
def addOption (o : Char × Bytes) (a : Arguments) : Arguments :=
  { a with options := o :: a.options }

/-- Is the option there? -/
def has (a : Arguments) (c : Char) : Bool :=
  a.options.any (·.1 == c)

/-- The last value of an option. -/
def value? (a : Arguments) (c : Char) : Option Bytes :=
  ((a.options.filter (·.1 == c)).getLast?).map (·.2)

end Arguments

/-- Read the letters of an argument; the last one may take the next argument. -/
def readLetters (k : Known) (rest : List Bytes → Except Bytes Arguments) :
    Bytes → List Bytes → Except Bytes Arguments
  | [], args => rest args
  | c :: letters, args =>
    match k.letters.find? (·.1 == c) with
    | none => .error ("invalid option -- ".toList ++ quoted [c])
    | some (_, false) => (readLetters k rest letters args).map (·.addOption (c, []))
    | some (_, true) =>
      if !letters.isEmpty then (rest args).map (·.addOption (c, letters))
      else
        match args with
        | [] => .error ("option requires an argument -- ".toList ++ quoted [c])
        | a :: args => (rest args).map (·.addOption (c, a))

/-- Read arguments, in which options may stand behind operands.  The number bounds them. -/
def readArguments (k : Known) : Nat → List Bytes → Except Bytes Arguments
  | 0, _ => .ok {}
  | _ + 1, [] => .ok {}
  | n + 1, a :: args =>
    match a with
    | ['-', '-'] => .ok { operands := args }
    | '-' :: '-' :: name =>
      let word := name.takeWhile (· != '=')
      let value? := if word.length < name.length then some (name.drop (word.length + 1)) else none
      match k.names.find? (·.1.toList == word) with
      | none => .error ("unrecognized option ".toList ++ quoted a)
      | some (_, c) =>
        match k.letters.find? (·.1 == c), value?, args with
        | some (_, true), some v, _ => (readArguments k n args).map (·.addOption (c, v))
        | some (_, true), none, v :: args => (readArguments k n args).map (·.addOption (c, v))
        | some (_, true), none, [] =>
          .error ("option ".toList ++ quoted ("--".toList ++ word) ++ " requires an argument".toList)
        | _, _, _ => (readArguments k n args).map (·.addOption (c, []))
    | '-' :: c :: letters => readLetters k (readArguments k n) (c :: letters) args
    | _ => (readArguments k n args).map fun r => { r with operands := a :: r.operands }

/-- Read the arguments of a tool and go on with them, or complain. -/
def withArguments (name : Bytes) (k : Known) (args : List Bytes) (body : Arguments → Session Nat) :
    Session Nat :=
  match readArguments k (args.length + 1) args with
  | .error m => refuse name m
  | .ok a => body a

/-! ## Files -/

/-- Read all of the input. -/
def readInput : Session Bytes := readAllFrom 0

/-- Read the file at a path, or the input; or say why that is not possible. -/
def readFile (path : Bytes) : Session (Except String Bytes) := do
  if path = ['-'] || path = "/dev/stdin".toList then
    match Shell.find? 0 (← get).streams with
    | some .directory => return .error "Is a directory"
    | none => return .error "Bad file descriptor"
    | _ => return .ok (← readInput)
  else if path = "/dev/null".toList then return .ok []
  else if path = "/dev/zero".toList || path = "/dev/full".toList then
    modify fun s => { s with unending := true }
    return .ok (List.replicate 65536 '\x00')
  else
    let s ← get
    match s.lookup path with
    | some (place, .file _ text) => return .ok (s.contents place text)
    | some (_, .directory) => return .error "Is a directory"
    | none => return .error "No such file or directory"

/-- Read some files, or the input if none is named, and complain about those that cannot be read. -/
def readFiles (name start : Bytes) (paths : List Bytes) : Session (List (Bytes × Bytes) × Nat) := do
  let mut files := #[]
  let mut status := 0
  for p in if paths.isEmpty then [['-']] else paths do
    match ← readFile p with
    | .ok b => files := files.push (p, b)
    | .error m =>
      complain name (start ++ p ++ [':', ' '] ++ m.toList)
      status := 1
  return (files.toList, status)

/-- The lines of a text, each with its end. -/
def lines (b : Bytes) : List Bytes :=
  let parts := Bytes.split '\n' b
  let last := parts.getLastD []
  parts.dropLast.map (· ++ ['\n']) ++ (if last.isEmpty then [] else [last])

/-- A line without its end. -/
def bare (line : Bytes) : Bytes :=
  if line.getLast? == some '\n' then line.dropLast else line

/-- The number that a text of digits is. -/
def number? (b : Bytes) : Option Nat :=
  if !b.isEmpty && b.all Char.isDigit then some (Nat.ofDigitChars 10 b 0) else none

end Vigil.Program.Tool
