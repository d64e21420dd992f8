import Vigil.Program.Permissions
import Vigil.Program.Shell.Fields
import Vigil.Program.Shell.Options

/-!
# Commands for the state of a script

The commands of a shell that show and change variables, arguments, options and the working directory.
Each takes its arguments and returns its status.
-/

namespace Vigil.Program.Shell

/-! ## Variables -/

/-- Variables in the order of their names. -/
def sortedVariables (s : State) : List (Bytes × Variable) :=
  s.bindings.mergeSort fun a b => !decide (b.1 < a.1)

/-- The name that a text begins with, up to its equals sign, and the value behind it. -/
def splitAssignment (a : Bytes) : Bytes × Option Bytes :=
  let name := a.takeWhile (· != '=')
  if name.length < a.length then (name, some (a.drop (name.length + 1))) else (name, none)

/-- Insist on the name of a variable. -/
def checkName (name : Bytes) : Session Unit := do
  if !isName name then fail (name ++ ": bad variable name".toList)

/-- Show the variables of which something holds. -/
def showVariables (start : String) (p : Variable → Bool) : Session Unit := do
  for (name, v) in sortedVariables (← get) do
    if p v then print (start.toList ++ assignmentText name v.value ++ ['\n'])

/-- Mark variables, and set those that come with a value; without any, show those that are marked. -/
def markVariables (command : String) (marked : Variable → Bool) (mark : Variable → Variable)
    (args : List Bytes) : Session Nat := do
  let (options, names) ← optionsOf "p" args
  if !options.isEmpty || names.isEmpty then showVariables (command ++ " ") marked
  else
    for a in names do
      let (name, value) := splitAssignment a
      checkName name
      match value with
      | some v => setVariable name v
      | none => pure ()
      changeVariable name mark
  return 0

/-- The command `export`. -/
def exportCommand : List Bytes → Session Nat :=
  markVariables "export" (·.exported) fun v => { v with exported := true }

/-- The command `readonly`. -/
def readonlyCommand : List Bytes → Session Nat :=
  markVariables "readonly" (·.constant) fun v => { v with constant := true }

/-- Remove a variable. -/
def removeVariable (name : Bytes) : Session Unit := do
  checkName name
  if (find? name (← get).bindings).any (·.constant) then fail (name ++ ": is read only".toList)
  modify fun s => { s with bindings := s.bindings.filter (·.1 != name) }

/-- The command `unset`. -/
def unsetCommand (args : List Bytes) : Session Nat := do
  let (options, names) ← optionsOf "vf" args
  for name in names do
    if options.getLast?.map (·.1) == some 'f' then
      modify fun s => { s with functions := s.functions.filter (·.1 != name) }
    else removeVariable name
  return 0

/-- Keep a variable to be restored at the end of the function that is running. -/
def keepVariable (name : Bytes) : Session Unit :=
  modify fun s =>
    match s.locals with
    | [] => s
    | frame :: rest => { s with locals := ((name, find? name s.bindings) :: frame) :: rest }

/-- The command `local`. -/
def localCommand (args : List Bytes) : Session Nat := do
  if (← get).locals.isEmpty then fail "not in a function".toList
  for a in args do
    if a != ['-'] then
      let (name, value) := splitAssignment a
      checkName name
      keepVariable name
      match value with
      | some v => setVariable name v
      | none => changeVariable name id
  return 0

/-- Restore variables; the oldest come last. -/
def restoreVariables (kept : List (Bytes × Option Variable)) : Session Unit :=
  modify fun s =>
    { s with bindings := kept.foldl (fun vs (name, old) =>
        match old with
        | some v => put name v vs
        | none => vs.filter (·.1 != name)) s.bindings }

/-! ## Arguments and options -/

/-- Set the arguments of the script. -/
def setArguments (args : List Bytes) : Session Unit :=
  modify fun s => { s with arguments := args, optionIndex := 1, optionOffset := none }

/-- The options with their letters, in the order in which they are listed. -/
def optionNames : List (String × Option Char) :=
  [("errexit", some 'e'), ("noglob", some 'f'), ("ignoreeof", some 'I'), ("interactive", some 'i'),
    ("monitor", some 'm'), ("noexec", some 'n'), ("stdin", some 's'), ("xtrace", some 'x'),
    ("verbose", some 'v'), ("vi", some 'V'), ("emacs", some 'E'), ("noclobber", some 'C'),
    ("allexport", some 'a'), ("notify", some 'b'), ("nounset", some 'u'), ("privileged", some 'p'),
    ("nolog", none), ("debug", none)]

/-- Set an option, or set it back. -/
def setOption (c : Char) (on : Bool) : Session Unit :=
  modify fun s =>
    let others := s.options.filter (· != c)
    { s with options := if on then c :: others else others }

/-- Show all options, for reading or so that they can be set again. -/
def showOptions (forReading : Bool) : Session Unit := do
  let options := (← get).options
  if forReading then print "Current option settings\n".toList
  for (name, letter) in optionNames do
    let on := letter.any options.contains
    if forReading then
      print (name.toList ++ List.replicate (16 - name.length) ' ' ++
        (if on then "on\n" else "off\n").toList)
    else print ((if on then "set -o " else "set +o ").toList ++ name.toList ++ ['\n'])

/-- Set options by their letters; an option may have its name in the next argument. -/
def setByLetters (on : Bool) : Bytes → List Bytes → Session (List Bytes)
  | [], args => pure args
  | 'o' :: rest, args => do
    match args with
    | [] => showOptions on
    | a :: _ =>
      match optionNames.find? (·.1.toList == a) with
      | some (_, some c) => setOption c on
      | some (_, none) => pure ()
      | none => fail ("Illegal option -o ".toList ++ a)
    setByLetters on rest (args.drop 1)
  | c :: rest, args => do
    if !optionNames.any (·.2 == some c) then fail ("Illegal option -".toList ++ [c])
    setOption c on
    setByLetters on rest args

/-- Set options, and return the other arguments, if they take the place of the present ones.  The
number bounds the arguments with options. -/
def setByArguments : Nat → List Bytes → Session (Option (List Bytes))
  | 0, _ => pure none
  | n + 1, args => do
    match args with
    | ['-', '-'] :: rest => return some rest
    | ['-'] :: rest =>
      setOption 'x' false
      setOption 'v' false
      return if rest.isEmpty then none else some rest
    | ('-' :: letters) :: rest => setByArguments n (← setByLetters true letters rest)
    | ('+' :: letters) :: rest => setByArguments n (← setByLetters false letters rest)
    | [] => return none
    | rest => return some rest

/-- The command `set`. -/
def setCommand (args : List Bytes) : Session Nat := do
  if args.isEmpty then showVariables "" (·.value.isSome)
  else
    match ← setByArguments (args.length + 1) args with
    | some rest => setArguments rest
    | none => pure ()
  return 0

/-- The command `shift`. -/
def shiftCommand (args : List Bytes) : Session Nat := do
  let n ←
    match args with
    | [] => pure 1
    | a :: _ => numberOf a
  let s ← get
  if s.arguments.length < n then fail "can't shift that many".toList
  setArguments (s.arguments.drop n)
  return 0

/-- What is found when options are looked for in arguments: an option or a mistake, with the value
for the argument of the option; the index behind it, and where the letters that are left begin. -/
structure FoundOption where
  letter : Char
  value : Option Bytes := none
  complaint : Option Bytes := none
  index : Nat
  offset : Option Nat := none

/-- The next option in some arguments. -/
def nextOption (allowed : Bytes) (args : List Bytes) (index : Nat) (offset : Option Nat) :
    Option FoundOption × Nat :=
  let silent := allowed.head? == some ':'
  let left : Bytes :=
    match offset with
    | some n => if index < 2 then [] else (args.getD (index - 2) []).drop n
    | none => []
  let word := args.getD (index - 1) []
  let (letters, index) : Option Bytes × Nat :=
    if !left.isEmpty then (some left, index)
    else
      match word with
      | ['-', '-'] => (none, index + 1)
      | '-' :: c :: rest => (some (c :: rest), index + 1)
      | _ => (none, index)
  match letters with
  | none | some [] => (none, index)
  | some (c :: rest) =>
    let length := (args.getD (index - 2) []).length
    let offset := some (length - rest.length)
    match takesArgument? c (if silent then allowed.tail else allowed) with
    | none =>
      (some
        (if silent then { letter := '?', value := some [c], index, offset }
        else
          { letter := '?', complaint := some ("Illegal option -".toList ++ [c]), index, offset }),
        index)
    | some false => (some { letter := c, value := some [], index, offset }, index)
    | some true =>
      if !rest.isEmpty then (some { letter := c, value := some rest, index }, index)
      else
        match args[index - 1]? with
        | some a => (some { letter := c, value := some a, index := index + 1 }, index + 1)
        | none =>
          (some
            (if silent then { letter := ':', value := some [c], index, offset }
            else
              { letter := '?'
                complaint := some ("No arg for -".toList ++ [c] ++ " option".toList)
                index
                offset }),
            index)

/-- The command `getopts`. -/
def getoptsCommand (args : List Bytes) : Session Nat := do
  match args with
  | allowed :: name :: rest =>
    let s ← get
    let words := if rest.isEmpty then s.arguments else rest
    let (start, offset) :=
      if words.length + 1 < s.optionIndex then (1, none) else (s.optionIndex, s.optionOffset)
    let (found, index) := nextOption allowed words start offset
    let letter := (found.map (·.letter)).getD '?'
    match found with
    | none => pure ()
    | some f =>
      match f.complaint, f.value with
      | some c, _ =>
        let _ ← write 2 (c ++ ['\n'])
        modify fun s => { s with bindings := s.bindings.filter (·.1 != "OPTARG".toList) }
      | none, v => setVariable "OPTARG".toList (v.getD [])
    setVariable "OPTIND".toList (decimal index)
    modify fun s => { s with optionIndex := index, optionOffset := found.bind (·.offset) }
    setVariable name [letter]
    return if found.isSome then 0 else 1
  | _ => fail "Usage: getopts optstring var [arg]".toList

/-! ## Reading -/

/-- The parts of a line in which a backslash protects the character behind it; tells whether the line
goes on because its end is protected. -/
def lineParts : Bytes → Bytes → List Part × Bool
  | loose, [] => ([.loose loose.reverse], false)
  | loose, ['\\'] => ([.loose loose.reverse], false)
  | loose, '\\' :: '\n' :: _ => ([.loose loose.reverse], true)
  | loose, '\\' :: c :: rest =>
    let (more, goesOn) := lineParts [] rest
    (.loose loose.reverse :: .fixed [(c, true)] :: more, goesOn)
  | loose, c :: rest => if c == '\n' then ([.loose loose.reverse], false) else lineParts (c :: loose) rest

/-- Read a line as parts, and tell whether it is complete.  The number bounds the lines of which it
may consist. -/
def readLineParts (raw : Bool) : Nat → Session (List Part × Bool)
  | 0 => pure ([], false)
  | n + 1 => do
    let line := (← readLineFrom 0).filter (· != '\x00')
    let complete := line.getLast? == some '\n'
    if raw then return ([.loose (if complete then line.dropLast else line)], complete)
    else
      let (parts, goesOn) := lineParts [] line
      if goesOn then
        let (more, complete) ← readLineParts raw n
        return (parts ++ more, complete)
      else return (parts, complete)

/-- Set variables to values; those without a value become empty. -/
def setAll : List Bytes → List Bytes → Session Unit
  | [], _ => pure ()
  | name :: names, values => do
    checkName name
    setVariable name (values.headD [])
    setAll names values.tail

/-- The command `read`. -/
def readLineCommand (args : List Bytes) : Session Nat := do
  let (options, names) ← optionsOf "p:r" args
  if names.isEmpty then fail "arg count".toList
  let (parts, complete) ← readLineParts (options.any (·.1 == 'r')) 10000
  let fields := breakUp ((← separators).getD blanks) (some names.length) parts
  setAll names (fields.map unmarked)
  return if complete then 0 else 1

/-! ## The working directory -/

/-- The path of a place. -/
def pathOf (place : List String) : Bytes :=
  if place.isEmpty then ['/'] else place.flatMap fun n => '/' :: Bytes.ofText n.toList

/-- The command `pwd`. -/
def pwdCommand (args : List Bytes) : Session Nat := do
  let _ ← optionsOf "LP" args
  print (pathOf (← get).place ++ ['\n'])
  return 0

/-- The directory that a path leads to. -/
def State.directory? (s : State) (path : Bytes) : Option (List String) :=
  match s.lookup (if path.isEmpty then ['.'] else path) with
  | some (place, .directory) => some place
  | _ => none

/-- The directories that may be meant by a path, each with whether it is announced. -/
def directoriesFor (s : State) (path : Bytes) : List (Bytes × Bool) :=
  let direct :=
    match path with
    | '/' :: _ | ['.'] | '.' :: '/' :: _ | ['.', '.'] | '.' :: '.' :: '/' :: _ => true
    | _ => false
  let roots := ((find? "CDPATH".toList s.bindings).bind (·.value)).getD []
  if direct || roots.isEmpty then [(path, false)]
  else
    (Bytes.split ':' roots).map (fun r =>
      (if r.isEmpty then path else r ++ ['/'] ++ path, !r.isEmpty)) ++ [(path, false)]

/-- The command `cd`. -/
def cdCommand (args : List Bytes) : Session Nat := do
  let (_, args) ← optionsOf "LP" args
  let s ← get
  let value (name : String) : Bytes := ((find? name.toList s.bindings).bind (·.value)).getD []
  let (path, shown) :=
    match args with
    | [] => (value "HOME", false)
    | ['-'] :: _ => (value "OLDPWD", true)
    | a :: _ => (a, false)
  match (directoriesFor s path).findSome? fun (p, shown) =>
      (s.directory? p).map fun place => (place, shown) with
  | none => fail ("can't cd to ".toList ++ path)
  | some (place, found) =>
    modify fun s => { s with place }
    setVariable "OLDPWD".toList (pathOf s.place)
    setVariable "PWD".toList (pathOf place)
    for name in ["OLDPWD", "PWD"] do
      changeVariable name.toList fun v => { v with exported := true }
    if shown || found then print (pathOf place ++ ['\n'])
    return 0

/-! ## Permissions and limits -/

/-- Three digits of base eight behind a zero. -/
def maskText (n : Nat) : Bytes :=
  let ds := Nat.toDigits 8 n
  List.replicate (4 - ds.length) '0' ++ ds

/-- The permissions that a mask leaves, in letters. -/
def maskLetters (n : Nat) : Bytes :=
  let letters (n : Nat) : Bytes :=
    (if n / 4 % 2 == 0 then ['r'] else []) ++ (if n / 2 % 2 == 0 then ['w'] else []) ++
      (if n % 2 == 0 then ['x'] else [])
  "u=".toList ++ letters (n / 64) ++ ",g=".toList ++ letters (n / 8) ++ ",o=".toList ++ letters n

/-- The command `umask`. -/
def umaskCommand (args : List Bytes) : Session Nat := do
  let (options, args) ← optionsOf "S" args
  match args with
  | [] =>
    let mask := (← get).mask
    print ((if options.isEmpty then maskText mask else maskLetters mask) ++ ['\n'])
  | a :: _ =>
    if a.head?.any Char.isDigit then
      if a.all fun c => '0' ≤ c && c ≤ '7' then
        let n := a.foldl (fun n c => 8 * n + (c.toNat - 48)) 0
        if 511 < n then illegalNumber a else modify fun s => { s with mask := n }
      else illegalNumber a
    else
      match Permissions.change? (511 - (← get).mask) a with
      | some kept => modify fun s => { s with mask := 511 - kept }
      | none => fail ("Illegal mode: ".toList ++ a)
  return 0

/-- The command `ulimit`. -/
def ulimitCommand (args : List Bytes) : Session Nat := do
  let (_, args) ← optionsOf "HSatfdscmlpnvwr" args
  if args.isEmpty then print "unlimited\n".toList
  return 0

end Vigil.Program.Shell
