import Vigil.Program.Shell.Builtin
import Vigil.Program.Shell.Redirect

/-!
# Running scripts

The commands of a script are run one after another; those in a pipeline or in the background run at
the same time, which a clock keeps track of.  The number that each function takes bounds how deep
commands are nested; a script in which that or the number of commands is used up has no end.
-/

namespace Vigil.Program.Shell

/-! ## Processes -/

/-- Do something and learn how it came to its end. -/
def observe {α : Type} (x : Session α) : Session (Except Departure α) :=
  ExceptT.mk fun s =>
    let (r, t) := x.run s
    (.ok r, t)

/-- Do something in a process of its own, of which only the world stays. -/
def inChild {α : Type} (adapt : State → State) (x : Session α) : Session α :=
  ExceptT.mk fun s =>
    let p := s.world.processes + 1
    let child := { s with
      process := p
      starter := s.process
      traps := s.traps.filter (·.2.isEmpty)
      world := { s.world with processes := p, shells := p :: s.world.shells } }
    let (r, t) := x.run (adapt child)
    (r, { s with world := { t.world with shells := t.world.shells.filter (· != p) } })

/-- The status of a process that has been waited for; the end by a signal is reported. -/
def statusOf (e : Ending) : Session Nat := do
  noticeJobs
  match e with
  | .exited n => return n
  | .killed n =>
    if Signal.isReported n then
      let _ ← write 2 ((Signal.report n).toList ++ ['\n'])
    return 128 + n

/-- A place where what is written is collected. -/
def newBuffer : Session Nat := do
  let n := (← get).world.places
  changeWorld fun w => { w with places := n + 1, buffers := put n [] w.buffers }
  return n

/-- What has been collected in a buffer, which can be read from some time on until another. -/
def bufferSupply (n ends : Nat) : Session Channel := do
  let w := (← get).world
  newSupply { chunks := w.collected n, ends := max ends (w.released (· == .buffer n)) }

/-- Count a command. -/
def countStep : Session Unit := do
  match (← get).world.steps with
  | 0 => throw .endless
  | n + 1 => changeWorld fun w => { w with steps := n }

/-! ## Parts of commands -/

/-- How a command stands in its script: whether its failure is looked at, and whether nothing comes
behind it, so that a program can take the place of the process. -/
structure Position where
  tested : Bool := false
  last : Bool := false

/-- The position of a command behind which there is more. -/
def Position.within (here : Position) : Position :=
  { here with last := false }

/-- The position of a condition. -/
def Position.condition : Position := ⟨true, false⟩

/-- Can a program take the place of the process?  Not if there is something to be done at a signal
or at the end. -/
def Position.gives (here : Position) (s : State) : Bool :=
  here.last && s.traps.all (·.2.isEmpty)

/-- The redirections that a command has for all of it, and the command without them. -/
def splitRedirections : Command → Command × List Redirection
  | .redirected body rs => (body, rs)
  | .subshell body rs => (body, rs)
  | .simple line assignments words rs => (.simple line assignments words [], rs)
  | c => (c, [])

/-- Do the arguments of a command that begins with these fields hold assignments? -/
def takesAssignments (s : State) (fields : List Bytes) : Bool :=
  match fields.dropWhile fun f => f == "command".toList || f.head? == some '-' with
  | name :: _ =>
    ["export", "readonly", "local", "alias"].any (·.toList == name) &&
      (find? name s.functions).isNone
  | [] => false

/-- The fields that the words of a command become. -/
def expandWords (capture : Command → Session Bytes) (fields : List Bytes) :
    List Word → Session (List Bytes)
  | [] => pure fields
  | w :: rest => do
    match if takesAssignments (← get) fields then assignment? w else none with
    | some (name, value) =>
      let value ← expandValue capture value
      expandWords capture (fields ++ [name ++ '=' :: value]) rest
    | none => expandWords capture (fields ++ (← expandFields capture w)) rest

/-- Set variables; if they are for one command only, the old ones are returned. -/
def assignAll (capture : Command → Session Bytes) (temporary : Bool) :
    List (Bytes × Word) → Session (List (Bytes × Option Variable) × List Bytes)
  | [] => pure ([], [])
  | (name, w) :: rest => do
    let value ← expandValue capture w
    let old := find? name (← get).bindings
    setVariable name value
    if temporary then changeVariable name fun v => { v with exported := true }
    let (kept, shown) ← assignAll capture temporary rest
    return (kept ++ [(name, old)], (name ++ '=' :: value) :: shown)

/-- Show a command before it is run, if that is wanted, where errors went before its
redirections. -/
def trace (capture : Command → Session Bytes) (streams : List (Nat × Channel))
    (fields : List Bytes) : Session Unit := do
  if (← hasOption 'x') && !fields.isEmpty then
    let text := (← valueOf? "PS4".toList).getD []
    let sign ←
      match Source.documentPieces text with
      | .ok (w, _) => expandDocument capture w
      | .error _ => pure text
    match find? 2 streams with
    | some c =>
      let _ ← writeTo c (sign ++ Bytes.joined [' '] fields ++ ['\n'])
    | none => pure ()

/-- Run a round of a loop; tells whether the loop goes on. -/
def round (body : Session Unit) : Session Bool := do
  match ← observe body with
  | .ok _ => return true
  | .error (.leaves n) => if n ≤ 1 then return false else throw (.leaves (n - 1))
  | .error (.again n) => if n ≤ 1 then return true else throw (.again (n - 1))
  | .error d => throw d

/-- Do something inside a loop. -/
def inLoop {α : Type} (x : Session α) : Session α := do
  modify fun s => { s with loops := s.loops + 1 }
  try x finally modify fun s => { s with loops := s.loops - 1 }

/-- Leave loops, or begin their next round. -/
def leaveLoops (again : Bool) (args : List Bytes) : Session Nat := do
  let n ←
    match args with
    | [] => pure 1
    | a :: _ => do
      let n ← numberOf a
      if n = 0 then illegalNumber a else pure n
  let loops := (← get).loops
  if loops = 0 then return 0
  else
    setStatus 0
    throw (if again then .again (min n loops) else .leaves (min n loops))

/-- Set the status to the number that an argument may be. -/
def statusFrom (args : List Bytes) : Session Unit := do
  match args with
  | [] => pure ()
  | a :: _ => setStatus (← numberOf a)

/-! ## Starting shells -/

/-- How a shell is started: options, and perhaps that the first argument is a script. -/
structure ShellOptions where
  letters : List (Char × Bool) := []
  command : Bool := false
  arguments : List Bytes := []

/-- Read the letters of an option of a shell. -/
def readShellLetters (on : Bool) (o : ShellOptions) :
    Bytes → List Bytes → Except Bytes (ShellOptions × List Bytes)
  | [], args => .ok (o, args)
  | c :: rest, args =>
    if c == 'c' then readShellLetters on { o with command := true } rest args
    else if c == 'l' then readShellLetters on o rest args
    else if c == 'o' then
      match args with
      | [] => readShellLetters on o rest []
      | a :: args =>
        match optionNames.find? (·.1.toList == a) with
        | some (_, some d) =>
          readShellLetters on { o with letters := o.letters ++ [(d, on)] } rest args
        | some (_, none) => readShellLetters on o rest args
        | none => .error ("Illegal option -o ".toList ++ a)
    else if optionNames.any (·.2 == some c) then
      readShellLetters on { o with letters := o.letters ++ [(c, on)] } rest args
    else .error ("Illegal option -".toList ++ [c])

/-- Read the options of a shell.  The number bounds the arguments. -/
def readShellOptions : Nat → ShellOptions → List Bytes → Except Bytes ShellOptions
  | 0, o, args => .ok { o with arguments := args }
  | n + 1, o, args =>
    match args with
    | ['-'] :: rest | ['-', '-'] :: rest => .ok { o with arguments := rest }
    | ('-' :: letters) :: rest => do
      let (o, rest) ← readShellLetters true o letters rest
      readShellOptions n o rest
    | ('+' :: letters) :: rest => do
      let (o, rest) ← readShellLetters false o letters rest
      readShellOptions n o rest
    | _ => .ok { o with arguments := args }

/-- The variables of a new shell, with those that it inherits. -/
def firstVariables (place : List String) (parent : Nat) (inherited : List (Bytes × Bytes)) :
    List (Bytes × Variable) :=
  let own : List (String × Bytes) :=
    [("IFS", blanks), ("OPTIND", ['1']), ("PS1", "# ".toList), ("PS2", "> ".toList),
      ("PS4", "+ ".toList), ("PPID", decimal parent)]
  let inherited := inherited.filter fun v => !own.any fun o => o.1.toList == v.1
  inherited.foldl (fun vs (name, value) => put name ⟨some value, true, false⟩ vs)
    (put "PWD".toList ⟨some (pathOf place), true, false⟩
      (own.map fun (name, value) => (name.toList, ⟨some value, false, false⟩)))

/-- The state of a process in which a program begins that does not share the state. -/
def State.fresh (s : State) (parent : Nat) : State where
  world := s.world
  name := s.name
  arguments := []
  process := s.process
  starter := parent
  self := s.process
  parent := parent
  bindings := firstVariables s.place parent s.exported
  streams := s.streams
  traps := s.traps.filter (·.2.isEmpty)
  place := s.place
  mask := s.mask

/-- What a shell is to do: a script with its name and arguments; or a complaint, with a status. -/
def shellPlan (shell : Bytes) (o : ShellOptions) : Session (Except Bytes (Bytes × Bytes × List Bytes)) := do
  match o.command, o.arguments with
  | true, [] => return .error "-c requires an argument".toList
  | true, [script] => return .ok (script, shell, [])
  | true, script :: name :: args => return .ok (script, name, args)
  | false, path :: args =>
    if o.letters.contains ('s', true) then return .ok (← readAllFrom 0, shell, path :: args)
    let s ← get
    match s.lookup path with
    | some (place, .file _ text) => return .ok (s.contents place text, path, args)
    | some (_, .directory) => return .ok ([], path, args)
    | none => return .error ("cannot open ".toList ++ path ++ ": No such file".toList)
  | false, [] =>
    setOption 's' true
    return .ok (← readAllFrom 0, shell, [])

/-- The program that is to run a script and its argument, if the first line of the script says so. -/
def interpreter? (text : Bytes) : Option (Bytes × List Bytes) :=
  let isBlank (c : Char) : Bool := c == ' ' || c == '\t'
  match text with
  | '#' :: '!' :: rest =>
    let line := (rest.takeWhile (· != '\n')).dropWhile isBlank
    let path := line.takeWhile fun c => !isBlank c
    let behind := (line.drop path.length).dropWhile isBlank
    let option := (behind.reverse.dropWhile isBlank).reverse
    if path.isEmpty then none else some (path, if option.isEmpty then [] else [option])
  | _ => none

/-! ## Commands -/

mutual

/-- Run a text as a script, line by line. -/
def runText : Nat → Position → Bytes → Session Unit
  | 0, _, _ => throw .endless
  | n + 1, here, text => do
    let mut source : Source := { rest := text }
    let mut ran := false
    for _ in [0:text.length + 2] do
      let s ← get
      match ({ source with documents := s.documents, aliases := s.aliases } : Source).nextLine with
      | .error f =>
        modify fun s => { s with line := f.line }
        fail ("Syntax error: ".toList ++ f.message.toList)
      | .ok (c, rest) =>
        modify fun s => { s with documents := rest.documents }
        source := rest
        match c with
        | some c =>
          ran := true
          runCommand n here.within c
        | none => pure ()
        if rest.isAtEnd then break
    if !ran then setStatus 0

/-- Do what is to be done at signals that have come. -/
def minds : Nat → Session Unit
  | 0 => pure ()
  | n + 1 => do
    let s ← get
    if !s.world.signals.isEmpty then
      let due (e : Nat × Nat × Nat) : Bool := e.1 ≤ s.world.clock && e.2.1 == s.process
      changeWorld fun w => { w with signals := w.signals.filter fun e => !due e }
      for (_, _, signal) in s.world.signals.filter due do
        match if Signal.canBeExpected signal then find? signal s.traps else none with
        | some action =>
          let status := (← get).status
          runText n {} action
          setStatus status
        | none =>
          match Signal.effect signal with
          | .ends => throw (.killed signal)
          | .stops => throw .endless
          | .none => pure ()

/-- Run a script to its end, with what it wants to be done there. -/
def runToEnd : Nat → Session Unit → Session Ending
  | 0, _ => throw .endless
  | n + 1, body => do
    match ← observe body with
    | .error .endless => throw .endless
    | .error (.killed signal) => return .killed signal
    | _ =>
      let s ← get
      match find? 0 s.traps with
      | none => return .exited (s.status % 256)
      | some action =>
        modify fun s => { s with traps := s.traps.filter (·.1 != 0) }
        match ← observe (runText n {} action) with
        | .error .endless => throw .endless
        | .error (.killed signal) => return .killed signal
        | .error .ended | .error .mistake => return .exited ((← get).status % 256)
        | _ => return .exited (s.status % 256)

/-- Run a script and take what it writes. -/
def capture : Nat → Command → Session Bytes
  | 0, _ => throw .endless
  | n + 1, c => do
    let b ← newBuffer
    let ending ← inChild (fun s => { s with streams := put 1 (.buffer b) s.streams })
      (runToEnd n (runCommand n { last := true } c))
    waitUntil ((← get).world.released (· == .buffer b))
    let status ← statusOf ending
    modify fun s => { s with outputStatus := some status }
    return ((← get).world.collected b).flatMap (·.2)

/-- Run a command. -/
def runCommand : Nat → Position → Command → Session Unit
  | 0, _, _ => throw .endless
  | n + 1, here, c => do
    let done (status : Nat) (counts : Bool) : Session Unit := do
      setStatus status
      minds n
      if counts && !here.tested && status != 0 && (← hasOption 'e') then throw .ended
    if ← hasOption 'n' then return
    match c with
    | .nothing => setStatus 0
    | .simple line assignments words rs =>
      done (← runSimple n here line assignments words rs) true
    | .redirected body rs =>
      let streams := (← get).streams
      let status ← redirect (capture n) rs
      if status = 0 then
        try runCommand n here.within body finally modify fun s => { s with streams }
      else
        modify fun s => { s with streams }
        done status false
    | .pipeline commands => done (← runPipeline n here commands) true
    | .negate body =>
      runCommand n .condition body
      done (if (← get).status = 0 then 1 else 0) false
    | .both a b =>
      runCommand n .condition a
      if (← get).status = 0 then runCommand n here b
    | .either a b =>
      runCommand n .condition a
      if (← get).status != 0 then runCommand n here b
    | .sequence a b =>
      runCommand n here.within a
      runCommand n here b
    | .background body =>
      runInBackground n body
      done 0 false
    | .subshell body rs =>
      let inside : Position := { here with last := true }
      if here.gives (← get) then
        let status ← redirect (capture n) rs
        if status = 0 then runCommand n inside body else setStatus status
        throw .ended
      let ending ← inChild id do
        let status ← redirect (capture n) rs
        if status = 0 then runToEnd n (runCommand n inside body) else return .exited status
      done (← statusOf ending) true
    | .ifThen condition yes no =>
      runCommand n .condition condition
      if (← get).status = 0 then runCommand n here yes else runCommand n here no
    | .loop wanted condition body => inLoop do
      let mut last := 0
      for _ in [0:(← get).world.steps + 2] do
        countStep
        let mut goesOn := false
        match ← observe (runCommand n .condition condition) with
        | .ok _ => goesOn := ((← get).status == 0) == wanted
        | .error d =>
          if ← round (throw d) then
            last := 0
            continue
          else
            last := (← get).status
            break
        if !goesOn then break
        let stays ← round (runCommand n here.within body)
        last := (← get).status
        if !stays then break
      done last false
    | .forEach line name words body =>
      modify fun s => { s with line }
      let mut values := []
      for w in words do
        values := values ++ (← expandFields (capture n) w)
      setStatus 0
      inLoop do
        for v in values do
          countStep
          setVariable name v
          if !(← round (runCommand n here.within body)) then break
      done (← get).status false
    | .select line subject cases =>
      modify fun s => { s with line }
      let text ← expandText (capture n) subject
      let mut chosen := Command.nothing
      for (patterns, body) in cases do
        let mut found := false
        for p in patterns do
          if !found then
            found := fits (← expandPattern (capture n) p) text
        if found then
          chosen := body
          break
      runCommand n here chosen
    | .function name body =>
      modify fun s => { s with functions := put name body s.functions }
      setStatus 0

/-- Run a simple command. -/
def runSimple : Nat → Position → Nat → List (Bytes × Word) → List Word → List Redirection → Session Nat
  | 0, _, _, _, _, _ => throw .endless
  | n + 1, here, line, assignments, words, rs => do
    countStep
    modify fun s => { s with line, outputStatus := none }
    let fields ← expandWords (capture n) [] words
    let s ← get
    let special := fields.head?.any isSpecialCommand
    let status ← redirect (capture n) rs
    let keepsStreams := fields == ["exec".toList]
    let restoreStreams : Session Unit := modify fun t => { t with streams := s.streams }
    if status != 0 then
      restoreStreams
      if special then
        setStatus status
        throw .mistake
      return status
    try
      let temporary := !fields.isEmpty && !special
      let (kept, shown) ← assignAll (capture n) temporary assignments
      try
        trace (capture n) s.streams (shown ++ fields)
        if fields.isEmpty then return (← get).outputStatus.getD 0
        else runFields n here true fields
      finally
        if temporary then restoreVariables kept
    finally
      if !keepsStreams then restoreStreams

/-- Run a command by its name and arguments. -/
def runFields : Nat → Position → Bool → List Bytes → Session Nat
  | 0, _, _, _ => throw .endless
  | _ + 1, _, _, [] => pure 0
  | n + 1, here, functions, name :: args => do
    match meaningOf (← get) functions name with
    | .function body => runFunction n here body args
    | .builtin => runBuiltin n here name args
    | .program path program =>
      remember name path
      let name := if program matches .script _ then path else name
      if here.gives (← get) then runInPlace n program name args
      else statusOf (← inChild id (runProgram n (← get).process program name args))
    | .refused =>
      complain (name ++ ": Permission denied".toList)
      return if name.contains '/' then 126 else 127
    | .missing =>
      complain (name ++ (if name.isEmpty then ": Permission denied" else ": not found").toList)
      return 127

/-- Run a function. -/
def runFunction : Nat → Position → Command → List Bytes → Session Nat
  | 0, _, _, _ => throw .endless
  | n + 1, here, body, args => do
    let s ← get
    if 1000 ≤ s.locals.length then
      fail "Maximum function recursion depth (1000) reached".toList
    modify fun s =>
      { s with
        arguments := args
        optionIndex := 1
        optionOffset := none
        locals := [] :: s.locals
        loops := 0 }
    let result ← observe (runCommand n here.within body)
    restoreVariables ((← get).locals.headD [])
    modify fun t =>
      { t with
        arguments := s.arguments
        optionIndex := s.optionIndex
        optionOffset := s.optionOffset
        locals := s.locals
        loops := s.loops }
    match result with
    | .ok _ | .error .returns => return (← get).status
    | .error d => throw d

/-- Run a command of the shell. -/
def runBuiltin : Nat → Position → Bytes → List Bytes → Session Nat
  | 0, _, _, _ => throw .endless
  | n + 1, here, name, args => do
    let s ← get
    modify fun s => { s with command := some name, unwritten := false }
    let body : Session Nat := do
      match String.ofList name with
      | "exit" =>
        statusFrom args
        throw .ended
      | "return" =>
        statusFrom args
        throw .returns
      | "break" => leaveLoops false args
      | "continue" => leaveLoops true args
      | "eval" =>
        runText n here.within (Bytes.joined [' '] args)
        return (← get).status
      | "." => runFile n here args
      | "command" =>
        let (options, rest) ← optionsOf "pvV" args
        modify fun t => { t with command := s.command }
        match rest, options.find? fun o => o.1 != 'p' with
        | name :: _, some (letter, _) => describe (letter == 'V') name
        | _, some _ => return 0
        | _, none => runFields n here false rest
      | "exec" => runInstead n args
      | text =>
        match quietCommands.find? (·.1 == text) with
        | some (_, command) => command args
        | none => return 0
    let result ← observe body
    if (← get).unwritten then complain (name ++ ": I/O error".toList)
    let unwritten := (← get).unwritten
    modify fun t => { t with command := s.command, unwritten := s.unwritten }
    match result with
    | .ok status => return if unwritten then max status 1 else status
    | .error .mistake => if isSpecialCommand name then throw .mistake else return 2
    | .error d => throw d

/-- Run a file as a part of the script. -/
def runFile : Nat → Position → List Bytes → Session Nat
  | 0, _, _ => throw .endless
  | n + 1, here, args => do
    match ← withoutOptions args with
    | [] => return 0
    | name :: _ =>
      let s ← get
      let path? :=
        if name.contains '/' then some name
        else (s.searchPath.map fun d => d ++ ['/'] ++ name).find? fun p =>
          match s.lookup p with
          | some (_, .file _ _) => true
          | _ => false
      match path? with
      | none => fail (name ++ ": not found".toList)
      | some path =>
        let text ←
          match s.lookup path, deviceChannel? s path with
          | some (place, .file _ text), _ => pure (s.contents place text)
          | some (_, .directory), _ => pure []
          | none, some (some (.source _)) => readAllFrom 0
          | none, some _ => pure []
          | none, none => fail ("cannot open ".toList ++ path ++ ": No such file".toList)
        modify fun s => { s with command := some path }
        match ← observe (runText n here.within text) with
        | .ok _ | .error .returns => return (← get).status
        | .error d => throw d

/-- Run a program in place of the script; without a program, only redirections last. -/
def runInstead : Nat → List Bytes → Session Nat
  | 0, _ => throw .endless
  | n + 1, args => do
    let stop (status : Nat) (message : String) (name : Bytes) : Session Nat := do
      complain (name ++ message.toList)
      setStatus status
      throw .ended
    match args with
    | [] => return 0
    | name :: rest =>
      match programOf (← get) name with
      | .program _ program => runInPlace n program name rest
      | .refused => stop 126 ": Permission denied" name
      | _ => stop 127 ": not found" name

/-- Run a program in place of all that the process still had to do. -/
def runInPlace : Nat → Executable → Bytes → List Bytes → Session Nat
  | 0, _, _, _ => throw .endless
  | n + 1, program, name, args => do
    match ← runProgram n (← get).starter program name args with
    | .exited status =>
      setStatus status
      modify fun s => { s with traps := [] }
      throw .ended
    | .killed signal => throw (.killed signal)

/-- Run a program in the present process. -/
def runProgram : Nat → Nat → Executable → Bytes → List Bytes → Session Ending
  | 0, _, _, _, _ => throw .endless
  | n + 1, parent, program, name, args => do
    match program with
    | .tool "sh" | .tool "dash" | .tool "bash" =>
      modify fun s => s.fresh parent
      runShell n name args
    | .tool "env" => runWithVariables n parent name args
    | .tool tool =>
      match ← observe (Tool.run tool.toList name args) with
      | .ok status => return .exited status
      | .error .endless => throw .endless
      | .error _ => return .exited 1
    | .script text =>
      match interpreter? text with
      | none =>
        modify fun s => s.fresh parent
        runShell n "/bin/sh".toList (name :: args)
      | some (path, options) =>
        match programAt (← get) path with
        | .program _ program => runProgram n parent program path (options ++ name :: args)
        | .refused =>
          complain (name ++ ": Permission denied".toList)
          return .exited 126
        | _ =>
          complain (name ++ ": not found".toList)
          return .exited 127

/-- Run a program with other variables, or show them. -/
def runWithVariables : Nat → Nat → Bytes → List Bytes → Session Ending
  | 0, _, _, _ => throw .endless
  | n + 1, parent, name, args => do
    match args with
    | ['-', 'i'] :: rest | ['-'] :: rest =>
      modify fun s => { s with bindings := [] }
      runWithVariables n parent name rest
    | ['-', 'u'] :: v :: rest =>
      modify fun s => { s with bindings := s.bindings.filter (·.1 != v) }
      runWithVariables n parent name rest
    | ['-', '-'] :: rest => runWithVariables n parent name rest
    | [] =>
      for (v, value) in (← get).exported do
        print (v ++ ['='] ++ value ++ ['\n'])
      return .exited 0
    | a :: rest =>
      match splitAssignment a with
      | (v, some value) =>
        modify fun s => { s with bindings := put v ⟨some value, true, false⟩ s.bindings }
        runWithVariables n parent name rest
      | (_, none) =>
        match programOf (← get) a with
        | .program _ program => runProgram n parent program a rest
        | .refused =>
          Tool.complain name (Tool.quoted a ++ ": Permission denied".toList)
          return .exited 126
        | _ =>
          Tool.complain name (Tool.quoted a ++ ": No such file or directory".toList)
          return .exited 127

/-- Run a shell in the present process. -/
def runShell : Nat → Bytes → List Bytes → Session Ending
  | 0, _, _ => throw .endless
  | n + 1, name, args => do
    let mistake (m : Bytes) : Session Ending := do
      let _ ← write 2 (name ++ ": 0: ".toList ++ m ++ ['\n'])
      return .exited 2
    match readShellOptions (args.length + 1) {} args with
    | .error m => mistake m
    | .ok o =>
      match ← shellPlan name o with
      | .error m => mistake m
      | .ok (script, name, args) =>
        for (c, on) in o.letters do
          setOption c on
        modify fun s => { s with name, arguments := args }
        let ending ← runToEnd n (runText n {} script)
        if (← get).unending then throw .endless
        return ending

/-- Run commands of which each reads what the one before writes. -/
def runPipeline : Nat → Position → List Command → Session Nat
  | 0, _, _ => throw .endless
  | n + 1, here, commands => do
    let start := (← get).world.clock
    let mut input : Option Channel := none
    let mut finished := start
    let mut status := 0
    let mut left := commands.length
    for c in commands do
      left := left - 1
      let steps := (← get).world.steps
      changeWorld fun w => { w with clock := start }
      let b ← newBuffer
      let streams (s : State) : List (Nat × Channel) :=
        let streams := if left = 0 then s.streams else put 1 (.buffer b) s.streams
        match input with
        | some source => put 0 source streams
        | none => streams
      let result ← observe (inChild (fun s => { s with streams := streams s })
        (runToEnd n (runCommand n { here with last := true } c)))
      let mut ends := (← get).world.clock
      match result with
      | .ok ending =>
        status ← statusOf ending
        finished := max finished ends
      | .error _ =>
        if left = 0 || ((← get).world.collected b).isEmpty then throw .endless
        ends := forever
        changeWorld fun w => { w with steps }
      input := some (← bufferSupply b ends)
    changeWorld fun w => { w with clock := finished }
    return status

/-- Run a command in the background. -/
def runInBackground : Nat → Command → Session Unit
  | 0, _ => throw .endless
  | n + 1, c => do
    let s ← get
    let process := s.world.processes + 1
    let isFree (n : Nat) : Bool := s.ownJobs.all fun j => j.number != n || j.waited
    let number := ((List.range (s.ownJobs.length + 1)).find? fun n => isFree (n + 1)).getD 0 + 1
    let (body, rs) := splitRedirections c
    let job ← inChild (fun s => { s with streams := put 0 .nothing s.streams }) do
      let status ← redirect (capture n) rs
      let channels := (← get).streams.map (·.2)
      let job (ends status : Nat) (signal : Option Nat) : Session Job := do
        return {
          owner := s.process, number, process, last := (← get).world.processes, ends, status,
          signal, channels }
      if status != 0 then job s.world.clock status none
      else
        match ← observe (runToEnd n (runCommand n { last := true } body)) with
        | .ok (.exited status) => job (← get).world.clock status none
        | .ok (.killed signal) => job (← get).world.clock (128 + signal) (some signal)
        | .error _ => job forever 0 none
    changeWorld fun w =>
      let others := w.jobs.filter fun j => j.owner != s.process || j.number != number
      { w with clock := s.world.clock, steps := s.world.steps, jobs := job :: others }
    modify fun s => { s with lastJob := some process }

end

/-! ## Programs -/

/-- How deep commands may be nested. -/
def nesting : Nat := 30000

/-- The state of a program that has been started with nothing to read. -/
def firstState (files : FileSystem) : State where
  world := { files, steps := 100000 }
  name := []
  arguments := []
  process := 1001
  starter := callerNumber
  self := 1001
  parent := callerNumber
  bindings :=
    [("HOME", "/root".toList), ("PATH", Bytes.joined [':'] (files.searchPath.map String.toList))].map
      fun (name, value) => (name.toList, ⟨some value, true, false⟩)
  streams := [(0, .source 0), (1, .output), (2, .errorOutput)]
  place := files.workingDirectory

/-- What has been done in a world, in the order of time. -/
def World.execution (w : World) (ending : Ending) (lasts : Nat) : Execution where
  events := (w.events.reverse.mergeSort fun a b => a.1 ≤ b.1).map fun e => (e.1, e.2.2)
  duration := max lasts (w.released fun c => c == .output || c == .errorOutput)
  ending := ending

/-- Run a program by its name, as it is called, with its arguments. -/
def execute (files : FileSystem) (program name : String) (args : List (List Char)) : Execution :=
  let body := runProgram nesting callerNumber (.tool program) (Bytes.ofText name.toList) (args.map Bytes.ofText)
  match body.run (firstState files) with
  | (.ok ending, s) => s.world.execution ending s.world.clock
  | (.error _, s) => s.world.execution (.exited 0) forever

end Vigil.Program.Shell
