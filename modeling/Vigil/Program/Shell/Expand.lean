import Vigil.Program.Shell.Arithmetic
import Vigil.Program.Shell.Fields
import Vigil.Program.Shell.State

/-!
# Replacing the pieces of words

Parameters, outputs of scripts and expressions in a word are replaced by what they stand for.  How a
script is run to have its output is left open here: it is an argument of `expandPieces`.

A field that is a pattern stands for the paths of the files that fit it, part by part, in their
order.  A name that begins with a dot fits only a pattern that begins with one.
-/

namespace Vigil.Program.Shell

/-! ## Paths that fit a pattern -/

/-- The parts of a pattern between slashes. -/
def patternParts (w : List Marked) : List (List Marked) :=
  w.foldr (fun m parts =>
    match parts with
    | [] => if m.1 == '/' then [[], []] else [[m]]
    | p :: rest => if m.1 == '/' then [] :: p :: rest else (m :: p) :: rest) [[]]

/-- The text that a part without signs of patterns stands for. -/
def literalText : List Marked → Bytes
  | ('\\', false) :: (c, _) :: rest => c :: literalText rest
  | (c, _) :: rest => c :: literalText rest
  | [] => []

/-- The names in a directory that fit a part of a pattern. -/
def namesThatFit (s : State) (directory : Bytes) (part : List Marked) : List Bytes :=
  match s.lookup (if directory.isEmpty then ['.'] else directory) with
  | some (place, .directory) =>
    let hidden := part.head?.map (·.1) == some '.'
    ((if hidden then [['.'], ['.', '.']] else []) ++ s.namesIn place).filter fun n =>
      (hidden || n.head? != some '.') && fits part n
  | _ => []

/-- The paths that fit the parts of a pattern behind a path. -/
def pathsThatFit (s : State) : List (List Marked) → Bytes → List Bytes
  | [], _ => []
  | [part], path =>
    if isPattern part then (namesThatFit s path part).map (path ++ ·)
    else
      let path := path ++ literalText part
      if (s.lookup path).isSome then [path] else []
  | part :: rest, path =>
    if isPattern part then
      (namesThatFit s path part).flatMap fun n => pathsThatFit s rest (path ++ n ++ ['/'])
    else pathsThatFit s rest (path ++ literalText part ++ ['/'])

/-- Is a text at most another one, by the numbers of their characters? -/
def bytesLe : Bytes → Bytes → Bool
  | [], _ => true
  | _ :: _, [] => false
  | a :: s, b :: t => a < b || (a == b && bytesLe s t)

/-- The fields that a field stands for: paths, or itself if none fits. -/
def fieldsOf (s : State) (field : List Marked) : List Bytes :=
  if s.options.contains 'f' || !isPattern field then [unmarked field]
  else
    match (pathsThatFit s (patternParts field) []).mergeSort bytesLe with
    | [] => [unmarked field]
    | paths => paths

/-! ## Places -/

/-- Where pieces stand: whether the word may become several fields, whether they are quoted, and
whether they belong to a word that takes part in a parameter. -/
structure Place where
  fields : Bool := false
  quoted : Bool := false
  inner : Bool := false

/-- Where a tilde may stand for a directory: nowhere, at the beginning of a word, or also behind
every colon. -/
inductive Tilde where
  | nowhere | start | colons
deriving DecidableEq, Repr

/-! ## Parameters -/

/-- What separates arguments that are joined: the first separator, or a blank. -/
def joiner : Session Bytes := do
  match ← separators with
  | none => return [' ']
  | some s => return s.take 1

/-- The letters of options, in the order in which they are shown. -/
def optionLetters : List Char := "pubaCEVvxsnmiIfe".toList

/-- The value of a parameter.  Where there may be several fields, arguments have zero bytes between
them, unless they are to be joined. -/
def parameterValue? (p : Place) (name : Bytes) : Session (Option Bytes) := do
  let s ← get
  match name with
  | ['@'] =>
    let between ← if p.fields then pure ['\x00'] else joiner
    return some (Bytes.joined between s.arguments)
  | ['*'] =>
    let between ← if p.fields && !p.quoted then pure ['\x00'] else joiner
    return some (Bytes.joined between s.arguments)
  | ['#'] => return some (decimal s.arguments.length)
  | ['?'] => return some (decimal s.status)
  | ['$'] => return some (decimal s.self)
  | ['!'] => return s.lastJob.map decimal
  | ['-'] => return some (optionLetters.filter s.options.contains)
  | ['0'] => return some s.name
  | _ =>
    if name.all Char.isDigit then return s.arguments[Nat.ofDigitChars 10 name 0 - 1]?
    else valueOf? name

/-- The length of the value of a parameter. -/
def parameterLength? (name : Bytes) : Session (Option Nat) := do
  let value ← parameterValue? {} (if name = ['@'] then ['*'] else name)
  return value.map List.length

/-- The part that a value becomes. -/
def valuePart (p : Place) (name value : Bytes) : Session Part := do
  if p.quoted then
    if name = ['@'] && p.fields && !(← get).arguments.isEmpty then return .arguments value
    else return .fixed (quotedText value)
  else if p.fields then return .loose value
  else return .fixed (plainChars value)

/-- Give up because a parameter has no value. -/
def parameterNotSet {α : Type} (name : Bytes) : Session α :=
  fail (name ++ ": parameter not set".toList)

/-- Give up if a parameter without a value is a mistake. -/
def checkSet (name : Bytes) : Session Unit := do
  if (← hasOption 'u') then parameterNotSet name

/-! ## Tildes -/

/-- The directory of a user. -/
def homeOf? (s : State) (user : Bytes) : Option Bytes :=
  if user.isEmpty then (find? "HOME".toList s.bindings).bind (·.value)
  else if user = "root".toList then some "/root".toList
  else none

/-- Replace tildes in a text by directories; `skip` characters belong to the last one, `fresh` says
whether a tilde may stand here, and `last` whether the word ends with the text. -/
def replaceTildes (s : State) (colons last : Bool) : Nat → Bool → Bytes → List Marked
  | _, _, [] => []
  | skip + 1, _, _ :: rest => replaceTildes s colons last skip false rest
  | 0, fresh, c :: rest =>
    let ends (c : Char) : Bool := c == '/' || (colons && c == ':')
    let user := rest.takeWhile fun c => !ends c
    let home := if fresh && c == '~' && (last || user.length < rest.length) then homeOf? s user else none
    match home with
    | some h => quotedText h ++ replaceTildes s colons last user.length false rest
    | none => (c, false) :: replaceTildes s colons last 0 (colons && c == ':') rest

/-- The parts that a text becomes that is not quoted. -/
def textParts (p : Place) (t : Tilde) (first last : Bool) (s : Bytes) : Session (List Part) := do
  let loose (s : Bytes) : Part :=
    if p.inner && p.fields && !p.quoted then .loose s else .fixed (plainChars s)
  if t == .nowhere || !s.contains '~' then return [loose s]
  else
    let cs := replaceTildes (← get) (t == .colons) last 0 first s
    if cs.any (·.2) || cs.map (·.1) != s then return [.fixed cs] else return [loose s]

/-! ## Arithmetic -/

/-- The number that a value is in an expression. -/
def arithmeticValue (value : Bytes) : Session Int := do
  let r := Format.readSigned value
  if value.all Format.isBlank then return 0
  else if r.found && r.inRange && r.rest.all Format.isBlank then return r.value
  else illegalNumber value

/-- Work out an expression. -/
def evaluate (text : Bytes) : Session Int := do
  let mistake (m : String) : Session Int :=
    fail ("arithmetic expression: ".toList ++ m.toList ++ [':', ' ', '"'] ++ text ++ ['"'])
  match Arithmetic.parse text with
  | .error m => mistake m
  | .ok e =>
    e.evaluate
      { lookup := fun name => do arithmeticValue ((← valueOf? name).getD [])
        assign := fun name n => setVariable name (toString n).toList
        noValue := mistake }

/-! ## Pieces -/

/-- What a script has written, as it takes part in a word: without line ends at its end and without
zero bytes. -/
def asOutput (b : Bytes) : Bytes :=
  ((b.filter (· != '\x00')).reverse.dropWhile (· == '\n')).reverse

/-- Are these pieces the arguments, each a field of its own? -/
def isArgumentList : List Piece → Bool
  | [.parameter ['@'] .plain] => true
  | _ => false

mutual

/-- The parts that pieces become. -/
def expandPieces (capture : Command → Session Bytes) (p : Place) (t : Tilde) (first : Bool) :
    List Piece → Session (List Part)
  | [] => pure []
  | piece :: rest => do
    let parts ← expandPiece capture p t first rest.isEmpty piece
    return parts ++ (← expandPieces capture p t false rest)

/-- The parts that a piece becomes. -/
def expandPiece (capture : Command → Session Bytes) (p : Place) (t : Tilde) (first last : Bool) :
    Piece → Session (List Part)
  | .text s quoted =>
    if quoted || p.quoted then pure [.mark, .fixed (quotedText s)] else textParts p t first last s
  | .quotes inside => do
    let parts ← expandPieces capture { p with quoted := true } .nowhere false inside
    return if isArgumentList inside then parts else .mark :: parts
  | .parameter name change => expandChange capture p name change
  | .output script => do
    let text := asOutput (← capture script)
    return [← valuePart p [] text]
  | .arithmetic expression => do
    let parts ← expandPieces capture { quoted := true } .nowhere false expression
    let n ← evaluate (unmarked (joinedChars parts))
    return [← valuePart p [] (toString n).toList]

/-- The parts that a parameter becomes. -/
def expandChange (capture : Command → Session Bytes) (p : Place) (name : Bytes) :
    Change → Session (List Part)
  | .unknown => fail "Bad substitution".toList
  | .plain => do
    match ← parameterValue? p name with
    | some v => return [← valuePart p name v]
    | none => do
      checkSet name
      return []
  | .length => do
    match ← parameterLength? name with
    | some n => return [← valuePart p [] (decimal n)]
    | none => do
      checkSet name
      return [← valuePart p [] ['0']]
  | .replace kind emptyToo w => do
    let value ← parameterValue? p name
    let value := if emptyToo && value == some [] then none else value
    let inner : Place := { p with inner := true }
    match kind, value with
    | .instead, none => return []
    | .instead, some _ => expandPieces capture inner .start true w
    | _, some v => return [← valuePart p name v]
    | .standIn, none => expandPieces capture inner .start true w
    | .assigned, none => do
      let parts ← expandPieces capture { quoted := p.quoted } .start true w
      if !isName name then fail (name ++ ": bad variable name".toList)
      setVariable name (unmarked (joinedChars parts))
      return [← valuePart p name (unmarked (joinedChars parts))]
    | .complaint, none => do
      let parts ← expandPieces capture { quoted := p.quoted } .start true w
      let message :=
        if !w.isEmpty then unmarked (joinedChars parts)
        else if emptyToo then "parameter not set or null".toList
        else "parameter not set".toList
      fail (name ++ [':', ' '] ++ message)
  | .cut atEnd longest pattern => do
    match ← parameterValue? p name with
    | some v => do
      let parts ← expandPieces capture {} .start true pattern
      return [← valuePart p name (cutPattern atEnd longest (joinedChars parts) v)]
    | none => do
      checkSet name
      return []

end

/-! ## Words -/

/-- The fields that a word becomes. -/
def expandFields (capture : Command → Session Bytes) (w : Word) : Session (List Bytes) := do
  let parts ← expandPieces capture { fields := true } .start true w
  let fields := breakUp ((← separators).getD blanks) none parts
  return fields.flatMap (fieldsOf (← get))

/-- What a word becomes that is one field, as a pattern. -/
def expandPattern (capture : Command → Session Bytes) (w : Word) : Session (List Marked) := do
  return joinedChars (← expandPieces capture {} .start true w)

/-- What a word becomes that is one field. -/
def expandText (capture : Command → Session Bytes) (w : Word) : Session Bytes := do
  return unmarked (← expandPattern capture w)

/-- What a word becomes that is the value of a variable. -/
def expandValue (capture : Command → Session Bytes) (w : Word) : Session Bytes := do
  return unmarked (joinedChars (← expandPieces capture {} .colons true w))

/-- What the text of a document becomes. -/
def expandDocument (capture : Command → Session Bytes) (w : Word) : Session Bytes := do
  return unmarked (joinedChars (← expandPieces capture { quoted := true } .nowhere false w))

end Vigil.Program.Shell
