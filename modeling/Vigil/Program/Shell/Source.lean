import Vigil.Program.Shell.Syntax

/-!
# Reading scripts: characters and tokens

The text that is still to be read, with the number of its line, and the tokens that commands are made
of.  A document that stands in the script is announced in one line and read behind its end.
-/

namespace Vigil.Program.Shell

/-- What a redirection does, as it is written. -/
inductive Redirect where
  | file (mode : OpenMode)
  | duplicate
  /-- A document in the script, whose lines may begin with tabs that do not count. -/
  | document (tabs : Bool)
deriving DecidableEq, Repr

/-- What commands are made of. -/
inductive Token where
  | word (w : Word)
  | reserved (w : String)
  | redirect (stream : Nat) (r : Redirect)
  | operator (s : String)
  | newline
  | endOfText

/-- Whether a token is a given reserved word. -/
def Token.isReserved (w : String) : Token → Bool
  | reserved v => v == w
  | _ => false

/-- How a token is called in a complaint. -/
def Token.shown : Token → String
  | word _ => "word"
  | reserved w => s!"\"{w}\""
  | redirect _ _ => "redirection"
  | operator s => s!"\"{s}\""
  | newline => "newline"
  | endOfText => "end of file"

/-- Does the token end a list of commands inside another command? -/
def Token.endsList : Token → Bool
  | endOfText => true
  | operator s => s == ")" || s == ";;"
  | reserved w => ["then", "else", "elif", "fi", "do", "done", "esac", "\x7d"].contains w
  | _ => false

/-- A document that has been announced: its number, the line that ends it, whether its text is taken
as it is, and whether tabs at the beginning of its lines count. -/
structure Announced where
  number : Nat
  delimiter : Bytes
  verbatim : Bool
  tabs : Bool
deriving DecidableEq, Repr

/-- What is still to be read of a script. -/
structure Source where
  rest : Bytes
  line : Nat := 1
  /-- A token that has been read and given back. -/
  ahead : Option Token := none
  announced : List Announced := []
  documents : List (Nat × Word) := []
  /-- Words that stand for other texts. -/
  aliases : List (Bytes × Bytes) := []
  /-- The aliases that have been replaced, each with the length of the text behind it. -/
  replaced : List (Bytes × Nat) := []

/-- Has a script come to its end? -/
def Source.isAtEnd (s : Source) : Bool :=
  match s.ahead with
  | some .endOfText => true
  | _ => false

/-- Why a script cannot be read, and in which line that was noticed. -/
structure Failure where
  line : Nat
  message : String
deriving DecidableEq, Repr

/-- A step in reading a script. -/
abbrev Parse := StateT Source (Except Failure)

/-- Give up. -/
def refuse {α : Type} (message : String) : Parse α := do
  throw ⟨(← get).line, message⟩

/-- Complain about a token, perhaps in place of another. -/
def unexpected {α : Type} (t : Token) (wanted : Option String) : Parse α :=
  refuse <| t.shown ++ " unexpected" ++
    match wanted with
    | none => ""
    | some w => s!" (expecting \"{w}\")"

/-- Give a token back. -/
def giveBack (t : Token) : Parse Unit :=
  modify fun s => { s with ahead := some t }

/-- The text without line ends that are escaped at its beginning, and their number. -/
def dropJoints : Bytes → Bytes × Nat
  | '\\' :: '\n' :: rest =>
    let (r, n) := dropJoints rest
    (r, n + 1)
  | s => (s, 0)

/-- The next character, which stays where it is; escaped line ends in front of it are passed over. -/
def peek : Parse (Option Char) := do
  let s ← get
  let (rest, n) := dropJoints s.rest
  set { s with rest, line := s.line + n }
  return rest.head?

/-- Pass over the next character. -/
def advance : Parse Unit :=
  modify fun s =>
    { s with rest := s.rest.drop 1, line := if s.rest.head? == some '\n' then s.line + 1 else s.line }

/-- Read the next character, with escaped line ends passed over. -/
def nextJoined : Parse (Option Char) := do
  let c ← peek
  if c.isSome then advance
  return c

/-- Read the next character as it is. -/
def nextChar : Parse (Option Char) := do
  let c := (← get).rest.head?
  if c.isSome then advance
  return c

/-- Put a character in front of the text again. -/
def unread (c : Option Char) : Parse Unit :=
  match c with
  | none => pure ()
  | some c =>
    modify fun s =>
      { s with rest := c :: s.rest, line := if c == '\n' then s.line - 1 else s.line }

/-- Read characters as long as a condition holds. -/
def readWhile (p : Char → Bool) : Parse Bytes := do
  let s ← get
  let cs := s.rest.takeWhile p
  set { s with rest := s.rest.drop cs.length, line := s.line + cs.count '\n' }
  return cs

/-- Read the characters of a name, with escaped line ends passed over.  The number bounds them. -/
def readName (p : Char → Bool) : Nat → Parse Bytes
  | 0 => pure []
  | n + 1 => do
    match ← peek with
    | some c =>
      if p c then
        advance
        return c :: (← readName p n)
      else return []
    | none => return []

/-- Does the character end a word that is not quoted? -/
def endsWord (c : Char) : Bool :=
  c == ' ' || c == '\t' || c == '\n' || c == ';' || c == '&' || c == '|' || c == '<' || c == '>' ||
    c == '(' || c == ')'

/-- Pass over blanks, escaped line ends and a comment.  The number bounds the steps. -/
def skipBlanks : Nat → Parse Unit
  | 0 => pure ()
  | n + 1 => do
    match ← peek with
    | some ' ' | some '\t' =>
      advance
      skipBlanks n
    | some '#' => do
      let _ ← readWhile (· != '\n')
    | _ => pure ()

/-! ## Documents -/

/-- The text of a document up to its last line, and the rest of the script.  In a document that is
not taken as it is, an escaped line end ends no line.  The number bounds the lines. -/
def documentText (a : Announced) : Nat → Bool → Bytes → Bytes × Bytes
  | 0, _, s => ([], s)
  | n + 1, fresh, s =>
    if s.isEmpty then ([], [])
    else
      let s := if fresh && a.tabs then s.dropWhile (· == '\t') else s
      let line := s.takeWhile (· != '\n')
      let rest := s.drop (line.length + 1)
      if fresh && line == a.delimiter then ([], rest)
      else
        let ended := s.length > line.length
        let joined := !a.verbatim && (line.reverse.takeWhile (· == '\\')).length % 2 == 1
        let (more, left) := documentText a n (!joined) rest
        (line ++ (if ended then ['\n'] else []) ++ more, left)

end Vigil.Program.Shell
