import Vigil.Program.Bytes

/-!
# The syntax of scripts

A script is a list of commands, and a command is made of words.  A word is a list of pieces: text as
it is written, and what is to be replaced by the value of a parameter, by the output of a script or
by the value of an expression.
-/

namespace Vigil.Program.Shell

/-- What a word in braces does for a parameter: it stands for a missing value, is assigned to a
parameter without a value, takes the place of a value that is there, or is the complaint about a
missing value. -/
inductive Substitute where
  | standIn | assigned | instead | complaint
deriving DecidableEq, Repr

/-- How a file is opened.  Writing may be refused if there is a file, but not overwriting. -/
inductive OpenMode where
  | read | write | overwrite | append | readWrite
deriving DecidableEq, Repr

mutual

/-- A part of a word. -/
inductive Piece where
  /-- Characters as they are written; those that are quoted stand for nothing but themselves. -/
  | text (s : Bytes) (quoted : Bool)
  /-- What stands between double quotes. -/
  | quotes (inside : List Piece)
  | parameter (name : Bytes) (change : Change)
  | output (script : Command)
  | arithmetic (expression : List Piece)

/-- What is made of the value of a parameter. -/
inductive Change where
  | plain
  | length
  /-- Another word may take part; an empty value may count as missing. -/
  | replace (kind : Substitute) (emptyToo : Bool) (w : List Piece)
  /-- A part that fits a pattern is cut off at the beginning or at the end. -/
  | cut (atEnd longest : Bool) (pattern : List Piece)
  /-- No change that is known. -/
  | unknown

/-- Where a stream of a command comes from or goes to. -/
inductive Redirection where
  | file (stream : Nat) (mode : OpenMode) (name : List Piece)
  | duplicate (stream : Nat) (target : List Piece)
  /-- A document that stands in the script, by its number. -/
  | document (stream : Nat) (number : Nat)

/-- A command. -/
inductive Command where
  | simple (line : Nat) (assignments : List (Bytes × List Piece)) (words : List (List Piece))
    (redirections : List Redirection)
  | redirected (body : Command) (redirections : List Redirection)
  | pipeline (commands : List Command)
  | negate (body : Command)
  | both (first second : Command)
  | either (first second : Command)
  | sequence (first second : Command)
  | background (body : Command)
  | subshell (body : Command) (redirections : List Redirection)
  | ifThen (condition yes no : Command)
  | loop (wanted : Bool) (condition body : Command)
  | forEach (line : Nat) (name : Bytes) (words : List (List Piece)) (body : Command)
  | select (line : Nat) (subject : List Piece) (cases : List (List (List Piece) × Command))
  | function (name : Bytes) (body : Command)
  | nothing

end

instance : Inhabited Command := ⟨.nothing⟩

/-- A word before its pieces are replaced. -/
abbrev Word := List Piece

/-- The text of a word that is written without quotes and has nothing to replace. -/
def plainText? : Word → Option Bytes
  | [.text s false] => some s
  | _ => none

/-! ## Names -/

/-- May a name begin with the character? -/
def isNameStart (c : Char) : Bool :=
  c.isAlpha || c == '_'

/-- May the character stand in a name? -/
def isNameChar (c : Char) : Bool :=
  c.isAlphanum || c == '_'

/-- Is the text a name? -/
def isName : Bytes → Bool
  | [] => false
  | c :: rest => isNameStart c && rest.all isNameChar

/-- Is the character the name of a parameter that has no other name? -/
def isSpecial (c : Char) : Bool :=
  c == '?' || c == '$' || c == '!' || c == '-' || c == '*' || c == '@' || c == '#' || c.isDigit

/-- The name and the value of a word that is an assignment. -/
def assignment? (w : Word) : Option (Bytes × Word) :=
  match w with
  | .text s false :: rest =>
    let name := s.takeWhile isNameChar
    match s.drop name.length with
    | '=' :: value =>
      if isName name then
        some (name, if value.isEmpty then rest else .text value false :: rest)
      else none
    | _ => none
  | _ => none

/-- The words that have a meaning of their own where a command begins. -/
def reservedWords : List String :=
  ["!", "case", "do", "done", "elif", "else", "esac", "fi", "for", "if", "in", "then", "until",
    "while", "\x7b", "\x7d"]

end Vigil.Program.Shell
