import Vigil.Program.Shell.State

/-!
# Arguments of commands

Many commands take options: letters behind a minus sign, some with an argument.  `optionsOf` tells
them from the other arguments, and `numberOf` reads a number.
-/

namespace Vigil.Program.Shell

/-- Does an option take an argument, if there is one with this letter?  In the list of letters, a
colon follows those that do. -/
def takesArgument? (c : Char) : Bytes → Option Bool
  | [] => none
  | d :: ':' :: rest => if c == d then some true else takesArgument? c rest
  | d :: rest => if c == d then some false else takesArgument? c rest

/-- Tell options apart in an argument, behind its minus sign; an option may take the rest of the
argument, or the next one. -/
def optionLettersOf (allowed : Bytes) : Bytes → List Bytes → Session (List (Char × Bytes) × List Bytes)
  | [], args => pure ([], args)
  | c :: rest, args => do
    match takesArgument? c allowed, rest, args with
    | none, _, _ => fail ("Illegal option -".toList ++ [c])
    | some false, _, _ => do
      let (more, args) ← optionLettersOf allowed rest args
      return ((c, []) :: more, args)
    | some true, [], [] => fail ("No arg for -".toList ++ [c] ++ " option".toList)
    | some true, [], a :: args => return ([(c, a)], args)
    | some true, _, _ => return ([(c, rest)], args)

/-- The options with their arguments, and the other arguments.  The number bounds the arguments with
options. -/
def readOptions (allowed : Bytes) : Nat → List Bytes → Session (List (Char × Bytes) × List Bytes)
  | 0, args => pure ([], args)
  | n + 1, args =>
    match args with
    | ['-', '-'] :: args => pure ([], args)
    | ('-' :: c :: letters) :: args => do
      let (first, args) ← optionLettersOf allowed (c :: letters) args
      let (more, args) ← readOptions allowed n args
      return (first ++ more, args)
    | _ => pure ([], args)

/-- The options with their arguments, and the other arguments. -/
def optionsOf (allowed : String) (args : List Bytes) : Session (List (Char × Bytes) × List Bytes) :=
  readOptions allowed.toList (args.length + 1) args

/-- The other arguments, where no option is allowed. -/
def withoutOptions (args : List Bytes) : Session (List Bytes) := do
  return (← optionsOf "" args).2

/-- The number that an argument is; a negative one is none. -/
def numberOf (a : Bytes) : Session Nat := do
  let blank (c : Char) : Bool := c == ' ' || ('\t' ≤ c && c ≤ '\r')
  let s := a.dropWhile blank
  let s := if s.head? == some '+' then s.tail else s
  let digits := s.takeWhile Char.isDigit
  let n := Nat.ofDigitChars 10 digits 0
  if digits.isEmpty || !(s.drop digits.length).all blank || Nat.pow 2 31 ≤ n then illegalNumber a
  else return n

/-- A text in parts between single quotes, with single quotes in it between double ones.  The number
bounds the parts. -/
def quotedParts : Nat → Bytes → Bytes
  | 0, _ => []
  | n + 1, s =>
    let plain := s.takeWhile (· != '\x27')
    let quotes := (s.drop plain.length).takeWhile (· == '\x27')
    let rest := s.drop (plain.length + quotes.length)
    '\x27' :: plain ++ ['\x27'] ++ (if quotes.isEmpty then [] else '"' :: quotes ++ ['"']) ++
      (if rest.isEmpty then [] else quotedParts n rest)

/-- A text between quotes, so that it can be read again. -/
def inQuotes (s : Bytes) : Bytes :=
  quotedParts (s.length + 1) s

/-- A variable with its value, so that it can be read again. -/
def assignmentText (name : Bytes) (value : Option Bytes) : Bytes :=
  match value with
  | some v => name ++ ['='] ++ inQuotes v
  | none => name

end Vigil.Program.Shell
