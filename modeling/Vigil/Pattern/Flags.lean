import Vigil.Pattern.CharSet
import Vigil.Text.Char

/-!
# Flags of a pattern

How the parts of a pattern are understood, and the blanks and comments that a flag allows between
them.
-/

namespace Vigil.Pattern

/-- How the parts of a pattern are understood. -/
structure Flags where
  ignoreCase : Bool := false
  multiLine : Bool := false
  dotAll : Bool := false
  anyLineEnd : Bool := false
  swapReluctance : Bool := false
  ignoreBlanks : Bool := false
  everyScript : Bool := true
deriving DecidableEq, Repr

namespace Flags

/-- Set or clear the flag of a letter. -/
def set (f : Flags) (letter : Char) (value : Bool) : Option Flags :=
  match letter with
  | 'i' => some { f with ignoreCase := value }
  | 'm' => some { f with multiLine := value }
  | 's' => some { f with dotAll := value }
  | 'R' => some { f with anyLineEnd := value }
  | 'U' => some { f with swapReluctance := value }
  | 'x' => some { f with ignoreBlanks := value }
  | 'u' => some { f with everyScript := value }
  | _ => none

/-- Read flags up to a colon or a closing parenthesis, which is left.  `value` is what the flags
that follow are set to, `seen` holds the letters already read, and `pending` says that a letter must
still follow a hyphen. -/
def read (f : Flags) (value : Bool) (seen : List Char) (pending : Bool) :
    List Char → Option (Flags × List Char)
  | [] => none
  | c :: rest =>
    if c == ':' || c == ')' then if pending then none else some (f, c :: rest)
    else if c == '-' then if value then read f false seen true rest else none
    else if seen.contains c then none
    else
      match f.set c value with
      | none => none
      | some f => read f value (c :: seen) false rest

/-! ## Blanks -/

/-- Pass over blanks and comments; `comment` says that one has been begun. -/
def skipNotes (comment : Bool) : List Char → List Char
  | [] => []
  | c :: rest =>
    if comment then skipNotes (c != '\n') rest
    else if c == '#' then skipNotes true rest
    else if Text.isBlank c then skipNotes false rest
    else c :: rest

/-- Pass over blanks and comments if they are ignored. -/
def skip (f : Flags) (s : List Char) : List Char :=
  if f.ignoreBlanks then skipNotes false s else s

/-- The character that stands behind one hyphen of a set in brackets, blanks and the signs of
comments apart. -/
def peekBehind (f : Flags) (s : List Char) : Option Char :=
  if !f.ignoreBlanks then s.head?
  else
    match s.dropWhile Text.isBlank with
    | '#' :: rest => (rest.dropWhile Text.isBlank).head?.or s.head?
    | [] => s.head?
    | c :: _ => some c

/-! ## Sets -/

/-- A set with the other case of its members, if case is ignored. -/
def folded (f : Flags) (s : CharSet) : CharSet :=
  if !f.ignoreCase then s
  else if f.everyScript then s.fold
  else s.foldPlain

/-- What is not in a set.  Without the characters of every script, single bytes are what there
is. -/
def complement (f : Flags) (s : CharSet) : CharSet :=
  if f.everyScript then s.complement else s.complement.intersection (.span 0 255)

/-- A set in the case and with the sign that are asked for. -/
def adjusted (f : Flags) (negated : Bool) (s : CharSet) : CharSet :=
  if negated then f.complement (f.folded s) else f.folded s

/-- The set, if it is allowed: without the characters of every script it may hold those of the basic
range only. -/
def checked (f : Flags) (s : CharSet) : Option CharSet :=
  if f.everyScript || s.isBasic then some s else none

end Flags

end Vigil.Pattern
