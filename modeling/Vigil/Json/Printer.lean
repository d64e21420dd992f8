import Vigil.Decimal.Shortest
import Vigil.Json.Tree

/-!
# Writing JSON

`print` writes a value without any space; a number that is not finite is written as `null`.
`printIndented` writes one item or member to a line.
-/

namespace Vigil.Json

/-- A digit in base sixteen. -/
def hexDigit (n : Nat) : Char :=
  Nat.digitChar n

/-- One character inside a string. -/
def escapeChar (c : Char) : List Char :=
  if c == '"' then ['\\', '"']
  else if c == '\\' then ['\\', '\\']
  else if c == '\x08' then ['\\', 'b']
  else if c == '\t' then ['\\', 't']
  else if c == '\n' then ['\\', 'n']
  else if c == '\x0c' then ['\\', 'f']
  else if c == '\r' then ['\\', 'r']
  else if c.toNat < 32 then
    ['\\', 'u', '0', '0', hexDigit (c.toNat / 16), hexDigit (c.toNat % 16)]
  else [c]

/-- A text as a JSON string. -/
def stringText (s : String) : List Char :=
  ['"'] ++ s.toList.flatMap escapeChar ++ ['"']

/-- The text of a whole number. -/
def intText (n : Int) : List Char :=
  if n < 0 then '-' :: Decimal.digits n.natAbs else Decimal.digits n.natAbs

/-- The text of a number. -/
def numberText : Number → List Char
  | .whole n => intText n
  | .real x => (Decimal.text? x).getD ['n', 'u', 'l', 'l']

/-- Texts with a separator between them. -/
def joinWith (sep : List Char) : List (List Char) → List Char
  | [] => []
  | [x] => x
  | x :: rest => x ++ sep ++ joinWith sep rest

mutual

/-- The characters of a value. -/
def chars : Json → List Char
  | .null => ['n', 'u', 'l', 'l']
  | .bool true => ['t', 'r', 'u', 'e']
  | .bool false => ['f', 'a', 'l', 's', 'e']
  | .number n => numberText n
  | .text s => stringText s
  | .list items => ['['] ++ joinWith [','] (itemChars items) ++ [']']
  | .object members => ['\x7b'] ++ joinWith [','] (memberChars members) ++ ['\x7d']

/-- The characters of each item. -/
def itemChars : List Json → List (List Char)
  | [] => []
  | t :: rest => chars t :: itemChars rest

/-- The characters of each member. -/
def memberChars : List (String × Json) → List (List Char)
  | [] => []
  | (k, t) :: rest => (stringText k ++ [':'] ++ chars t) :: memberChars rest

end

/-- The text of a value, without spaces. -/
def print (t : Json) : String :=
  String.ofList (chars t)

/-! ## Indented text -/

/-- A line end and the indentation of a level. -/
def newLine (level : Nat) : List Char :=
  '\n' :: List.replicate (2 * level) ' '

mutual

/-- The characters of a value at a level of indentation. -/
def indentedChars (level : Nat) : Json → List Char
  | .list [] => ['[', ']']
  | .list items =>
    ['['] ++ newLine (level + 1) ++
      joinWith (',' :: newLine (level + 1)) (indentedItems (level + 1) items) ++
      newLine level ++ [']']
  | .object [] => ['\x7b', '\x7d']
  | .object members =>
    ['\x7b'] ++ newLine (level + 1) ++
      joinWith (',' :: newLine (level + 1)) (indentedMembers (level + 1) members) ++
      newLine level ++ ['\x7d']
  | .null => ['n', 'u', 'l', 'l']
  | .bool true => ['t', 'r', 'u', 'e']
  | .bool false => ['f', 'a', 'l', 's', 'e']
  | .number n => numberText n
  | .text s => stringText s

/-- The characters of each item at a level of indentation. -/
def indentedItems (level : Nat) : List Json → List (List Char)
  | [] => []
  | t :: rest => indentedChars level t :: indentedItems level rest

/-- The characters of each member at a level of indentation. -/
def indentedMembers (level : Nat) : List (String × Json) → List (List Char)
  | [] => []
  | (k, t) :: rest =>
    (stringText k ++ [':', ' '] ++ indentedChars level t) :: indentedMembers level rest

end

/-- The text of a value with one item or member to a line. -/
def printIndented (t : Json) : String :=
  String.ofList (indentedChars 0 t)

end Vigil.Json
