import Vigil.Program.Bytes

/-!
# Patterns of scripts

In a pattern a star stands for any text, a question mark for any character, and brackets for one of
some characters; a character that is quoted stands for itself only.
-/

namespace Vigil.Program.Shell

/-- A character of a word, and whether it is quoted. -/
abbrev Marked := Char × Bool

/-- One element of a pattern. -/
inductive Element where
  | any
  | one
  | char (c : Char)
  /-- One of some characters, or none of them. -/
  | set (inverted : Bool) (holds : Char → Bool)

/-- The classes of characters that have a name. -/
def classes : List (String × (Char → Bool)) :=
  [("alpha", Char.isAlpha), ("digit", Char.isDigit), ("alnum", Char.isAlphanum),
    ("upper", Char.isUpper), ("lower", Char.isLower),
    ("space", fun c => c == ' ' || ('\t' ≤ c && c ≤ '\r')), ("blank", fun c => c == ' ' || c == '\t'),
    ("punct", fun c => '!' ≤ c && c ≤ '~' && !c.isAlphanum), ("print", fun c => ' ' ≤ c && c ≤ '~'),
    ("graph", fun c => '!' ≤ c && c ≤ '~'), ("cntrl", fun c => c < ' ' || c == '\x7f'),
    ("xdigit", fun c => c.isDigit || ('a' ≤ c && c ≤ 'f') || ('A' ≤ c && c ≤ 'F'))]

/-- Read the name of a class behind its opening bracket and colon. -/
def readClass (s : List Marked) : Option ((Char → Bool) × List Marked) :=
  let name := (s.takeWhile fun m => m.1.isLower).map (·.1)
  match s.drop name.length with
  | (':', _) :: (']', _) :: rest =>
    (classes.find? fun c => c.1.toList == name).map fun c => (c.2, rest)
  | _ => none

/-- A member of a set in brackets: its character, and the rest. -/
def setChar : List Marked → Option (Char × List Marked)
  | ('\\', false) :: (c, _) :: rest => some (c, rest)
  | (c, _) :: rest => some (c, rest)
  | [] => none

/-- Read the members of a set up to the closing bracket; one that comes first is a member.  The
number bounds the members. -/
def readSet : Nat → Bool → List Marked → Option ((Char → Bool) × List Marked)
  | 0, _, _ => none
  | n + 1, first, s =>
    match s with
    | [] => none
    | (']', false) :: rest =>
      if first then (readSet n false rest).map fun (p, r) => (fun x => x == ']' || p x, r)
      else some (fun _ => false, rest)
    | ('[', false) :: (':', _) :: rest =>
      match readClass rest with
      | some (q, rest) => (readSet n false rest).map fun (p, r) => (fun x => q x || p x, r)
      | none => (readSet n false ((':', true) :: rest)).map fun (p, r) => (fun x => x == '[' || p x, r)
    | s =>
      match setChar s with
      | none => none
      | some (c, ('-', false) :: rest) =>
        match rest with
        | (']', false) :: _ =>
          (readSet n false (('-', true) :: rest)).map fun (p, r) => (fun x => x == c || p x, r)
        | _ =>
          match setChar rest with
          | none => none
          | some (d, rest) =>
            (readSet n false rest).map fun (p, r) => (fun x => (c ≤ x && x ≤ d) || p x, r)
      | some (c, rest) => (readSet n false rest).map fun (p, r) => (fun x => x == c || p x, r)

/-- The elements of a pattern.  A bracket that is not closed stands for itself.  The number bounds
the elements. -/
def elements : Nat → List Marked → List Element
  | 0, _ => []
  | n + 1, s =>
    match s with
    | [] => []
    | ('*', false) :: rest => .any :: elements n rest
    | ('?', false) :: rest => .one :: elements n rest
    | ('\\', false) :: (c, _) :: rest => .char c :: elements n rest
    | ('[', false) :: rest =>
      let (inverted, inside) :=
        match rest with
        | ('!', false) :: r => (true, r)
        | r => (false, r)
      match readSet (inside.length + 1) true inside with
      | some (p, after) => .set inverted p :: elements n after
      | none => .char '[' :: elements n rest
    | (c, _) :: rest => .char c :: elements n rest

/-- Does an element stand for the character? -/
def Element.holds (c : Char) : Element → Bool
  | any => true
  | one => true
  | char d => c == d
  | set inverted p => p c != inverted

/-- Do the elements stand for the text? -/
def matchElements : List Element → Bytes → Bool
  | [], s => s.isEmpty
  | .any :: es, s => go es s
  | e :: es, s =>
    match s with
    | [] => false
    | c :: rest => e.holds c && matchElements es rest
where
  /-- Do the elements stand for some end of the text? -/
  go (es : List Element) : Bytes → Bool
    | [] => matchElements es []
    | c :: rest => matchElements es (c :: rest) || go es rest

/-- Does the pattern fit the text? -/
def fits (pattern : List Marked) (s : Bytes) : Bool :=
  matchElements (elements (pattern.length + 1) pattern) s

/-- Is there anything in a word that makes it a pattern? -/
def isPattern (w : List Marked) : Bool :=
  w.any fun m => !m.2 && (m.1 == '*' || m.1 == '?' || m.1 == '[')

/-- A text without the beginning or the end that fits a pattern, which may be as long or as short as
possible. -/
def cutPattern (atEnd longest : Bool) (pattern : List Marked) (s : Bytes) : Bytes :=
  let es := elements (pattern.length + 1) pattern
  let lengths := List.range (s.length + 1)
  let lengths := if longest then lengths.reverse else lengths
  let part (n : Nat) : Bytes := if atEnd then s.drop (s.length - n) else s.take n
  match lengths.find? fun n => matchElements es (part n) with
  | some n => if atEnd then s.take (s.length - n) else s.drop n
  | none => s

end Vigil.Program.Shell
