import Vigil.Program.Shell.State

/-!
# Conditions

The command `test` works out a condition over its arguments: signs in front of an argument or
between two, brackets, and what joins conditions.  `Condition.holds` is the outcome, or the reason
why there is none.
-/

namespace Vigil.Program.Shell.Condition

/-- A sign between two arguments. -/
inductive Comparison where
  | same | different | before | after
  | equal | unequal | atLeast | greater | atMost | less
  | newer | older | sameFile
deriving DecidableEq, Repr

/-- What has a meaning of its own in a condition. -/
inductive Sign where
  | unary (letter : Char)
  | binary (c : Comparison)
  | not | and | or | opens | closes
deriving DecidableEq, Repr

/-- The letters of the signs that stand in front of an argument. -/
def unaryLetters : List Char := "rwxefdcbpugkstznhLOGS".toList

/-- The signs between two arguments. -/
def comparisons : List (String × Comparison) :=
  [("=", .same), ("!=", .different), ("<", .before), (">", .after), ("-eq", .equal),
    ("-ne", .unequal), ("-ge", .atLeast), ("-gt", .greater), ("-le", .atMost), ("-lt", .less),
    ("-nt", .newer), ("-ot", .older), ("-ef", .sameFile)]

/-- The sign that an argument is. -/
def sign? (a : Bytes) : Option Sign :=
  match a with
  | ['!'] => some .not
  | ['('] => some .opens
  | [')'] => some .closes
  | ['-', 'a'] => some .and
  | ['-', 'o'] => some .or
  | _ =>
    match comparisons.find? (·.1.toList == a), a with
    | some (_, c), _ => some (.binary c)
    | none, ['-', c] => if unaryLetters.contains c then some (.unary c) else none
    | none, _ => none

/-- Is the argument a sign between two others? -/
def isComparison (a : Bytes) : Bool :=
  match sign? a with
  | some (.binary _) => true
  | _ => false

/-- What the first of some arguments is: a sign, or an operand. -/
inductive Head where
  | nothing
  | operand
  | sign (s : Sign)
deriving DecidableEq, Repr

/-- What the first argument is; what would be a sign may be an operand where it stands. -/
def head (args : List Bytes) : Head :=
  match args with
  | [] => .nothing
  | a :: rest =>
    match sign? a with
    | none => .operand
    | some (.unary c) =>
      match rest with
      | [] => .operand
      | [_] => .sign (.unary c)
      | b :: _ => if isComparison b then .operand else .sign (.unary c)
    | some .opens => if rest.isEmpty then .operand else .sign .opens
    | some s => .sign s

/-- What a condition needs to know: what holds of the file at a path, and the number of a text. -/
structure Facts where
  file : Char → Bytes → Bool
  sameFile : Bytes → Bytes → Bool

/-- The number that an argument is. -/
def number (a : Bytes) : Except Bytes Int :=
  let blank (c : Char) : Bool := c == ' ' || ('\t' ≤ c && c ≤ '\r')
  let s := a.dropWhile blank
  let (negative, s) :=
    match s with
    | '-' :: s => (true, s)
    | '+' :: s => (false, s)
    | s => (false, s)
  let digits := s.takeWhile Char.isDigit
  let n := Nat.ofDigitChars 10 digits 0
  let n : Int := if negative then -n else n
  if digits.isEmpty || !(s.drop digits.length).all blank || n < -(Nat.pow 2 63 : Nat) ||
      (Nat.pow 2 63 : Nat) ≤ n then
    .error ("Illegal number: ".toList ++ a)
  else .ok n

/-- Does a comparison hold? -/
def Comparison.holds (f : Facts) (c : Comparison) (a b : Bytes) : Except Bytes Bool :=
  let numbers (p : Int → Int → Bool) : Except Bytes Bool := do
    return p (← number a) (← number b)
  match c with
  | same => .ok (a == b)
  | different => .ok (a != b)
  | before => .ok (decide (a < b))
  | after => .ok (decide (b < a))
  | equal => numbers (· == ·)
  | unequal => numbers (· != ·)
  | atLeast => numbers (· ≥ ·)
  | greater => numbers (· > ·)
  | atMost => numbers (· ≤ ·)
  | less => numbers (· < ·)
  | newer => .ok (f.file 'e' a && !f.file 'e' b)
  | older => .ok (!f.file 'e' a && f.file 'e' b)
  | sameFile => .ok (f.sameFile a b)

/-- An outcome, and the arguments from the last one that took part in it. -/
abbrev Outcome := Except Bytes (Bool × List Bytes)

mutual

/-- Work out conditions of which one must hold. -/
def either (f : Facts) : Nat → Head → List Bytes → Outcome
  | 0, _, args => .ok (false, args)
  | n + 1, h, args => do
    let (a, args) ← both f n h args
    match head args.tail with
    | .sign .or => do
      let args := args.drop 2
      let (b, args) ← either f n (head args) args
      return (a || b, args)
    | _ => return (a, args)

/-- Work out conditions of which all must hold. -/
def both (f : Facts) : Nat → Head → List Bytes → Outcome
  | 0, _, args => .ok (false, args)
  | n + 1, h, args => do
    let (a, args) ← negated f n h args
    match head args.tail with
    | .sign .and => do
      let args := args.drop 2
      let (b, args) ← both f n (head args) args
      return (a && b, args)
    | _ => return (a, args)

/-- Work out a condition that may be negated. -/
def negated (f : Facts) : Nat → Head → List Bytes → Outcome
  | 0, _, args => .ok (false, args)
  | n + 1, h, args => do
    match h with
    | .sign .not => do
      let h := head args.tail
      let (a, args) ← negated f n h (if h == .nothing then args else args.tail)
      return (!a, args)
    | h => primary f n h args

/-- Work out a condition that is not made of others, or stands in brackets. -/
def primary (f : Facts) : Nat → Head → List Bytes → Outcome
  | 0, _, args => .ok (false, args)
  | n + 1, h, args => do
    match h, args.tail with
    | .nothing, _ => return (false, args)
    | .sign .opens, rest =>
      if head rest == .sign .closes then return (false, rest)
      else
        let (a, args) ← either f n (head rest) rest
        if head args.tail == .sign .closes then return (a, args.tail)
        else .error "closing paren expected".toList
    | .sign (.unary c), [] => .error (['-', c] ++ ": argument expected".toList)
    | .sign (.unary c), a :: rest =>
      match c with
      | 'z' => return (a.isEmpty, a :: rest)
      | 'n' => return (!a.isEmpty, a :: rest)
      | 't' => do
        let _ ← number a
        return (false, a :: rest)
      | c => return (f.file c a, a :: rest)
    | _, rest =>
      match head rest, args, rest.tail with
      | .sign (.binary c), a :: _, b :: more => return (← c.holds f a b, b :: more)
      | .sign (.binary _), _, [] => .error (rest.headD [] ++ ": argument expected".toList)
      | _, _, _ => return ((args.headD []).length > 0, args)

end

/-- Does the condition that some arguments are hold?  A few arguments have a meaning that does not
depend on what else they might be.  The number bounds the negations. -/
def evaluate (f : Facts) : Nat → Bool → List Bytes → Except Bytes Bool
  | 0, _, _ => .ok false
  | n + 1, wanted, args => do
    let general (h : Head) (args : List Bytes) : Except Bytes Bool := do
      let (a, left) ← either f (4 * args.length + 4) h args
      match left with
      | a :: _ :: _ => .error (a ++ ": unexpected operator".toList)
      | _ => return a == wanted
    if args.isEmpty then return !wanted
    else if args.length == 3 && args[1]?.any isComparison then general .operand args
    else if args.length == 3 || args.length == 4 then
      if args.head? == some ['('] && args.getLast? == some [')'] then
        let inside := args.tail.dropLast
        general (head inside) inside
      else if args.head? == some ['!'] then evaluate f n false args.tail
      else general (head args) args
    else general (head args) args

/-- Does the condition hold? -/
def holds (f : Facts) (args : List Bytes) : Except Bytes Bool :=
  evaluate f (args.length + 1) true args

end Vigil.Program.Shell.Condition
