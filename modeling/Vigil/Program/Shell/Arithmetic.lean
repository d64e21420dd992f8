import Vigil.Program.Format.Numeral
import Vigil.Program.Shell.Syntax

/-!
# Arithmetic in scripts

Expressions over whole numbers of 64 bits, which wrap around.  `Arithmetic.parse` reads a text as an
expression, and `Expression.evaluate` works it out, given how variables are looked up and set; what
is not needed for the outcome is not worked out.
-/

namespace Vigil.Program.Shell.Arithmetic

/-- An operator between two numbers. -/
inductive Operator where
  | multiply | divide | remainder | add | subtract | shiftLeft | shiftRight
  | less | atMost | greater | atLeast | equal | different | bitAnd | bitXor | bitOr
deriving DecidableEq, Repr

/-- An expression. -/
inductive Expression where
  | number (n : Int)
  | parameter (name : Bytes)
  | minus (e : Expression)
  | isZero (e : Expression)
  | complement (e : Expression)
  | binary (o : Operator) (a b : Expression)
  | both (a b : Expression)
  | either (a b : Expression)
  | choice (condition yes no : Expression)
  | assign (name : Bytes) (o : Option Operator) (e : Expression)
deriving Repr, Inhabited

/-! ## Values -/

/-- A number of 64 bits with a sign. -/
def wrap (n : Int) : Int :=
  Int.bmod n (Nat.pow 2 64)

/-- The bits of a number. -/
def bits (n : Int) : Nat :=
  (n % (Nat.pow 2 64 : Nat)).toNat

/-- One if a condition holds, else zero. -/
def truth (b : Bool) : Int :=
  if b then 1 else 0

/-- The value of an operator; there is none for a division by zero. -/
def Operator.value? (o : Operator) (a b : Int) : Option Int :=
  match o with
  | multiply => some (wrap (a * b))
  | divide => if b == 0 then none else some (wrap (a.tdiv b))
  | remainder => if b == 0 then none else some (a.tmod b)
  | add => some (wrap (a + b))
  | subtract => some (wrap (a - b))
  | shiftLeft => some (wrap (a * Nat.pow 2 (bits b % 64)))
  | shiftRight => some (a.fdiv (Nat.pow 2 (bits b % 64)))
  | less => some (truth (a < b))
  | atMost => some (truth (a ≤ b))
  | greater => some (truth (a > b))
  | atLeast => some (truth (a ≥ b))
  | equal => some (truth (a == b))
  | different => some (truth (a != b))
  | bitAnd => some (wrap (Nat.land (bits a) (bits b)))
  | bitXor => some (wrap (Nat.xor (bits a) (bits b)))
  | bitOr => some (wrap (Nat.lor (bits a) (bits b)))

/-- How tightly an operator binds; a small number binds tighter. -/
def Operator.level : Operator → Nat
  | multiply | divide | remainder => 0
  | add | subtract => 1
  | shiftLeft | shiftRight => 2
  | less | atMost | greater | atLeast => 3
  | equal | different => 4
  | bitAnd => 5
  | bitXor => 6
  | bitOr => 7

/-! ## Tokens -/

/-- What an expression is made of. -/
inductive Token where
  | number (n : Int)
  | name (s : Bytes)
  | operator (o : Operator)
  | assign (o : Option Operator)
  | sign (s : String)
  | unknown
deriving DecidableEq, Repr

/-- The signs, of which a longer one comes before its beginning. -/
def signs : List (String × Token) :=
  [("<<=", .assign (some .shiftLeft)), (">>=", .assign (some .shiftRight)),
    ("||", .sign "||"), ("&&", .sign "&&"), ("==", .operator .equal), ("!=", .operator .different),
    ("<=", .operator .atMost), (">=", .operator .atLeast), ("<<", .operator .shiftLeft),
    (">>", .operator .shiftRight), ("*=", .assign (some .multiply)), ("/=", .assign (some .divide)),
    ("%=", .assign (some .remainder)), ("+=", .assign (some .add)),
    ("-=", .assign (some .subtract)), ("&=", .assign (some .bitAnd)), ("^=", .assign (some .bitXor)),
    ("|=", .assign (some .bitOr)), ("=", .assign none), ("<", .operator .less),
    (">", .operator .greater), ("|", .operator .bitOr), ("&", .operator .bitAnd),
    ("^", .operator .bitXor), ("*", .operator .multiply), ("/", .operator .divide),
    ("%", .operator .remainder), ("+", .operator .add), ("-", .operator .subtract),
    ("!", .sign "!"), ("~", .sign "~"), ("(", .sign "("), (")", .sign ")"), ("?", .sign "?"),
    (":", .sign ":")]

/-- Split a text into tokens.  Nothing is read behind a character that begins none.  The number
bounds the tokens. -/
def tokens : Nat → Bytes → List Token
  | 0, _ => []
  | n + 1, s =>
    match s.dropWhile fun c => c == ' ' || c == '\t' || c == '\n' with
    | [] => []
    | c :: rest =>
      if c.isDigit then
        let r := Format.readSigned (c :: rest)
        .number r.value :: tokens n r.rest
      else if isNameStart c then
        .name (c :: rest.takeWhile isNameChar) :: tokens n (rest.dropWhile isNameChar)
      else
        match signs.find? fun t => t.1.toList.isPrefixOf (c :: rest) with
        | some (t, token) => token :: tokens n ((c :: rest).drop t.length)
        | none => [.unknown]

/-! ## Reading expressions -/

/-- A reader of a leading part of some tokens; it fails with a reason. -/
abbrev Read (α : Type) := List Token → Except String (α × List Token)

mutual

/-- Read a number, a variable, or an expression with a sign or in brackets. -/
def readOperand : Nat → Read Expression
  | 0, _ => .error "expecting primary"
  | n + 1, ts =>
    match ts with
    | .sign "(" :: rest => do
      match ← readAssignment n rest with
      | (e, .sign ")" :: rest) => .ok (e, rest)
      | _ => .error "expecting ')'"
    | .number k :: rest => .ok (.number k, rest)
    | .name s :: rest => .ok (.parameter s, rest)
    | .operator .add :: rest => readOperand n rest
    | .operator .subtract :: rest => do
      let (e, rest) ← readOperand n rest
      .ok (.minus e, rest)
    | .sign "!" :: rest => do
      let (e, rest) ← readOperand n rest
      .ok (.isZero e, rest)
    | .sign "~" :: rest => do
      let (e, rest) ← readOperand n rest
      .ok (.complement e, rest)
    | _ => .error "expecting primary"

/-- Read what is joined to an operand by operators that bind at least as tightly as a level. -/
def readOperators : Nat → Nat → Expression → Read Expression
  | 0, _, _, _ => .error "expecting primary"
  | n + 1, level, a, ts =>
    match ts with
    | .operator o :: rest =>
      if level < o.level then .ok (a, ts)
      else do
        let (b, rest) ← readOperand n rest
        let (b, rest) ← if o.level == 0 then .ok (b, rest) else readOperators n (o.level - 1) b rest
        readOperators n level (.binary o a b) rest
    | _ => .ok (a, ts)

/-- Read expressions of which all must hold. -/
def readBoth : Nat → Read Expression
  | 0, _ => .error "expecting primary"
  | n + 1, ts => do
    let (a, rest) ← readOperand n ts
    let (a, rest) ← readOperators n 7 a rest
    match rest with
    | .sign "&&" :: rest => do
      let (b, rest) ← readBoth n rest
      .ok (.both a b, rest)
    | _ => .ok (a, rest)

/-- Read expressions of which one must hold. -/
def readEither : Nat → Read Expression
  | 0, _ => .error "expecting primary"
  | n + 1, ts => do
    match ← readBoth n ts with
    | (a, .sign "||" :: rest) => do
      let (b, rest) ← readEither n rest
      .ok (.either a b, rest)
    | r => .ok r

/-- Read a choice between two expressions. -/
def readChoice : Nat → Read Expression
  | 0, _ => .error "expecting primary"
  | n + 1, ts => do
    match ← readEither n ts with
    | (c, .sign "?" :: rest) => do
      match ← readAssignment n rest with
      | (a, .sign ":" :: rest) => do
        let (b, rest) ← readChoice n rest
        .ok (.choice c a b, rest)
      | _ => .error "expecting ':'"
    | r => .ok r

/-- Read an expression whose value may be assigned to a variable. -/
def readAssignment : Nat → Read Expression
  | 0, _ => .error "expecting primary"
  | n + 1, ts =>
    match ts with
    | .name s :: .assign o :: rest => do
      let (e, rest) ← readAssignment n rest
      .ok (.assign s o e, rest)
    | _ => readChoice n ts

end

/-- Read a text as an expression. -/
def parse (s : Bytes) : Except String Expression := do
  let ts := tokens (s.length + 1) s
  match ← readAssignment (8 * ts.length + 8) ts with
  | (e, []) => .ok e
  | _ => .error "expecting EOF"

/-! ## Evaluation -/

/-- How an expression is worked out: how variables are read and set, and what happens when there is
no value. -/
structure Surroundings (m : Type → Type) where
  lookup : Bytes → m Int
  assign : Bytes → Int → m Unit
  noValue : String → m Int

variable {m : Type → Type} [Monad m]

/-- Work out an operator. -/
def Surroundings.apply (s : Surroundings m) (o : Operator) (a b : Int) : m Int :=
  match o.value? a b with
  | some n => pure n
  | none => s.noValue "division by zero"

/-- Work out an expression. -/
def Expression.evaluate (s : Surroundings m) : Expression → m Int
  | number n => pure n
  | parameter name => s.lookup name
  | minus e => do return wrap (-(← e.evaluate s))
  | isZero e => do return truth ((← e.evaluate s) == 0)
  | complement e => do return -(← e.evaluate s) - 1
  | binary o a b => do
    let x ← a.evaluate s
    let y ← b.evaluate s
    s.apply o x y
  | both a b => do
    if (← a.evaluate s) == 0 then return 0 else return truth ((← b.evaluate s) != 0)
  | either a b => do
    if (← a.evaluate s) != 0 then return 1 else return truth ((← b.evaluate s) != 0)
  | choice c a b => do
    if (← c.evaluate s) != 0 then a.evaluate s else b.evaluate s
  | assign name o e => do
    let y ← e.evaluate s
    let v ←
      match o with
      | none => pure y
      | some o => do
        let x ← s.lookup name
        s.apply o x y
    s.assign name v
    return v

end Vigil.Program.Shell.Arithmetic
