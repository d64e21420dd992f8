import Vigil.Program.Format.Printf
import Vigil.Program.Tool.Basic

/-!
# Tools that write or wait

The tools that write what their arguments say, and those that only take time or return a status.
-/

namespace Vigil.Program.Tool

open Shell (Session print forever)

/-- Write a text. -/
def echo (_name : Bytes) (args : List Bytes) : Session Nat := do
  print (Format.toolEcho args)
  return 0

/-- Write a format with its arguments. -/
def printf (name : Bytes) (args : List Bytes) : Session Nat := do
  match if args.head? == some ['-', '-'] then args.tail else args with
  | [] => refuse name "missing operand".toList
  | format :: rest =>
    let (p, left) := Format.Dialect.tool.printf format rest
    print p.bytes
    for c in p.complaints do
      complain name c
    if !p.stop && !left.isEmpty && left.length == rest.length then
      complain name ("warning: ignoring excess arguments, starting with ".toList ++
        quoted (left.headD []))
    return p.status

/-! ## Time -/

/-- The nanoseconds in a unit of time. -/
def unit? : Bytes → Option Nat
  | [] | ['s'] => some 1000000000
  | ['m'] => some 60000000000
  | ['h'] => some 3600000000000
  | ['d'] => some 86400000000000
  | _ => none

/-- The nanoseconds that a duration in seconds denotes, with an optional unit. -/
def duration? (a : Bytes) : Option Nat :=
  let r := Format.readReal Format.Precision.double a
  match r.found, r.value, unit? r.rest with
  | true, .finite negative m e, some u =>
    if negative && m != 0 then none
    else
      let n := m * u * Nat.pow 2 e.toNat
      let d := Nat.pow 2 (-e).toNat
      some (min forever ((n + d - 1) / d))
  | true, .infinite false, some _ => some forever
  | _, _, _ => none

/-- Wait. -/
def sleep (name : Bytes) (args : List Bytes) : Session Nat :=
  withArguments name { letters := [] } args fun a => do
    if a.operands.isEmpty then refuse name "missing operand".toList
    else
      let bad := a.operands.filter fun o => (duration? o).isNone
      match bad with
      | [] =>
        let time := (a.operands.filterMap duration?).foldl (· + ·) 0
        if forever ≤ time then throw .endless
        Shell.waitUntil ((← get).world.clock + time)
        return 0
      | _ =>
        let message (o : Bytes) : Bytes := "invalid time interval ".toList ++ quoted o
        for o in bad.dropLast do
          complain name (message o)
        refuse name (message (bad.getLastD []))

/-! ## Numbers in a row -/

/-- A decimal number: its digits without the point, and how many of them stand behind it. -/
def decimal? (a : Bytes) : Option (Int × Nat) :=
  let (negative, s) :=
    match a with
    | '-' :: s => (true, s)
    | '+' :: s => (false, s)
    | s => (false, s)
  let whole := s.takeWhile Char.isDigit
  let rest := s.drop whole.length
  let fraction? :=
    match rest with
    | [] => some []
    | '.' :: f => if f.all Char.isDigit then some f else none
    | _ => none
  match fraction? with
  | none => none
  | some f =>
    if whole.isEmpty && f.isEmpty then none
    else
      let n : Int := Nat.ofDigitChars 10 (whole ++ f) 0
      some (if negative then -n else n, f.length)

/-- A number with so many digits behind the point, and at least so many in front of it. -/
def decimalText (places width : Nat) (n : Int) : Bytes :=
  let digits := Nat.toDigits 10 n.natAbs
  let digits := List.replicate (places + 1 - digits.length) '0' ++ digits
  let whole := digits.take (digits.length - places)
  let text := if places = 0 then whole else whole ++ ['.'] ++ digits.drop (digits.length - places)
  let sign := if n < 0 then ['-'] else []
  sign ++ List.replicate (width - sign.length - text.length) '0' ++ text

/-- The numbers from one to another in steps; the first argument bounds their number. -/
def numbersFrom (step last : Int) : Nat → Int → List Int
  | 0, _ => []
  | n + 1, k =>
    if (0 ≤ step && last < k) || (step < 0 && k < last) then []
    else k :: numbersFrom step last n (k + step)

/-- Does the argument look like a negative number? -/
def isNegative (a : Bytes) : Bool :=
  match a with
  | '-' :: c :: _ => c.isDigit || c == '.'
  | _ => false

/-- Write numbers in a row. -/
def seq (name : Bytes) (args : List Bytes) : Session Nat :=
  let options := args.takeWhile fun a => !isNegative a
  let known : Known :=
    { letters := [('s', true), ('w', false), ('f', true)]
      names := [("separator", 's'), ("equal-width", 'w'), ("format", 'f')] }
  withArguments name known options fun a => do
    let operands := a.operands ++ args.drop options.length
    match operands.find? fun o => (decimal? o).isNone with
    | some o => refuse name ("invalid floating point argument: ".toList ++ quoted o)
    | none =>
      let values := operands.filterMap decimal?
      let places := values.foldl (fun p v => max p v.2) 0
      let scaled := values.map fun v => v.1 * Int.ofNat (Nat.pow 10 (places - v.2))
      let one : Int := Nat.pow 10 places
      let bounds :=
        match scaled with
        | [last] => some (one, one, last)
        | [first, last] => some (first, one, last)
        | [first, step, last] => some (first, step, last)
        | _ => none
      match bounds, operands[3]? with
      | none, none => refuse name "missing operand".toList
      | none, some o => refuse name ("extra operand ".toList ++ quoted o)
      | some (first, step, last), _ =>
        if step = 0 then
          refuse name ("invalid Zero increment value: ".toList ++ quoted (operands.getD 1 []))
        else
          let width :=
            if a.has 'w' then
              max (decimalText places 0 first).length (decimalText places 0 last).length
            else 0
          let count := ((last - first) / step).toNat + 1
          let texts := (numbersFrom step last (min count 1000000) first).map (decimalText places width)
          if !texts.isEmpty then
            print (Bytes.joined ((a.value? 's').getD ['\n']) texts ++ ['\n'])
          return 0

/-- Write a line again and again. -/
def yes (_name : Bytes) (args : List Bytes) : Session Nat := do
  let line := (if args.isEmpty then ['y'] else Bytes.joined [' '] args) ++ ['\n']
  print (List.replicate 4096 line).flatten
  throw .endless

end Vigil.Program.Tool
