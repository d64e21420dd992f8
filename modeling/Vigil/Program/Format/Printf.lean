import Vigil.Program.Format.Layout

/-!
# Formatted output

A format is a text with escapes and directives, each of which lays out one argument.  It is used
again as long as it consumes arguments and some are left; a missing argument counts as empty.  There
are two dialects: the one of the shell, and the one of the tool that stands by itself.
-/

namespace Vigil.Program.Format

/-! ## Escapes -/

/-- What an escape stands for, and the rest; or the end of all output; or a mistake. -/
inductive Escape where
  | bytes (b : Bytes) (rest : Bytes)
  | stop
  | mistake (complaint : String)

/-- The letters that stand for a control character behind a backslash. -/
def controlLetters : List (Char × Char) :=
  [('a', '\x07'), ('b', '\x08'), ('e', '\x1b'), ('f', '\x0c'), ('n', '\n'), ('r', '\r'),
    ('t', '\t'), ('v', '\x0b'), ('\\', '\\')]

/-- The byte of up to so many digits of base eight, and the rest. -/
def octal (count : Nat) (s : Bytes) : Char × Bytes :=
  let ds := (spanDigits 8 (s.take count)).1
  (Bytes.byte (numberOf 8 ds), s.drop ds.length)

/-- Is the character a digit of base eight? -/
def isOctal (c : Char) : Bool := '0' ≤ c && c ≤ '7'

/-- An escape of the shell, behind its backslash.  In an argument, unlike in a format, a zero may
stand in front of three digits, and there is an escape that ends all output. -/
def shellEscape (inArgument : Bool) (s : Bytes) : Escape :=
  match s with
  | [] => .bytes ['\\'] []
  | c :: rest =>
    if inArgument && c == 'c' then .stop
    else if isOctal c then
      let s := if inArgument && c == '0' && rest.head?.any isOctal then rest else s
      let (b, rest) := octal 3 s
      .bytes [b] rest
    else
      match controlLetters.find? (·.1 == c) with
      | some (_, b) => .bytes [b] rest
      | none => .bytes ['\\'] s

/-- A character by its number, as a program shows it that knows ASCII only. -/
def universal (letter : Char) (n : Nat) : Bytes :=
  if n < 128 then [Char.ofNat n]
  else
    let ds := (Nat.toDigits 16 n).map Char.toUpper
    let (mark, count) := if n < 65536 then ('u', 4) else ('U', 8)
    if letter == 'u' || letter == 'U' then
      '\\' :: mark :: List.replicate (count - ds.length) '0' ++ ds
    else []

/-- An escape of the tool, behind its backslash. -/
def toolEscape (inArgument : Bool) (s : Bytes) : Escape :=
  let missing : Escape := .mistake "missing hexadecimal number in escape"
  match s with
  | [] => .bytes ['\\'] []
  | c :: rest =>
    if c == 'x' then
      match spanDigits 16 (rest.take 2) with
      | ([], _) => missing
      | (ds, _) => .bytes [Bytes.byte (numberOf 16 ds)] (rest.drop ds.length)
    else if isOctal c then
      let (b, rest) := octal 3 (if inArgument && c == '0' then rest else s)
      .bytes [b] rest
    else if c == '"' then .bytes ['"'] rest
    else if c == 'c' then .stop
    else if c == 'u' || c == 'U' then
      let count := if c == 'u' then 4 else 8
      let (ds, _) := spanDigits 16 (rest.take count)
      let n := numberOf 16 ds
      if ds.length < count then missing
      else if (n ≤ 0x9f && n != 0x24 && n != 0x40 && n != 0x60) || (0xd800 ≤ n && n ≤ 0xdfff) then
        .mistake ("invalid universal character name \\" ++ String.ofList (c :: rest.take count))
      else .bytes (universal c n) (rest.drop count)
    else
      match controlLetters.find? (·.1 == c) with
      | some (_, b) => .bytes [b] rest
      | none => .bytes ['\\', c] rest

/-- An escape behind its backslash, in an argument or in a format. -/
abbrev Escapes := Bool → Bytes → Escape

/-- What a text with escapes becomes. -/
structure Unescaped where
  bytes : Bytes := []
  stop : Bool := false
  mistake : Option String := none

/-- Replace the escapes of an argument.  The number bounds the steps. -/
def unescape (escapes : Escapes) : Nat → Bytes → Unescaped
  | 0, _ => {}
  | _ + 1, [] => {}
  | n + 1, '\\' :: rest =>
    match escapes true rest with
    | .bytes b rest =>
      let u := unescape escapes n rest
      { u with bytes := b ++ u.bytes }
    | .stop => { stop := true }
    | .mistake m => { stop := true, mistake := some m }
  | n + 1, c :: rest =>
    let u := unescape escapes n rest
    { u with bytes := c :: u.bytes }

/-! ## Directives -/

/-- Where a width or a precision comes from. -/
inductive Count where
  | absent
  | given (n : Nat)
  | argument
deriving DecidableEq, Repr

/-- A directive: its text, flags, width, precision and letter. -/
structure Directive where
  source : Bytes
  flags : Bytes
  width : Count
  precision : Count
  letter : Char
deriving DecidableEq, Repr

/-- Read a width or a precision. -/
def readCount (s : Bytes) : Count × Bytes :=
  match s with
  | '*' :: rest => (.argument, rest)
  | _ =>
    match spanDigits 10 s with
    | ([], _) => (.absent, s)
    | (ds, rest) => (.given (numberOf 10 ds), rest)

/-- Read a directive behind its percent sign; `sizes` are letters that may stand before the last
one and mean nothing.  Without a last letter there is no directive. -/
def readDirective (sizes : Bytes) (s : Bytes) : Option (Directive × Bytes) :=
  let flags := s.takeWhile fun c => c == '#' || c == '-' || c == '+' || c == ' ' || c == '0'
  let (width, rest) := readCount (s.drop flags.length)
  let (precision, rest) : Count × Bytes :=
    match rest with
    | '.' :: rest =>
      let (p, rest) := readCount rest
      (if p == .absent then .given 0 else p, rest)
    | rest => (.absent, rest)
  match rest.dropWhile sizes.contains with
  | [] => none
  | letter :: after =>
    some (⟨'%' :: s.take (s.length - after.length), flags, width, precision, letter⟩, after)

/-- The layout that a directive asks for, with the width and the precision that are arguments. -/
def Directive.layout (d : Directive) (width precision : Int) : Layout :=
  let (left, width) : Bool × Nat :=
    match d.width with
    | .absent => (false, 0)
    | .given n => (false, n)
    | .argument => (width < 0, width.natAbs)
  { left := left || d.flags.contains '-'
    zeros := d.flags.contains '0'
    plus := d.flags.contains '+'
    space := d.flags.contains ' '
    alternate := d.flags.contains '#'
    width
    precision :=
      match d.precision with
      | .absent => none
      | .given n => some n
      | .argument => if precision < 0 then none else some precision.toNat }

/-! ## Dialects -/

/-- How a dialect differs from others. -/
structure Dialect where
  escapes : Escapes
  precision : Precision
  /-- Letters that may stand before the last one of a directive. -/
  sizes : Bytes
  /-- May the directive be used? -/
  allows : Directive → Bool
  /-- The complaint about another directive. -/
  refusal : Bytes → Bytes
  /-- The complaint about a directive that breaks off, if that is not one that may not be used. -/
  unfinished : Bytes
  /-- A text in a complaint. -/
  shown : Bytes → Bytes
  notNumeric : String
  notWhole : String
  /-- Are characters behind a quoted one complained about? -/
  strictQuote : Bool
  /-- Is a missing argument of the directives for escapes passed over? -/
  skipsMissing : Bool
  /-- Does the directive for escapes keep to a width? -/
  padsEscapes : Bool
  /-- The status after a mistake that ends the output. -/
  fatal : Nat

/-- The letters of directives for whole numbers with a sign, without one, and for real numbers. -/
def numericLetters : Bytes := "diouxXaAeEfFgG".toList

/-- The dialect of the shell. -/
def Dialect.shell : Dialect where
  escapes := shellEscape
  precision := .double
  sizes := []
  allows d := d.letter == 'b' || d.letter == 'c' || d.letter == 's' || numericLetters.contains d.letter
  refusal source := source ++ ": invalid directive".toList
  unfinished := "missing format character".toList
  shown s := s
  notNumeric := "expected numeric value"
  notWhole := "not completely converted"
  strictQuote := false
  skipsMissing := false
  padsEscapes := true
  fatal := 2

/-- May a directive of the tool have these flags and this precision? -/
def toolAllows (d : Directive) : Bool :=
  let has (c : Char) : Bool := d.flags.contains c
  match d.letter with
  | 'b' | 'q' => d.source.length == 2
  | 'c' => !has '#' && !has '0' && d.precision == .absent
  | 's' => !has '#' && !has '0'
  | 'd' | 'i' | 'u' => !has '#'
  | c => numericLetters.contains c

/-- The dialect of the tool. -/
def Dialect.tool : Dialect where
  escapes := toolEscape
  precision := .extended
  sizes := "lLhjtz".toList
  allows := toolAllows
  refusal source := source ++ ": invalid conversion specification".toList
  unfinished := "%: invalid conversion specification".toList
  shown s := '\x27' :: s ++ ['\x27']
  notNumeric := "expected a numeric value"
  notWhole := "value not completely converted"
  strictQuote := true
  skipsMissing := true
  padsEscapes := false
  fatal := 1

/-! ## Printing -/

/-- What a format has written, what was complained about, the status, and whether the output has
come to its end. -/
structure Printed where
  bytes : Bytes := []
  complaints : List Bytes := []
  status : Nat := 0
  stop : Bool := false

/-- First one, then the other. -/
def Printed.append (a b : Printed) : Printed where
  bytes := a.bytes ++ b.bytes
  complaints := a.complaints ++ b.complaints
  status := max a.status b.status
  stop := b.stop

instance : Append Printed := ⟨Printed.append⟩

/-- A mistake that ends the output. -/
def Dialect.mistake (k : Dialect) (complaint : Bytes) : Printed :=
  { complaints := [complaint], status := k.fatal, stop := true }

/-- A number as an argument: the value, and what is wrong with it. -/
def Dialect.number {α : Type} (k : Dialect) (read : Bytes → Reading α) (ofByte : Nat → α)
    (arg : Bytes) : α × Printed :=
  match arg with
  | q :: rest =>
    if (q == '"' || q == '\x27') && !(k.strictQuote && rest.isEmpty) then
      let more := rest.drop 1
      (ofByte (rest.head?.map Char.toNat |>.getD 0),
        if k.strictQuote && !more.isEmpty then
          { complaints := ["warning: ".toList ++ more ++
              ": character(s) following character constant have been ignored".toList] }
        else {})
    else
      let r := read arg
      let complaint (what : String) : Printed :=
        { complaints := [k.shown arg ++ ": ".toList ++ what.toList], status := 1 }
      (r.value,
        if !r.inRange && (k.strictQuote || r.rest.isEmpty) then
          if k.strictQuote then complaint "Numerical result out of range"
          else complaint "Numerical result out of range"
        else if r.rest.isEmpty then {}
        else complaint (if r.found then k.notWhole else k.notNumeric))
  | [] =>
    let r := read []
    (r.value, {})

/-- Lay out one argument. -/
def Dialect.apply (k : Dialect) (d : Directive) (l : Layout) (arg : Option Bytes) : Printed :=
  let a := arg.getD []
  let signedNumber : Printed :=
    let (n, p) := k.number readSigned (fun b => (b : Int)) a
    p ++ { bytes := l.signed n }
  let unsignedNumber (base : Nat) (capital : Bool) : Printed :=
    let (n, p) := k.number readUnsigned (fun b => (b : Int)) a
    p ++ { bytes := l.unsigned base capital n.toNat }
  let realNumber (style : Layout.Style) : Printed :=
    let (x, p) := k.number (readReal k.precision) (fun b => .finite false b 0) a
    p ++ { bytes := l.real k.precision style d.letter.isUpper x }
  match d.letter with
  | 'b' =>
    let u := unescape k.escapes (a.length + 1) a
    let bytes := if k.padsEscapes then l.text u.bytes else u.bytes
    match u.mistake with
    | some m => { bytes, complaints := [m.toList], status := k.fatal, stop := true }
    | none => { bytes, stop := u.stop }
  | 'q' => { bytes := a }
  | 'c' => { bytes := l.pad [a.head?.getD '\x00'] }
  | 's' => { bytes := l.text a }
  | 'd' | 'i' => signedNumber
  | 'u' => unsignedNumber 10 false
  | 'o' => unsignedNumber 8 false
  | 'x' => unsignedNumber 16 false
  | 'X' => unsignedNumber 16 true
  | 'f' | 'F' => realNumber .fixed
  | 'e' | 'E' => realNumber .scientific
  | 'g' | 'G' => realNumber .general
  | _ => realNumber .hex

/-- The number that a width or a precision takes from the arguments. -/
def Dialect.count (k : Dialect) (c : Count) (args : List Bytes) : Int × Printed × List Bytes :=
  match c with
  | .argument =>
    match args with
    | [] => (0, {}, [])
    | a :: rest =>
      let (n, p) := k.number readSigned (fun b => (b : Int)) a
      (n, p, rest)
  | _ => (0, {}, args)

/-- Use a format once.  The number bounds the steps. -/
def Dialect.once (k : Dialect) : Nat → Bytes → List Bytes → Printed × List Bytes
  | 0, _, args => ({}, args)
  | _ + 1, [], args => ({}, args)
  | n + 1, '\\' :: rest, args =>
    match k.escapes false rest with
    | .bytes b rest =>
      let (p, left) := once k n rest args
      ({ bytes := b } ++ p, left)
    | .stop => ({ stop := true }, args)
    | .mistake m => (k.mistake m.toList, args)
  | n + 1, '%' :: '%' :: rest, args =>
    let (p, left) := once k n rest args
    ({ bytes := ['%'] } ++ p, left)
  | n + 1, '%' :: rest, args =>
    match readDirective k.sizes rest with
    | none => (k.mistake k.unfinished, args)
    | some (d, rest) =>
      if !k.allows d then (k.mistake (k.refusal d.source), args)
      else
        let (width, p, args) := k.count d.width args
        let (precision, q, args) := k.count d.precision args
        let missing := args.isEmpty && k.skipsMissing && (d.letter == 'b' || d.letter == 'q')
        let r := if missing then {} else k.apply d (d.layout width precision) args.head?
        let done := p ++ q ++ r
        if done.stop then (done, args.tail)
        else
          let (more, left) := once k n rest args.tail
          (done ++ more, left)
  | n + 1, c :: rest, args =>
    let (p, left) := once k n rest args
    ({ bytes := [c] } ++ p, left)

/-- Use a format until the arguments are consumed; the arguments left are returned.  The number
bounds the uses. -/
def Dialect.repeated (k : Dialect) (format : Bytes) : Nat → List Bytes → Printed × List Bytes
  | 0, args => ({}, args)
  | n + 1, args =>
    let (p, left) := k.once (format.length + 1) format args
    if p.stop || left.isEmpty || left.length == args.length then (p, left)
    else
      let (q, left) := repeated k format n left
      (p ++ q, left)

/-- Write a format with its arguments; the arguments left are returned. -/
def Dialect.printf (k : Dialect) (format : Bytes) (args : List Bytes) : Printed × List Bytes :=
  k.repeated format (args.length + 1) args

/-! ## Plain output -/

/-- What `echo` writes in a shell. -/
def shellEcho (args : List Bytes) : Bytes :=
  let quiet := args.head? == some ['-', 'n']
  let text := Bytes.joined [' '] (if quiet then args.tail else args)
  let u := unescape shellEscape (text.length + 1) text
  u.bytes ++ (if quiet || u.stop then [] else ['\n'])

/-- An escape of the tool `echo`, behind its backslash. -/
def echoEscape (_inArgument : Bool) (s : Bytes) : Escape :=
  match s with
  | 'x' :: rest =>
    match spanDigits 16 (rest.take 2) with
    | ([], _) => .bytes ['\\', 'x'] rest
    | (ds, _) => .bytes [Bytes.byte (numberOf 16 ds)] (rest.drop ds.length)
  | '0' :: rest =>
    let (b, rest) := octal 3 rest
    .bytes [b] rest
  | 'c' :: _ => .stop
  | c :: rest =>
    if isOctal c then
      let (b, rest) := octal 3 s
      .bytes [b] rest
    else
      match controlLetters.find? (·.1 == c) with
      | some (_, b) => .bytes [b] rest
      | none => .bytes ['\\', c] rest
  | [] => .bytes ['\\'] []

/-- Is the argument a group of switches of the tool `echo`? -/
def isEchoSwitch (a : Bytes) : Bool :=
  match a with
  | '-' :: c :: cs => (c :: cs).all fun c => c == 'n' || c == 'e' || c == 'E'
  | _ => false

/-- What the tool `echo` writes. -/
def toolEcho (args : List Bytes) : Bytes :=
  let switches := (args.takeWhile isEchoSwitch).flatten.filter (· != '-')
  let text := Bytes.joined [' '] (args.dropWhile isEchoSwitch)
  let expands := (switches.filter (· != 'n')).getLast? == some 'e'
  let u : Unescaped := if expands then unescape echoEscape (text.length + 1) text else { bytes := text }
  u.bytes ++ (if switches.contains 'n' || u.stop then [] else ['\n'])

end Vigil.Program.Format
