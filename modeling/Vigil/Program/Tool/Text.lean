import Vigil.Program.Format.Numeral
import Vigil.Program.Tool.Basic

/-!
# Tools for text

The tools that pass on their input, or parts of it: whole, by lines, by characters or by fields; those
that count, order or replace; and those for the parts of paths.
-/

namespace Vigil.Program.Tool

open Shell (Session print write)

/-- A number at the right end of a column. -/
def column (width n : Nat) : Bytes :=
  let ds := Nat.toDigits 10 n
  List.replicate (width - ds.length) ' ' ++ ds

/-! ## Whole texts -/

/-- A line as it is shown: a tab and the end of the line may be made visible. -/
def shownLine (tabs ends : Bool) (line : Bytes) : Bytes :=
  line.flatMap fun c =>
    if c == '\t' && tabs then ['^', 'I'] else if c == '\n' && ends then ['$', '\n'] else [c]

/-- Lines with their numbers in front; empty ones may go without. -/
def numbered (all : Bool) : Nat → List Bytes → List Bytes
  | _, [] => []
  | n, line :: rest =>
    if all || line != ['\n'] then (column 6 n ++ ['\t'] ++ line) :: numbered all (n + 1) rest
    else line :: numbered all n rest

/-- Lines without empty ones behind an empty one. -/
def squeezed : Bool → List Bytes → List Bytes
  | _, [] => []
  | blank, line :: rest =>
    let isBlank := line == ['\n']
    if blank && isBlank then squeezed true rest else line :: squeezed isBlank rest

/-- Pass on files. -/
def cat (name : Bytes) (args : List Bytes) : Session Nat :=
  let known : Known :=
    { letters := "nbsETAeutv".toList.map fun c => (c, false)
      names := [("number", 'n'), ("number-nonblank", 'b'), ("squeeze-blank", 's'),
        ("show-ends", 'E'), ("show-tabs", 'T'), ("show-all", 'A')] }
  withArguments name known args fun a => do
    let (files, status) ← readFiles name [] a.operands
    let text := files.flatMap (·.2)
    if a.options.isEmpty then print text
    else
      let ls := lines text
      let ls := if a.has 's' then squeezed false ls else ls
      let ls := ls.map (shownLine (a.has 'T' || a.has 'A' || a.has 't') (a.has 'E' || a.has 'A' || a.has 'e'))
      print (if a.has 'b' then numbered false 1 ls
        else if a.has 'n' then numbered true 1 ls else ls).flatten
    return status

/-- Pass on the input, and write it to files too. -/
def tee (name : Bytes) (args : List Bytes) : Session Nat :=
  withArguments name { letters := [('a', false), ('i', false)], names := [("append", 'a')] } args
    fun a => do
      let text ← readInput
      print text
      for p in a.operands do
        if p = "/dev/stderr".toList then
          let _ ← write 2 text
        else if p = "/dev/stdout".toList then print text
        else
          match (← get).placeFor? p with
          | none => complain name (p ++ ": No such file or directory".toList)
          | some place =>
            Shell.createFile place (!a.has 'a')
            let _ ← Shell.writeTo (.file place) text
      return 0

/-! ## Lines -/

/-- Part of several files, each announced by its name if there are more than one.  What is not needed
of the input is given back. -/
def partsOf (name : Bytes) (paths : List Bytes) (part : Bytes → Bytes) (beginning : Bool) :
    Session Nat := do
  let mut status := 0
  let mut first := true
  for p in if paths.isEmpty then [['-']] else paths do
    match ← readFile p with
    | .ok b =>
      if 1 < paths.length then
        let title := if p = ['-'] then "standard input".toList else p
        print ((if first then [] else ['\n']) ++ "==> ".toList ++ title ++ " <==\n".toList)
      print (part b)
      if beginning && (part b).length < b.length then
        modify fun s => { s with unending := false }
        if p = ['-'] then Shell.giveBackTo 0 (b.drop (part b).length)
      first := false
    | .error m =>
      complain name ("cannot open ".toList ++ quoted p ++ " for reading: ".toList ++ m.toList)
      status := 1
  return status

/-- The arguments with a count that is given by itself, such as `-5`, as that of an option. -/
def countFirst (args : List Bytes) : List Bytes :=
  match args with
  | ('-' :: c :: rest) :: more => if c.isDigit then ['-', 'n'] :: (c :: rest) :: more else args
  | _ => args

/-- The options of tools that pass on the beginning or the end. -/
def partOptions : Known where
  letters := [('n', true), ('c', true), ('q', false), ('v', false), ('f', false)]
  names := [("lines", 'n'), ("bytes", 'c')]

/-- Pass on the beginning of files. -/
def head (name : Bytes) (args : List Bytes) : Session Nat :=
  withArguments name partOptions (countFirst args) fun a => do
    let kind := (a.options.filter fun o => o.1 == 'n' || o.1 == 'c').getLast?.getD ('n', "10".toList)
    let fromEnd := kind.2.head? == some '-'
    match number? (if fromEnd then kind.2.tail else kind.2) with
    | none =>
      complain name ((if kind.1 == 'n' then "invalid number of lines: " else
        "invalid number of bytes: ").toList ++ quoted kind.2)
      return 1
    | some n =>
      let part (b : Bytes) : Bytes :=
        if kind.1 == 'c' then b.take (if fromEnd then b.length - n else n)
        else
          let ls := lines b
          (ls.take (if fromEnd then ls.length - n else n)).flatten
      partsOf name a.operands part (!fromEnd)

/-- Pass on the end of files. -/
def tail (name : Bytes) (args : List Bytes) : Session Nat :=
  withArguments name partOptions (countFirst args) fun a => do
    let kind := (a.options.filter fun o => o.1 == 'n' || o.1 == 'c').getLast?.getD ('n', "10".toList)
    let fromStart := kind.2.head? == some '+'
    let signed := fromStart || kind.2.head? == some '-'
    match number? (if signed then kind.2.tail else kind.2) with
    | none =>
      complain name ((if kind.1 == 'n' then "invalid number of lines: " else
        "invalid number of bytes: ").toList ++ quoted kind.2)
      return 1
    | some n =>
      let part (b : Bytes) : Bytes :=
        if kind.1 == 'c' then b.drop (if fromStart then n - 1 else b.length - n)
        else
          let ls := lines b
          (ls.drop (if fromStart then n - 1 else ls.length - n)).flatten
      partsOf name a.operands part false

/-- Is the character a blank? -/
def isBlank (c : Char) : Bool := Format.isBlank c

/-- The number of words in a text. -/
def wordCount : Bool → Bytes → Nat
  | _, [] => 0
  | inside, c :: rest =>
    if isBlank c then wordCount false rest
    else if inside then wordCount true rest
    else wordCount true rest + 1

/-- Count lines, words and bytes. -/
def wc (name : Bytes) (args : List Bytes) : Session Nat :=
  let known : Known :=
    { letters := [('l', false), ('w', false), ('c', false), ('m', false)]
      names := [("lines", 'l'), ("words", 'w'), ("bytes", 'c'), ("chars", 'm')] }
  withArguments name known args fun a => do
    let (files, status) ← readFiles name [] a.operands
    let all := a.options.isEmpty
    let counts (b : Bytes) : List Nat :=
      (if all || a.has 'l' then [b.count '\n'] else []) ++
        (if all || a.has 'w' then [wordCount false b] else []) ++
        (if all || a.has 'c' || a.has 'm' then [b.length] else [])
    let rows := files.map fun (p, b) => (p, counts b)
    let total := (rows.map (·.2)).foldl (fun t r => if t.isEmpty then r else List.zipWith (· + ·) t r) []
    let shown := if 1 < a.operands.length then rows ++ [("total".toList, total)] else rows
    let single := (total.length == 1) && a.operands.length ≤ 1
    let width :=
      if single then 1
      else if a.operands.isEmpty then 7
      else total.foldl (fun w n => max w (Nat.toDigits 10 n).length) 1
    for (p, ns) in shown do
      let label := if a.operands.isEmpty then [] else ' ' :: p
      print (Bytes.joined [' '] (ns.map (column width)) ++ label ++ ['\n'])
    return status

/-- Pass on lines in another order or form. -/
def onLines (name : Bytes) (args : List Bytes) (f : List Bytes → List Bytes) : Session Nat :=
  withArguments name { letters := [] } args fun a => do
    let (files, status) ← readFiles name [] a.operands
    print (f (files.flatMap fun p => lines p.2)).flatten
    return status

/-- Pass on lines, the last one first. -/
def tac (name : Bytes) (args : List Bytes) : Session Nat :=
  onLines name args List.reverse

/-- Pass on lines, each from its end to its beginning. -/
def rev (name : Bytes) (args : List Bytes) : Session Nat :=
  onLines name args (List.map fun l => (bare l).reverse ++ l.drop (bare l).length)

/-- The number that a line begins with. -/
def leadingNumber (l : Bytes) : Int :=
  let s := l.dropWhile fun c => c == ' ' || c == '\t'
  match s with
  | '-' :: s => -(Nat.ofDigitChars 10 (s.takeWhile Char.isDigit) 0 : Int)
  | s => (Nat.ofDigitChars 10 (s.takeWhile Char.isDigit) 0 : Int)

/-- Lines without those that equal the one before in some respect. -/
def withoutRepeats (same : Bytes → Bytes → Bool) : List Bytes → List Bytes
  | [] => []
  | [a] => [a]
  | a :: b :: rest =>
    if same a b then
      match withoutRepeats same (b :: rest) with
      | [] => [a]
      | _ :: kept => a :: kept
    else a :: withoutRepeats same (b :: rest)

/-- Pass on lines in order. -/
def sort (name : Bytes) (args : List Bytes) : Session Nat :=
  let known : Known :=
    { letters := [('u', false), ('n', false), ('r', false), ('f', false), ('s', false), ('b', false)]
      names := [("unique", 'u'), ("numeric-sort", 'n'), ("reverse", 'r'), ("stable", 's')] }
  withArguments name known args fun a => do
    for p in a.operands do
      if p != ['-'] && ((← get).lookup p).isNone then
        complain name ("cannot read: ".toList ++ p ++ ": No such file or directory".toList)
        return 2
    let (files, status) ← readFiles name [] a.operands
    let ls := files.flatMap fun p => (lines p.2).map bare
    let key (l : Bytes) : Bytes := if a.has 'f' then l.map Char.toUpper else l
    let before (x y : Bytes) : Bool :=
      if a.has 'n' && leadingNumber x != leadingNumber y then leadingNumber x < leadingNumber y
      else if key x != key y then decide (key x < key y)
      else !decide (y < x)
    let same (x y : Bytes) : Bool :=
      if a.has 'n' then leadingNumber x == leadingNumber y else key x == key y
    let sorted := ls.mergeSort fun x y => if a.has 'r' then before y x else before x y
    print ((if a.has 'u' then withoutRepeats same sorted else sorted).flatMap (· ++ ['\n']))
    return status

/-- Lines that follow each other and are the same, with their number. -/
def runs : List Bytes → List (Nat × Bytes)
  | [] => []
  | l :: rest =>
    match runs rest with
    | (n, m) :: more => if l == m then (n + 1, l) :: more else (1, l) :: (n, m) :: more
    | [] => [(1, l)]

/-- Pass on lines once that follow each other and are the same. -/
def uniq (name : Bytes) (args : List Bytes) : Session Nat :=
  let known : Known :=
    { letters := [('c', false), ('d', false), ('u', false)]
      names := [("count", 'c'), ("repeated", 'd'), ("unique", 'u')] }
  withArguments name known args fun a => do
    let (files, status) ← readFiles name [] (a.operands.take 1)
    let rs := runs (files.flatMap fun p => (lines p.2).map bare)
    let kept := rs.filter fun r => (!a.has 'd' || 1 < r.1) && (!a.has 'u' || r.1 == 1)
    for (n, l) in kept do
      print ((if a.has 'c' then column 7 n ++ [' '] else []) ++ l ++ ['\n'])
    return status

/-! ## Characters and fields -/

/-- The characters of a named class. -/
def classChars (name : String) : Option Bytes :=
  let all := (List.range 128).map Char.ofNat
  match name with
  | "lower" => some (all.filter Char.isLower)
  | "upper" => some (all.filter Char.isUpper)
  | "alpha" => some (all.filter Char.isAlpha)
  | "digit" => some (all.filter Char.isDigit)
  | "alnum" => some (all.filter Char.isAlphanum)
  | "space" => some (all.filter isBlank)
  | "blank" => some ['\t', ' ']
  | "punct" => some (all.filter fun c => '!' ≤ c && c ≤ '~' && !c.isAlphanum)
  | "print" => some (all.filter fun c => ' ' ≤ c && c ≤ '~')
  | "cntrl" => some (all.filter fun c => c < ' ' || c == '\x7f')
  | _ => none

/-- The characters from one to another. -/
def charsBetween (a b : Char) : Bytes :=
  (List.range (b.toNat + 1 - a.toNat)).map fun n => Char.ofNat (a.toNat + n)

/-- The characters that a set of `tr` means.  The number bounds its parts. -/
def setChars : Nat → Bytes → Bytes
  | 0, _ => []
  | n + 1, s =>
    match s with
    | [] => []
    | '[' :: ':' :: rest =>
      let word := rest.takeWhile Char.isAlpha
      match rest.drop word.length, classChars (String.ofList word) with
      | ':' :: ']' :: more, some cs => cs ++ setChars n more
      | _, _ => '[' :: setChars n (':' :: rest)
    | '\\' :: c :: rest =>
      if '0' ≤ c && c ≤ '7' then
        let ds := ((c :: rest).take 3).takeWhile fun c => '0' ≤ c && c ≤ '7'
        Bytes.byte (ds.foldl (fun v d => 8 * v + (d.toNat - 48)) 0) ::
          setChars n ((c :: rest).drop ds.length)
      else
        let d :=
          match c with
          | 'n' => '\n'
          | 't' => '\t'
          | 'r' => '\r'
          | 'a' => '\x07'
          | 'b' => '\x08'
          | 'f' => '\x0c'
          | 'v' => '\x0b'
          | c => c
        d :: setChars n rest
    | a :: '-' :: b :: rest => charsBetween a b ++ setChars n rest
    | a :: rest => a :: setChars n rest

/-- A text in which characters that follow each other and are the same stand once, if they belong to
a set. -/
def squeezeChars (set : Bytes) : Bytes → Bytes
  | [] => []
  | [a] => [a]
  | a :: b :: rest =>
    if a == b && set.contains a then squeezeChars set (b :: rest)
    else a :: squeezeChars set (b :: rest)

/-- Replace, remove or squeeze characters. -/
def tr (name : Bytes) (args : List Bytes) : Session Nat :=
  let known : Known :=
    { letters := [('d', false), ('s', false), ('c', false), ('C', false), ('t', false)]
      names := [("delete", 'd'), ("squeeze-repeats", 's'), ("complement", 'c')] }
  withArguments name known args fun a => do
    let sets := a.operands.map fun s => setChars (s.length + 1) s
    let complement (s : Bytes) : Bytes :=
      if a.has 'c' || a.has 'C' then
        ((List.range 256).map Char.ofNat).filter fun c => !s.contains c
      else s
    match sets with
    | [] => refuse name "missing operand".toList
    | [one] =>
      if a.has 'd' then
        print ((← readInput).filter fun c => !(complement one).contains c)
        return 0
      else if a.has 's' then
        print (squeezeChars (complement one) (← readInput))
        return 0
      else
        complain name ("missing operand after ".toList ++ quoted (a.operands.headD []))
        let _ ← write 2 "Two strings must be given when translating.\n".toList
        let _ ← write 2 ("Try '".toList ++ name ++ " --help' for more information.\n".toList)
        return 1
    | one :: two :: _ =>
      let set := complement one
      let b ← readInput
      if a.has 'd' then
        print (squeezeChars two (b.filter fun c => !set.contains c))
      else
        let replaced := b.map fun c =>
          match (List.range set.length).reverse.find? fun k => set[k]? == some c with
          | some k => (two[k]? <|> two.getLast?).getD c
          | none => c
        print (if a.has 's' then squeezeChars two replaced else replaced)
      return 0

/-- The ranges of a list such as `1,3-5,7-`. -/
def ranges? (s : Bytes) : Option (List (Nat × Option Nat)) :=
  (Bytes.split ',' s).mapM fun part =>
    match Bytes.split '-' part with
    | [a] => (number? a).map fun n => (n, some n)
    | [a, b] =>
      let low := if a.isEmpty then some 1 else number? a
      let high := if b.isEmpty then some none else (number? b).map some
      match low, high with
      | some l, some h => if a.isEmpty && b.isEmpty then none else some (l, h)
      | _, _ => none
    | _ => none

/-- The items whose places, counted from one, are in some ranges. -/
def select {α : Type} (rs : List (Nat × Option Nat)) (items : List α) : List α :=
  ((items.zip (List.range items.length)).filter fun (_, k) =>
    rs.any fun (low, high) => low ≤ k + 1 && high.all (k + 1 ≤ ·)).map (·.1)

/-- Pass on parts of lines. -/
def cut (name : Bytes) (args : List Bytes) : Session Nat :=
  let known : Known :=
    { letters := [('d', true), ('f', true), ('c', true), ('b', true), ('s', false)]
      names := [("delimiter", 'd'), ("fields", 'f'), ("characters", 'c'), ("bytes", 'b')] }
  withArguments name known args fun a => do
    let chosen := a.options.find? fun o => o.1 == 'f' || o.1 == 'c' || o.1 == 'b'
    match chosen with
    | none => refuse name "you must specify a list of bytes, characters, or fields".toList
    | some (kind, list) =>
      match ranges? list with
      | none => refuse name "invalid field range".toList
      | some rs =>
        let (files, status) ← readFiles name [] a.operands
        let d := ((a.value? 'd').getD ['\t']).headD '\t'
        for l in files.flatMap fun p => (lines p.2).map bare do
          if kind == 'f' then
            if l.contains d then print (Bytes.joined [d] (select rs (Bytes.split d l)) ++ ['\n'])
            else if !a.has 's' then print (l ++ ['\n'])
          else print (select rs l ++ ['\n'])
        return status

/-! ## Paths -/

/-- A path without slashes at its end. -/
def withoutEndSlashes (p : Bytes) : Bytes :=
  let p' := (p.reverse.dropWhile (· == '/')).reverse
  if p'.isEmpty && !p.isEmpty then ['/'] else p'

/-- The last part of a path, without an ending. -/
def lastPart (ending p : Bytes) : Bytes :=
  let p := withoutEndSlashes p
  let last := if p = ['/'] then p else (p.reverse.takeWhile (· != '/')).reverse
  if ending.length < last.length && ending.reverse.isPrefixOf last.reverse then
    last.take (last.length - ending.length)
  else last

/-- Write the last part of paths. -/
def basename (name : Bytes) (args : List Bytes) : Session Nat :=
  let known : Known :=
    { letters := [('a', false), ('s', true), ('z', false)]
      names := [("multiple", 'a'), ("suffix", 's'), ("zero", 'z')] }
  withArguments name known args fun a => do
    let end_ := if a.has 'z' then ['\x00'] else ['\n']
    match a.operands, a.has 'a' || a.has 's' with
    | [], _ => refuse name "missing operand".toList
    | ps, true =>
      for p in ps do
        print (lastPart ((a.value? 's').getD []) p ++ end_)
      return 0
    | [p], false => do
      print (lastPart [] p ++ end_)
      return 0
    | [p, ending], false => do
      print (lastPart ending p ++ end_)
      return 0
    | _ :: _ :: extra :: _, false => refuse name ("extra operand ".toList ++ quoted extra)

/-- A path without its last part. -/
def parentPart (p : Bytes) : Bytes :=
  let p := withoutEndSlashes p
  if !p.contains '/' then ['.']
  else if p = ['/'] then p
  else withoutEndSlashes ((p.reverse.dropWhile (· != '/')).reverse)

/-- Write paths without their last part. -/
def dirname (name : Bytes) (args : List Bytes) : Session Nat :=
  withArguments name { letters := [('z', false)], names := [("zero", 'z')] } args fun a => do
    if a.operands.isEmpty then refuse name "missing operand".toList
    else
      for p in a.operands do
        print (parentPart p ++ (if a.has 'z' then ['\x00'] else ['\n']))
      return 0

end Vigil.Program.Tool
