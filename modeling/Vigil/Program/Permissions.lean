import Vigil.Program.Bytes

/-!
# Permissions

Permissions are a number of nine bits: for the owner, the group and all others, who may read, write
and run.  A change such as `u=rw,go-x` has several parts, which are carried out one after another.
-/

namespace Vigil.Program.Permissions

/-- One part of a change: whom it is about, as the bits that may change, its sign and its letters. -/
structure Change where
  places : Nat
  sign : Char
  letters : Bytes

/-- The bits of those whom a letter means. -/
def placesOf (c : Char) : Nat :=
  if c == 'u' then 0o700 else if c == 'g' then 0o070 else if c == 'o' then 0o007 else 0o777

/-- Read the parts of a change; `places` are those of the part that has begun.  The number bounds the
parts. -/
def readChanges : Nat → Option Nat → Bytes → Option (List Change)
  | 0, _, _ => none
  | n + 1, none, s =>
    let who := s.takeWhile "ugoa".toList.contains
    let places := (who.map placesOf).foldl (· ||| ·) 0
    readChanges n (some (if who.isEmpty then 0o777 else places)) (s.drop who.length)
  | n + 1, some places, sign :: rest =>
    if sign == '=' || sign == '+' || sign == '-' then
      let copied := (rest.take 1).takeWhile "ugo".toList.contains
      let letters := if copied.isEmpty then rest.takeWhile "rwxXst".toList.contains else copied
      let more :=
        match rest.drop letters.length with
        | [] => some []
        | ',' :: more => readChanges n none more
        | more => readChanges n (some places) more
      more.map (⟨places, sign, letters⟩ :: ·)
    else none
  | _ + 1, some _, [] => none

/-- The bits that a letter stands for, for everyone. -/
def bitsOf (old : Nat) (c : Char) : Nat :=
  if c == 'r' then 0o444
  else if c == 'w' then 0o222
  else if c == 'x' || (c == 'X' && old &&& 0o111 != 0) then 0o111
  else if c == 'u' then old / 64 % 8 * 73
  else if c == 'g' then old / 8 % 8 * 73
  else if c == 'o' then old % 8 * 73
  else 0

/-- Carry out one part of a change. -/
def Change.apply (old : Nat) (c : Change) : Nat :=
  let bits := (c.letters.map (bitsOf old)).foldl (· ||| ·) 0 &&& c.places
  if c.sign == '=' then (old &&& (0o777 ^^^ c.places)) ||| bits
  else if c.sign == '+' then old ||| bits
  else old &&& (0o777 ^^^ bits)

/-- The permissions after a change, unless it cannot be read. -/
def change? (old : Nat) (s : Bytes) : Option Nat :=
  (readChanges (2 * s.length + 2) none s).map fun cs => cs.foldl Change.apply old

end Vigil.Program.Permissions
