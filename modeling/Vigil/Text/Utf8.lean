/-!
# Reading bytes as text

`ofBytesLossy` reads bytes as UTF-8.  What is not well formed is replaced: each longest prefix of
a character that breaks off, and each byte that can begin no character, becomes one replacement
character.
-/

namespace Vigil.Text

/-- The mark that stands for bytes that are no text. -/
def replacementChar : Char := '\ufffd'

/-- A byte of the form `10xxxxxx`. -/
def isContinuation (b : UInt8) : Bool :=
  0x80 ≤ b && b ≤ 0xbf

/-- What a first byte announces: the number of bytes to follow, the bounds of the next byte, and
the bits it contributes. -/
def leadByte? (b : UInt8) : Option (Nat × UInt8 × UInt8 × Nat) :=
  if b < 0x80 then some (0, 0, 0, b.toNat)
  else if b < 0xc2 then none
  else if b < 0xe0 then some (1, 0x80, 0xbf, b.toNat - 0xc0)
  else if b == 0xe0 then some (2, 0xa0, 0xbf, 0)
  else if b == 0xed then some (2, 0x80, 0x9f, b.toNat - 0xe0)
  else if b < 0xf0 then some (2, 0x80, 0xbf, b.toNat - 0xe0)
  else if b == 0xf0 then some (3, 0x90, 0xbf, 0)
  else if b < 0xf4 then some (3, 0x80, 0xbf, b.toNat - 0xf0)
  else if b == 0xf4 then some (3, 0x80, 0x8f, b.toNat - 0xf0)
  else none

/-- A character that has been begun: bytes still to come, bounds of the next one, bits so far. -/
abbrev Partial := Nat × UInt8 × UInt8 × Nat

/-- Read bytes, of which the first may continue the character that has been begun. -/
def decodeFrom : Option Partial → List UInt8 → List Char
  | none, [] => []
  | some _, [] => [replacementChar]
  | none, b :: rest =>
    match leadByte? b with
    | none => replacementChar :: decodeFrom none rest
    | some (0, _, _, bits) => Char.ofNat bits :: decodeFrom none rest
    | some (n + 1, lo, hi, bits) => decodeFrom (some (n + 1, lo, hi, bits)) rest
  | some (n, lo, hi, bits), b :: rest =>
    if lo ≤ b && b ≤ hi then
      let bits := bits * 64 + (b.toNat - 0x80)
      if n ≤ 1 then Char.ofNat bits :: decodeFrom none rest
      else decodeFrom (some (n - 1, 0x80, 0xbf, bits)) rest
    else
      match leadByte? b with
      | none => replacementChar :: replacementChar :: decodeFrom none rest
      | some (0, _, _, bits) => replacementChar :: Char.ofNat bits :: decodeFrom none rest
      | some (k + 1, lo, hi, bits) =>
        replacementChar :: decodeFrom (some (k + 1, lo, hi, bits)) rest

/-- The text of some bytes. -/
def ofBytesLossy (bytes : List UInt8) : String :=
  String.ofList (decodeFrom none bytes)

/-- The bytes of a text. -/
def toBytes (s : String) : List UInt8 :=
  s.toUTF8.toList

/-- The length of a text in bytes. -/
def byteSize (s : String) : Nat :=
  s.utf8ByteSize

theorem decodeFrom_nil : decodeFrom none [] = [] := rfl

end Vigil.Text
