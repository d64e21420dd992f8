import Vigil.Text.Utf8

/-!
# Texts of programs

Programs exchange bytes, which need not be text.  A byte is kept as the character with its number,
so that what a program reads and writes is a list of characters below 256.
-/

namespace Vigil.Program

/-- Bytes, each kept as the character with its number. -/
abbrev Bytes := List Char

namespace Bytes

/-- The bytes of a text. -/
def ofText (s : List Char) : Bytes :=
  (Text.toBytes (String.ofList s)).map fun b => Char.ofNat b.toNat

/-- The bytes themselves. -/
def octets (b : Bytes) : List UInt8 :=
  b.map fun c => UInt8.ofNat c.toNat

/-- The text that the bytes are, as far as they are one. -/
def text (b : Bytes) : String :=
  Text.ofBytesLossy b.octets

/-- The byte of a number, which counts modulo 256. -/
def byte (n : Nat) : Char :=
  Char.ofNat (n % 256)

/-- Bytes with a separator between them. -/
def joined (separator : Bytes) : List Bytes → Bytes
  | [] => []
  | [b] => b
  | b :: rest => b ++ separator ++ joined separator rest

/-- The parts between separators. -/
def split (separator : Char) : Bytes → List Bytes
  | [] => [[]]
  | c :: rest =>
    if c == separator then [] :: split separator rest
    else
      match split separator rest with
      | [] => [[c]]
      | part :: parts => (c :: part) :: parts

@[simp]
theorem length_octets (b : Bytes) : b.octets.length = b.length := by
  simp [octets]

theorem octets_append (a b : Bytes) : octets (a ++ b) = a.octets ++ b.octets := by
  simp [octets]

end Bytes

end Vigil.Program
