import Vigil.Text.CaseShifts
import Vigil.Text.Char

/-!
# Lower case

`lowercase` replaces every letter by its small letter.  Two letters need more than the table: the
dotted capital I becomes two characters, and a capital sigma at the end of a word becomes the
final sigma.
-/

namespace Vigil.Text

/-- The small form of a character, without regard to its neighbours. -/
def lowerChar (c : Char) : List Char :=
  if c.toNat < 128 then [c.toLower]
  else if c.toNat == 0x130 then ['i', '\u0307']
  else [Char.ofNat (shifted Shifts.lowercase c.toNat)]

/-- Is the first character that case mapping does not look across a cased one? -/
def meetsCased (s : List Char) : Bool :=
  match s.dropWhile isCaseIgnorable with
  | [] => false
  | c :: _ => isCased c

/-- The small letters of `s`, where `before` holds what stands before `s`, nearest first.  A
capital sigma is final if a cased letter stands before it and none follows. -/
def lowerAfter (before : List Char) : List Char → List Char
  | [] => []
  | c :: rest =>
    let small :=
      if c == 'Σ' then
        if meetsCased before && !meetsCased rest then ['ς'] else ['σ']
      else lowerChar c
    small ++ lowerAfter (c :: before) rest

/-- The text in lower case. -/
def lowerChars (s : List Char) : List Char :=
  lowerAfter [] s

/-- The text in lower case. -/
def lowercase (s : String) : String :=
  String.ofList (lowerChars s.toList)

/-! ## Plain letters -/

/-- The text in lower case as far as the 26 plain letters go. -/
def lowercasePlain (s : String) : String :=
  String.ofList (s.toList.map Char.toLower)

/-- Equality up to the case of the 26 plain letters. -/
def eqPlainCase (a b : String) : Bool :=
  lowercasePlain a == lowercasePlain b

theorem eqPlainCase_refl (a : String) : eqPlainCase a a = true := by
  simp [eqPlainCase]

theorem eqPlainCase_comm (a b : String) : eqPlainCase a b = eqPlainCase b a := by
  simp only [eqPlainCase, Bool.beq_comm]

@[simp]
theorem toList_lowercase (s : String) : (lowercase s).toList = lowerChars s.toList := by
  simp [lowercase]

end Vigil.Text
