/-!
# Locations

A location is a file, a range of lines and possibly a function.  Two locations overlap within a
tolerance if they are in the same file and neither begins more than that many lines below the end
of the other.
-/

namespace Vigil

/-- A range of lines of a file; both ends belong to it. -/
structure Location where
  file : String
  startLine : UInt32
  endLine : UInt32
  function : Option String := none
deriving DecidableEq, Repr, Inhabited

namespace Location

/-- The range between two lines, whichever comes first. -/
def between (file : String) (a b : UInt32) : Location :=
  if a ≤ b then ⟨file, a, b, none⟩ else ⟨file, b, a, none⟩

/-- The line so many lines below another, or the last line there can be. -/
def lineBelow (line tolerance : UInt32) : UInt32 :=
  if line.toNat + tolerance.toNat < UInt32.size then line + tolerance
  else UInt32.ofNat (UInt32.size - 1)

/-- Do the ranges overlap, if each is extended by `tolerance` lines at its end? -/
def overlaps (a b : Location) (tolerance : UInt32) : Bool :=
  a.file == b.file && decide (a.startLine ≤ lineBelow b.endLine tolerance) &&
    decide (b.startLine ≤ lineBelow a.endLine tolerance)

/-- The text of a location: file and lines. -/
def render (l : Location) : String :=
  if l.startLine = l.endLine then s!"{l.file}:{l.startLine.toNat}"
  else s!"{l.file}:{l.startLine.toNat}-{l.endLine.toNat}"

/-! ## Laws -/

/-- No line lies below the last one, so the bound does not matter. -/
theorem le_lineBelow_iff {n line t : UInt32} :
    n ≤ lineBelow line t ↔ n.toNat ≤ line.toNat + t.toNat := by
  have hn : n.toNat < UInt32.size := n.toNat_lt_size
  rw [UInt32.le_iff_toNat_le, lineBelow]
  split
  · rename_i h
    rw [UInt32.toNat_add, Nat.mod_eq_of_lt h]
  · rename_i h
    have hlast : (UInt32.ofNat (UInt32.size - 1)).toNat = UInt32.size - 1 := by decide
    omega

theorem overlaps_comm (a b : Location) (t : UInt32) : a.overlaps b t = b.overlaps a t := by
  simp only [overlaps, Bool.and_assoc]
  rw [Bool.beq_comm]
  simp only [Bool.and_comm]

theorem between_ordered (file : String) (a b : UInt32) :
    (between file a b).startLine ≤ (between file a b).endLine := by
  unfold between
  split
  · assumption
  · rename_i h
    exact UInt32.le_of_lt (UInt32.not_le.1 h)

theorem overlaps_self {a : Location} (h : a.startLine ≤ a.endLine) (t : UInt32) :
    a.overlaps a t = true := by
  have h' : a.startLine.toNat ≤ a.endLine.toNat := UInt32.le_iff_toNat_le.1 h
  simp only [overlaps, beq_self_eq_true, le_lineBelow_iff, Bool.true_and, Bool.and_self,
    decide_eq_true_eq]
  omega

end Location

end Vigil
