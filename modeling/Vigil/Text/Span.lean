/-!
# Spans of code points

Character properties are stored as short lists of spans.  A span `(first, last, step)` stands for
the code points `first, first + step, …, last`; a step of two describes the alternating runs in
which capital and small letters are interleaved.
-/

namespace Vigil.Text

/-- The code points from `first` to `last`, `step` apart. -/
abbrev Span := Nat × Nat × Nat

/-- Does the span hold this code point? -/
def Span.holds (s : Span) (n : Nat) : Bool :=
  s.1 ≤ n && n ≤ s.2.1 && (n - s.1) % s.2.2 == 0

/-- Does one of the spans hold this code point? -/
def inSpans (spans : List Span) (n : Nat) : Bool :=
  spans.any (·.holds n)

/-- A run of code points and the image of the first one; the others are shifted alike. -/
abbrev Shift := Nat × Nat × Nat × Nat

/-- The image of a code point under a shift that covers it. -/
def Shift.image? (s : Shift) (n : Nat) : Option Nat :=
  if Span.holds (s.1, s.2.1, s.2.2.1) n then some (s.2.2.2 + (n - s.1)) else none

/-- The code point that a shift sends to `n`, if there is one. -/
def Shift.source? (s : Shift) (n : Nat) : Option Nat :=
  if s.2.2.2 ≤ n && Span.holds (s.1, s.2.1, s.2.2.1) (s.1 + (n - s.2.2.2)) then
    some (s.1 + (n - s.2.2.2))
  else none

/-- The image of a code point under the first shift that covers it, or the code point itself. -/
def shifted (shifts : List Shift) (n : Nat) : Nat :=
  (shifts.findSome? (·.image? n)).getD n

/-! ## Basic facts -/

theorem inSpans_nil (n : Nat) : inSpans [] n = false := rfl

theorem inSpans_cons (s : Span) (l : List Span) (n : Nat) :
    inSpans (s :: l) n = (s.holds n || inSpans l n) := rfl

theorem inSpans_append (l m : List Span) (n : Nat) :
    inSpans (l ++ m) n = (inSpans l n || inSpans m n) := by
  simp [inSpans]

theorem shifted_nil (n : Nat) : shifted [] n = n := rfl

/-- What a shift sends somewhere is found again from its image. -/
theorem Shift.source?_of_image? {s : Shift} {n m : Nat} (h : s.image? n = some m) :
    s.source? m = some n := by
  unfold Shift.image? at h
  split at h
  next hs =>
    have hm : m = s.2.2.2 + (n - s.1) := by simpa using h.symm
    have hle : s.1 ≤ n := by
      simp [Span.holds] at hs
      exact hs.1.1
    have hn : s.1 + (m - s.2.2.2) = n := by omega
    unfold Shift.source?
    rw [hn]
    simp [hs, hm]
  next => simp at h

end Vigil.Text
