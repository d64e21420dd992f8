import Mathlib.Algebra.Order.Group.Int
import Mathlib.Data.Prod.Lex
import Vigil.Quantity

/-!
# Doubles compared

Doubles that are numbers are compared as their ranks are, which stand in a linear order; what is no
number is neither at most anything nor above it.

* `rank`, `le_iff` and `lt_iff` -- the order of doubles, as one of triples of integers;
* `not_lt_iff` and `le_trans` -- of two numbers one is at most the other or above it, and what is at
  most a third number is so through a second;
* `clampUnit_mem` -- a finite double is brought between zero and one.
-/

namespace Vigil.Double

open Float.Model (UnpackedFloat)

/-! ## Doubles taken apart -/

/-- The place of a number among all numbers: what is infinite at the ends, and what is between them
by its sign, its exponent and its mantissa. -/
def place : UnpackedFloat → ℤ ×ₗ ℤ ×ₗ ℤ
  | .infinity .negative => toLex (-2, toLex (0, 0))
  | .finite .negative m e _ => toLex (-1, toLex (-e, -m))
  | .notANumber | .zero _ => toLex (0, toLex (0, 0))
  | .finite .positive m e _ => toLex (1, toLex (e, m))
  | .infinity .positive => toLex (2, toLex (0, 0))

/-- Exponents and then mantissas, compared at once. -/
theorem then_compare_eq_cmp (s e d : ℤ) (m n : ℕ) :
    (compare e d).then (compare m n) =
      cmp (toLex (s, toLex (e, (m : ℤ)))) (toLex (s, toLex (d, (n : ℤ)))) := by
  rcases lt_trichotomy e d with h | rfl | h
  · simp [compare_lt_iff_lt.2 h, cmp, cmpUsing, Prod.Lex.toLex_lt_toLex, h]
  · rcases lt_trichotomy m n with h | rfl | h
    · simp [compare_lt_iff_lt.2 h, cmp, cmpUsing, Prod.Lex.toLex_lt_toLex, h]
    · simp [cmp, cmpUsing]
    · simp [compare_gt_iff_gt.2 h, cmp, cmpUsing, Prod.Lex.toLex_lt_toLex, h, h.not_gt]
  · simp [compare_gt_iff_gt.2 h, cmp, cmpUsing, Prod.Lex.toLex_lt_toLex, h, h.not_gt, h.ne']

/-- Below zero the order is the other way round. -/
theorem cmp_neg (s e d m n : ℤ) :
    cmp (toLex (s, toLex (-e, -m))) (toLex (s, toLex (-d, -n))) =
      (cmp (toLex (s, toLex (e, m))) (toLex (s, toLex (d, n)))).swap := by
  rw [cmp_swap]
  simp [cmp, cmpUsing, Prod.Lex.toLex_lt_toLex, eq_comm]

theorem compare_eq_cmp {a b : UnpackedFloat} (ha : a.isNaN = false) (hb : b.isNaN = false) :
    a.compare b = some (cmp (place a) (place b)) := by
  rcases a with (_ | _) | _ | _ | ⟨_ | _, m, e, _⟩ <;>
    rcases b with (_ | _) | _ | _ | ⟨_ | _, n, d, _⟩ <;> first | contradiction | rfl | skip
  -- What is left are two negative and two positive numbers.
  · have hswap := (congrArg Ordering.swap (then_compare_eq_cmp (-1) e d m n)).trans
      (cmp_neg (-1) e d m n).symm
    exact congrArg some hswap
  · exact congrArg some (then_compare_eq_cmp 1 e d m n)

theorem compare_eq_none {a b : UnpackedFloat} (h : ¬(a.isNaN = false ∧ b.isNaN = false)) :
    a.compare b = none := by
  cases a with
  | notANumber => rfl
  | infinity s | zero s | finite s =>
    cases b with
    | notANumber => cases s <;> rfl
    | infinity | zero | finite => exact absurd ⟨rfl, rfl⟩ h

/-! ## Doubles -/

/-- The rank of a double among all that are numbers. -/
def rank (x : Float) : ℤ ×ₗ ℤ ×ₗ ℤ :=
  place x.toModel.unpack

variable {x y z : Float}

theorem le_iff : x ≤ y ↔ (x.isNaN = false ∧ y.isNaN = false) ∧ rank x ≤ rank y := by
  have hle : x ≤ y ↔ (x.toModel.unpack.compare y.toModel.unpack).any (·.isLE) = true :=
    ⟨of_decide_eq_true, decide_eq_true⟩
  rw [hle]
  by_cases hnumbers : x.isNaN = false ∧ y.isNaN = false
  · rw [compare_eq_cmp hnumbers.1 hnumbers.2, Option.any_some, and_iff_right hnumbers,
      ← Ordering.ne_gt_iff_isLE, cmp_eq_gt_iff, not_lt]
    rfl
  · rw [compare_eq_none hnumbers]
    exact iff_of_false Bool.false_ne_true fun h => hnumbers h.1

theorem lt_iff : x < y ↔ (x.isNaN = false ∧ y.isNaN = false) ∧ rank x < rank y := by
  have hlt : x < y ↔ (x.toModel.unpack.compare y.toModel.unpack == some .lt) = true :=
    ⟨of_decide_eq_true, decide_eq_true⟩
  rw [hlt]
  by_cases hnumbers : x.isNaN = false ∧ y.isNaN = false
  · rw [compare_eq_cmp hnumbers.1 hnumbers.2, beq_iff_eq, Option.some_inj, cmp_eq_lt_iff,
      and_iff_right hnumbers]
    rfl
  · rw [compare_eq_none hnumbers]
    exact iff_of_false Bool.false_ne_true fun h => hnumbers h.1

theorem isNaN_of_isFinite (hx : x.isFinite = true) : x.isNaN = false := by
  rw [Float.isFinite, Float.Model.isFinite] at hx
  rw [Float.isNaN, Float.Model.isNaN]
  cases hunpacked : x.toModel.unpack with
  | notANumber =>
    rw [hunpacked] at hx
    cases hx
  | infinity | zero | finite => rfl

/-- **Of two numbers one is not above the other if it is at most the other.** -/
theorem not_lt_iff (hx : x.isNaN = false) (hy : y.isNaN = false) : ¬y < x ↔ x ≤ y := by
  rw [le_iff, lt_iff, and_iff_right (And.intro hx hy), and_iff_right (And.intro hy hx), not_lt]

theorem le_of_lt (h : x < y) : x ≤ y := by
  rw [lt_iff] at h
  exact le_iff.2 ⟨h.1, h.2.le⟩

theorem le_trans (hxy : x ≤ y) (hyz : y ≤ z) : x ≤ z := by
  rw [le_iff] at hxy hyz ⊢
  exact ⟨⟨hxy.1.1, hyz.1.2⟩, hxy.2.trans hyz.2⟩

theorem greatest_of_isNaN (hx : x.isNaN = true) (y : Float) : Quantity.greatest x y = y :=
  if_pos hx

theorem greatest_of_numbers (hx : x.isNaN = false) (hy : y.isNaN = false) :
    Quantity.greatest x y = if x < y then y else x :=
  (if_neg (Bool.eq_false_iff.1 hx)).trans (if_neg (Bool.eq_false_iff.1 hy))

theorem least_of_numbers (hx : x.isNaN = false) (hy : y.isNaN = false) :
    Quantity.least x y = if y < x then y else x :=
  (if_neg (Bool.eq_false_iff.1 hx)).trans (if_neg (Bool.eq_false_iff.1 hy))

theorem greatest_of_le (h : y ≤ x) : Quantity.greatest x y = x := by
  have hnumbers := (le_iff.1 h).1
  rw [greatest_of_numbers hnumbers.2 hnumbers.1, if_neg ((not_lt_iff hnumbers.1 hnumbers.2).2 h)]

/-- A number is at most the greater of another and itself. -/
theorem le_greatest (x : Float) (hy : y.isNaN = false) : y ≤ Quantity.greatest x y := by
  have hself : y ≤ y := le_iff.2 ⟨⟨hy, hy⟩, le_rfl⟩
  cases hx : x.isNaN with
  | true => rwa [greatest_of_isNaN hx]
  | false =>
    rw [greatest_of_numbers hx hy]
    split
    · exact hself
    · rename_i hless
      exact (not_lt_iff hy hx).1 hless

/-- What is at most the lesser of two numbers is at most both. -/
theorem le_least_iff (hx : x.isNaN = false) (hy : y.isNaN = false) :
    z ≤ Quantity.least x y ↔ z ≤ x ∧ z ≤ y := by
  rw [least_of_numbers hx hy]
  split
  · rename_i hless
    exact ⟨fun h => ⟨le_trans h (le_of_lt hless), h⟩, fun h => h.2⟩
  · rename_i hless
    rw [not_lt_iff hx hy] at hless
    exact ⟨fun h => ⟨h, le_trans h hless⟩, fun h => h.1⟩

theorem isNaN_least (hx : x.isNaN = false) (hy : y.isNaN = false) :
    (Quantity.least x y).isNaN = false := by
  rw [least_of_numbers hx hy]
  split <;> assumption

/-- What is no number makes a product that is none. -/
theorem isNaN_mul (x : Float) (hy : y.isNaN = true) : (x * y).isNaN = true := by
  have hunpacked : y.toModel.unpack = .notANumber := by
    rw [Float.isNaN, Float.Model.isNaN] at hy
    cases hunpacked : y.toModel.unpack with
    | notANumber => rfl
    | infinity | zero | finite =>
      rw [hunpacked] at hy
      cases hy
  have hproduct : (x * y).toModel =
      Float.Model.pack (UnpackedFloat.mul .binary64 x.toModel.unpack y.toModel.unpack) := rfl
  have hnone : UnpackedFloat.mul .binary64 x.toModel.unpack .notANumber = .notANumber := by
    cases x.toModel.unpack <;> rfl
  rw [Float.isNaN, hproduct, hunpacked, hnone]
  rfl

/-- **A finite double is brought between zero and one.** -/
theorem clampUnit_mem (hx : Quantity.isFinite x = true) :
    0.0 ≤ Quantity.clampUnit x ∧ Quantity.clampUnit x ≤ 1.0 := by
  have hnumber : x.isNaN = false := isNaN_of_isFinite hx
  rw [Quantity.clampUnit]
  split
  · exact ⟨by decide, by decide⟩
  · rename_i hzero
    split
    · exact ⟨by decide, by decide⟩
    · rename_i hone
      exact ⟨(not_lt_iff (by decide) hnumber).1 (mt decide_eq_true hzero),
        (not_lt_iff hnumber (by decide)).1 (mt decide_eq_true hone)⟩

theorem isFinite_clampUnit (hx : Quantity.isFinite x = true) :
    Quantity.isFinite (Quantity.clampUnit x) = true := by
  rw [Quantity.clampUnit]
  split
  · decide
  · split
    · decide
    · exact hx

/-- Between zero and one a double stays where it is. -/
theorem clampUnit_of_mem (hzero : 0.0 ≤ x) (hone : x ≤ 1.0) : Quantity.clampUnit x = x := by
  have hbelow : Quantity.below x 0.0 = false :=
    decide_eq_false ((not_lt_iff (le_iff.1 hzero).1.1 (le_iff.1 hzero).1.2).2 hzero)
  have habove : Quantity.below 1.0 x = false :=
    decide_eq_false ((not_lt_iff (le_iff.1 hone).1.1 (le_iff.1 hone).1.2).2 hone)
  show (if Quantity.below x 0.0 then 0.0 else if Quantity.below 1.0 x then 1.0 else x) = x
  rw [hbelow, habove]
  rfl

end Vigil.Double
