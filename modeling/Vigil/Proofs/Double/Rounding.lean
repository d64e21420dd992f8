import Mathlib.Algebra.Order.Field.Rat
import Mathlib.Tactic.Linarith
import Mathlib.Tactic.NormNum
import Mathlib.Tactic.Positivity
import Mathlib.Tactic.Ring

/-!
# How far a double is rounded up

A number that is rounded to a double becomes greater by at most one unit in the last of its 53
places.  So a product of rounded numbers stays in the range of doubles if the exact one lies below
its end by a few such units.
-/

namespace Vigil.Double

open Float.Model (UnpackedFloat Format totalExponent)
open Float.Model.UnpackedFloat

/-! ## One rounding -/

theorem mantissa_shiftRight (em : ExtendedMantissa) (k : Nat) :
    (em >>> k).mantissa = em.mantissa / 2 ^ k := by
  induction k with
  | zero => exact (Nat.div_one _).symm
  | succ k ih =>
    show (em >>> k).mantissa / 2 = _
    rw [ih, Nat.div_div_eq_div_mul, pow_succ]

/-- Rounding adds at most one to a mantissa. -/
theorem roundedMantissa_mem (em : ExtendedMantissa) :
    em.mantissa ≤ em.roundedMantissa ∧ em.roundedMantissa ≤ em.mantissa + 1 := by
  obtain ⟨m, r, s⟩ := em
  have hparity : m % 2 ≤ 1 := Nat.le_of_lt_succ (Nat.mod_lt m Nat.two_pos)
  cases r <;> cases s <;>
    simp only [ExtendedMantissa.roundedMantissa, ExtendedMantissa.accuracy,
      Accuracy.roundToNearestEven] <;> omega

theorem targetExponent_binary64 (m : Nat) (e : Int) :
    Format.binary64.targetExponent (totalExponent m e) = max (m.log2 + e - 52) (-1074) := by
  show max ((m.log2 : Int) + 1 + e - 53) (-1074) = _
  omega

/-- A number of `53 + k` bits is shifted by `k` of them. -/
theorem shiftToTargetExponent_of_log2 {m k : Nat} {e : Int} (hk : m.log2 = 52 + k)
    (he : -1074 ≤ e) :
    (shiftToTargetExponent .binary64 m e .exact).1.mantissa = m / 2 ^ k ∧
      (shiftToTargetExponent .binary64 m e .exact).2 = e + k := by
  have htarget : (Format.binary64.targetExponent (totalExponent m e) - e).toNat = k := by
    rw [targetExponent_binary64]
    omega
  rw [shiftToTargetExponent, shiftToExponent]
  simp only [htarget, mantissa_shiftRight, and_true]
  rfl

theorem div_mem {n k : Nat} (hn : n ≠ 0) (hk : n.log2 = 52 + k) :
    2 ^ 52 ≤ n / 2 ^ k ∧ n / 2 ^ k < 2 ^ 53 := by
  obtain ⟨hlow, hhigh⟩ := (Nat.log2_eq_iff hn).1 hk
  have hpos : 0 < 2 ^ k := Nat.two_pow_pos k
  refine ⟨(Nat.le_div_iff_mul_le hpos).2 ?_, (Nat.div_lt_iff_lt_mul hpos).2 ?_⟩
  · rwa [← pow_add]
  · rwa [← pow_add, show 53 + k = 52 + k + 1 by omega]

/-- The number is written with 53 bits and is neither less than one nor above `b`. -/
def FromOneTo (b : ℚ) (u : UnpackedFloat) : Prop :=
  ∃ s m e h, u = .finite s m e h ∧ 2 ^ 52 ≤ m ∧ m < 2 ^ 53 ∧ -52 ≤ e ∧ (m : ℚ) * 2 ^ e ≤ b

/-- The most by which one rounding makes a number greater. -/
def slack : ℚ := 1 + 2 ^ (-52 : ℤ)

/-- A number of `53 + k` bits that is not less than one, with its last `k` bits rounded away. -/
theorem rounded_le {m k r : Nat} (hm : m ≠ 0) (hk : m.log2 = 52 + k) (hr : r ≤ m / 2 ^ k + 1) :
    (r : ℚ) * 2 ^ k ≤ m * slack := by
  have hbits : 2 ^ 52 * 2 ^ k ≤ m := by
    rw [← pow_add, ← hk]
    exact Nat.log2_self_le hm
  have hnat : r * 2 ^ k ≤ m + 2 ^ k :=
    calc r * 2 ^ k ≤ (m / 2 ^ k + 1) * 2 ^ k := Nat.mul_le_mul_right _ hr
      _ = m / 2 ^ k * 2 ^ k + 2 ^ k := by rw [add_mul, one_mul]
      _ ≤ m + 2 ^ k := Nat.add_le_add_right (Nat.div_mul_le_self ..) _
  have hround : (r : ℚ) * 2 ^ k ≤ m + 2 ^ k := by exact_mod_cast hnat
  have hunit : (2 : ℚ) ^ 52 * 2 ^ k ≤ m := by exact_mod_cast hbits
  have hslack : (m : ℚ) * slack = m + m / 2 ^ 52 := by
    rw [slack]
    ring
  rw [hslack]
  have hle : (2 : ℚ) ^ k ≤ m / 2 ^ 52 := by
    rw [le_div_iff₀ (by positivity), mul_comm]
    exact hunit
  linarith

theorem neg_le_exponent {m k : Nat} {e : Int} (hm : m < 2 ^ (53 + k)) (hone : 1 ≤ (m : ℚ) * 2 ^ e) :
    -52 ≤ e + k := by
  by_contra hlt
  have hexp : (53 + k : Int) + e ≤ 0 := by omega
  have hcast : (m : ℚ) < 2 ^ (53 + k) := by exact_mod_cast hm
  have hlt : (m : ℚ) * 2 ^ e < 1 :=
    calc (m : ℚ) * 2 ^ e < 2 ^ (53 + k) * 2 ^ e :=
          mul_lt_mul_of_pos_right hcast (zpow_pos two_pos e)
      _ = 2 ^ ((53 + k : Int) + e) := by
        rw [zpow_add₀ two_ne_zero]
        norm_cast
      _ ≤ 1 := zpow_le_one_of_nonpos₀ one_le_two hexp
  exact absurd hone (not_le.2 hlt)

/-- **Rounding a number that is not less than one** makes it greater by the slack at most. -/
theorem round_fromOneTo {m : Nat} {e : Int} (s : Sign) (hm : 2 ^ 52 ≤ m) (he : -1074 ≤ e)
    (hone : 1 ≤ (m : ℚ) * 2 ^ e) :
    FromOneTo (m * 2 ^ e * slack) (roundWithAccuracy .binary64 s m e .exact) := by
  have hmpos : m ≠ 0 := by omega
  obtain ⟨k, hk⟩ := Nat.exists_eq_add_of_le ((Nat.le_log2 hmpos).2 hm)
  obtain ⟨hfirst, hfirstExponent⟩ := shiftToTargetExponent_of_log2 hk he
  set first := shiftToTargetExponent .binary64 m e .exact
  obtain ⟨hlow, hhigh⟩ := div_mem hmpos hk
  obtain ⟨hlower, hupper⟩ := roundedMantissa_mem first.1
  rw [hfirst] at hlower hupper
  set r := first.1.roundedMantissa
  -- The rounded mantissa may have got one bit too many, which is then a zero.
  have hr : r ≠ 0 := by omega
  obtain ⟨j, hj⟩ := Nat.exists_eq_add_of_le ((Nat.le_log2 hr).2 (hlow.trans hlower))
  obtain ⟨hsecond, hsecondExponent⟩ := shiftToTargetExponent_of_log2 (e := first.2) hj (by omega)
  obtain ⟨hlow', hhigh'⟩ := div_mem hr hj
  show FromOneTo _ (if h : (shiftToTargetExponent .binary64 r first.2 .exact).1.mantissa = 0 then _
    else .finite s (shiftToTargetExponent .binary64 r first.2 .exact).1.mantissa
      (shiftToTargetExponent .binary64 r first.2 .exact).2 (Nat.pos_of_ne_zero h))
  have hne : (shiftToTargetExponent .binary64 r first.2 .exact).1.mantissa ≠ 0 := by omega
  rw [dif_neg hne]
  refine ⟨s, _, _, _, rfl, by rwa [hsecond], by rwa [hsecond], ?_, ?_⟩
  · have hbits := neg_le_exponent (e := e) (k := k) ((Nat.log2_lt hmpos).1 (by omega)) hone
    omega
  · rw [hsecond, hsecondExponent, hfirstExponent]
    have hdiv : ((r / 2 ^ j : ℕ) : ℚ) * 2 ^ j ≤ r := by
      exact_mod_cast Nat.div_mul_le_self r (2 ^ j)
    have hpos : (0 : ℚ) < 2 ^ e := zpow_pos two_pos e
    calc ((r / 2 ^ j : ℕ) : ℚ) * 2 ^ (e + k + j)
        = (((r / 2 ^ j : ℕ) : ℚ) * 2 ^ j) * 2 ^ k * 2 ^ e := by
          rw [zpow_add₀ two_ne_zero, zpow_add₀ two_ne_zero, zpow_natCast, zpow_natCast]
          ring
      _ ≤ r * 2 ^ k * 2 ^ e := by gcongr
      _ ≤ m * slack * 2 ^ e :=
          mul_le_mul_of_nonneg_right (rounded_le hmpos hk hupper) hpos.le
      _ = m * 2 ^ e * slack := by ring

/-! ## Doubles -/

variable {a b : ℚ} {u v : UnpackedFloat} {x y : Float}

theorem FromOneTo.mono (h : FromOneTo a u) (hab : a ≤ b) : FromOneTo b u := by
  obtain ⟨s, m, e, hpos, rfl, hlow, hhigh, he, hle⟩ := h
  exact ⟨s, m, e, hpos, rfl, hlow, hhigh, he, hle.trans hab⟩

theorem exponent_le {m : Nat} {e : Int} (hm : 2 ^ 52 ≤ m) (hlt : (m : ℚ) * 2 ^ e < 2 ^ 1024) :
    e ≤ 971 := by
  by_contra hgt
  have hexp : ((972 : ℕ) : Int) ≤ e := by omega
  have hcast : (2 : ℚ) ^ 52 ≤ m := by exact_mod_cast hm
  have hpow : (2 : ℚ) ^ 972 ≤ 2 ^ e := by
    rw [← zpow_natCast]
    exact zpow_le_zpow_right₀ one_le_two hexp
  have hge : (2 : ℚ) ^ 1024 ≤ m * 2 ^ e := by
    rw [show 1024 = 52 + 972 from rfl, pow_add]
    exact mul_le_mul hcast hpow (by positivity) (by positivity)
  exact absurd hlt (not_lt.2 hge)

/-- The first bit of a mantissa is not stored, and put back. -/
theorem toNat_implicit {m : Nat} (hlow : 2 ^ 52 ≤ m) (hhigh : m < 2 ^ 53) :
    (1#1 ++ BitVec.ofNat 52 m).toNat = m := by
  rw [BitVec.toNat_append, ← Nat.shiftLeft_add_eq_or_of_lt (BitVec.ofNat 52 m).isLt,
    BitVec.toNat_ofNat, BitVec.toNat_ofNat, Nat.shiftLeft_eq]
  omega

theorem toNat_exponent {n : Nat} (hn : n < 2047) : (BitVec.ofNat 11 n).toNat = n := by
  rw [BitVec.toNat_ofNat, Nat.mod_eq_of_lt (by omega)]

/-- What is stored with an exponent that is neither the least nor the greatest is a number. -/
theorem exists_unpack_of_normal {bits : BitVec Format.binary64.numBits}
    (hfinite : unpackExponent bits ≠ -1#11) (hnormal : unpackExponent bits ≠ 0#11) :
    ∃ hpos, UnpackedFloat.unpack .binary64 bits =
      .finite (.ofBitVec (unpackSign bits)) (1#1 ++ unpackMantissa bits).toNat
        ((unpackExponent bits).toNat - (1023 + 52)) hpos :=
  ⟨_, (if_neg hfinite).trans (if_neg hnormal)⟩

/-- What is stored with the greatest exponent is not finite. -/
theorem isFinite_unpack_of_greatest {bits : BitVec Format.binary64.numBits}
    (h : unpackExponent bits = -1#11) :
    (UnpackedFloat.unpack .binary64 bits).isFinite = false := by
  have hunpack : UnpackedFloat.unpack .binary64 bits =
      if unpackMantissa bits = 0#52 then .infinity (.ofBitVec (unpackSign bits))
      else .notANumber := if_pos h
  rw [hunpack]
  split <;> rfl

theorem ofBitVec_unpackSign (s : Sign) (e : BitVec 11) (m : BitVec 52) :
    Sign.ofBitVec (unpackSign (packComponents .binary64 s e m)) = s := by
  have hsign : unpackSign (packComponents .binary64 s e m) = s.toBitVec := by
    refine BitVec.eq_of_getLsbD_eq fun i hi => ?_
    obtain rfl : i = 0 := by omega
    show ((s.toBitVec ++ e ++ m).extractLsb 63 63).getLsbD 0 = _
    rw [BitVec.getLsbD_extractLsb, BitVec.getLsbD_append, BitVec.getLsbD_append]
    rfl
  rw [hsign]
  cases s <;> rfl

section

variable {s : Sign} {m : Nat} {e : Int}

theorem pack_of_normal (hpos : 0 < m) (hlow : 2 ^ 52 ≤ m) (hhigh : m < 2 ^ 53) (hmax : e ≤ 971) :
    UnpackedFloat.pack .binary64 (.finite s m e hpos) =
      packComponents .binary64 s (BitVec.ofNat 11 (e + 1023 + 52).toNat) (BitVec.ofNat 52 m) := by
  have hlog : m.log2 + 1 = 53 := by
    have h52 : m.log2 = 52 := (Nat.log2_eq_iff hpos.ne').2 ⟨hlow, hhigh⟩
    omega
  have hsmall : ¬2 ^ 11 ≤ (e + 1023 + 52).toNat + 1 := by omega
  show (if 2 ^ 11 ≤ (e + 1023 + 52).toNat + 1 then _ else
    if m.log2 + 1 = 53 then packComponents .binary64 s (BitVec.ofNat 11 (e + 1023 + 52).toNat)
      (BitVec.ofNat 52 m) else _) = _
  rw [if_neg hsmall, if_pos hlog]

/-- **A number of 53 bits in the range of doubles is stored as it is.** -/
theorem unpack_pack (hpos : 0 < m) (hlow : 2 ^ 52 ≤ m) (hhigh : m < 2 ^ 53) (hmin : -1074 ≤ e)
    (hmax : e ≤ 971) : (Float.Model.pack (.finite s m e hpos)).unpack = .finite s m e hpos := by
  obtain ⟨n, hn⟩ := Int.eq_ofNat_of_zero_le (show 0 ≤ e + 1023 + 52 by omega)
  set bits := packComponents .binary64 s (BitVec.ofNat 11 n) (BitVec.ofNat 52 m)
  have hpacked : UnpackedFloat.pack .binary64 (.finite s m e hpos) = bits := by
    rw [pack_of_normal hpos hlow hhigh hmax, hn]
    rfl
  have hstored : unpackExponent bits = BitVec.ofNat 11 n := unpackExponent_packComponents
  have hexponent : (BitVec.ofNat 11 n).toNat = n := toNat_exponent (by omega)
  have hne {v : BitVec 11} (hv : v.toNat ≠ n) : unpackExponent bits ≠ v := fun h =>
    hv (by rw [← h, hstored, hexponent])
  obtain ⟨_, hunpacked⟩ := exists_unpack_of_normal
    (hne (show 2047 ≠ n by omega)) (hne (show 0 ≠ n by omega))
  show UnpackedFloat.unpack .binary64 (UnpackedFloat.pack .binary64 _) = _
  rw [hpacked, hunpacked, UnpackedFloat.finite.injEq]
  refine ⟨ofBitVec_unpackSign .., ?_, ?_⟩
  · rw [unpackMantissa_packComponents, toNat_implicit hlow hhigh]
  · rw [hstored, hexponent]
    omega

end

theorem FromOneTo.pack (h : FromOneTo b u) (hb : b < 2 ^ 1024) :
    FromOneTo b (Float.Model.pack u).unpack := by
  obtain ⟨s, m, e, hpos, rfl, hlow, hhigh, he, hle⟩ := h
  have hmax : e ≤ 971 := exponent_le hlow (hle.trans_lt hb)
  rw [unpack_pack hpos hlow hhigh (by omega) hmax]
  exact ⟨s, m, e, hpos, rfl, hlow, hhigh, he, hle⟩

theorem not_isInf (h : FromOneTo b x.toModel.unpack) : x.isInf = false := by
  obtain ⟨s, m, e, hpos, heq, -⟩ := h
  rw [Float.isInf, Float.Model.isInf, heq]
  rfl

theorem slack_pos : 0 < slack := by
  rw [slack]
  positivity

theorem one_le_slack : 1 ≤ slack := by
  rw [slack]
  norm_num

theorem slack_le_two : slack ≤ 2 := by
  rw [slack]
  norm_num

theorem one_le {m : Nat} {e : Int} (hm : 2 ^ 52 ≤ m) (he : -52 ≤ e) : 1 ≤ (m : ℚ) * 2 ^ e := by
  have hcast : (2 : ℚ) ^ 52 ≤ m := by exact_mod_cast hm
  have hpow : (2 : ℚ) ^ (-52 : ℤ) ≤ 2 ^ e := zpow_le_zpow_right₀ one_le_two he
  calc (1 : ℚ) = 2 ^ 52 * 2 ^ (-52 : ℤ) := by norm_num
    _ ≤ m * 2 ^ e := mul_le_mul hcast hpow (by positivity) (by positivity)

/-- **A product in the range of doubles is rounded once.** -/
theorem FromOneTo.mul (hx : FromOneTo a x.toModel.unpack) (hy : FromOneTo b y.toModel.unpack)
    (hlt : a * b * slack < 2 ^ 1024) : FromOneTo (a * b * slack) (x * y).toModel.unpack := by
  obtain ⟨s, m, e, hmpos, hx, hm, -, he, hma⟩ := hx
  obtain ⟨t, n, d, hnpos, hy, hn, -, hd, hnb⟩ := hy
  have hproduct : (x * y).toModel =
      Float.Model.pack (UnpackedFloat.mul .binary64 x.toModel.unpack y.toModel.unpack) := rfl
  have hvalue : ((m * n : ℕ) : ℚ) * 2 ^ (e + d) = (m * 2 ^ e) * (n * 2 ^ d) := by
    rw [zpow_add₀ two_ne_zero, Nat.cast_mul]
    ring
  have hone : 1 ≤ ((m * n : ℕ) : ℚ) * 2 ^ (e + d) := by
    rw [hvalue]
    exact one_le_mul_of_one_le_of_one_le (one_le hm he) (one_le hn hd)
  have hle : ((m * n : ℕ) : ℚ) * 2 ^ (e + d) ≤ a * b := by
    rw [hvalue]
    exact mul_le_mul hma hnb (zero_le_one.trans (one_le hn hd))
      (zero_le_one.trans ((one_le hm he).trans hma))
  rw [hproduct, hx, hy]
  refine FromOneTo.pack ?_ hlt
  exact (round_fromOneTo (s * t) (hm.trans (Nat.le_mul_of_pos_right m hnpos)) (by omega) hone).mono
    (mul_le_mul_of_nonneg_right hle slack_pos.le)

/-! ## Numbers read as doubles -/

/-- The most that becomes of `m · 10 ^ d` when it is rounded so many times. -/
def raised (m d roundings : Nat) : ℚ :=
  m * 10 ^ d * slack ^ roundings

theorem raised_once (m : Nat) : raised m 0 1 = m * slack := by
  rw [raised, pow_zero, pow_one, mul_one]

theorem raised_mono {m n d d' i j : Nat} (hmn : m ≤ n) (hd : d ≤ d') (hij : i ≤ j) :
    raised m d i ≤ raised n d' j := by
  have hslack := one_le_slack
  have hten : (1 : ℚ) ≤ 10 := by norm_num
  rw [raised, raised]
  have hpos := slack_pos.le
  gcongr

theorem raised_mul (m n d d' i j : Nat) :
    raised m d i * raised n d' j * slack = raised (m * n) (d + d') (i + j + 1) := by
  simp only [raised]
  push_cast
  ring

/-- A whole number times a power of ten is rounded once. -/
theorem ofScientific_fromOneTo {m d : Nat} (hm : 0 < m) (hd : d ≤ 2048)
    (hlt : raised m d 1 < 2 ^ 1024) :
    FromOneTo (raised m d 1) (Float.Model.ofScientific m d).unpack := by
  refine FromOneTo.pack ?_ hlt
  have hbits : 2 ^ 52 ≤ (m <<< 53) * 10 ^ d := by
    rw [Nat.shiftLeft_eq]
    have hpow : 0 < 10 ^ d := Nat.pow_pos (by decide)
    calc 2 ^ 52 ≤ 1 * 2 ^ 53 * 1 := by decide
      _ ≤ m * 2 ^ 53 * 10 ^ d := Nat.mul_le_mul (Nat.mul_le_mul_right _ hm) hpow
  have hvalue : (((m <<< 53) * 10 ^ d : ℕ) : ℚ) * 2 ^ (-53 + 0 : ℤ) = m * 10 ^ d := by
    rw [Nat.shiftLeft_eq]
    push_cast
    norm_num
    ring
  have hone : (1 : ℚ) ≤ m * 10 ^ d := by
    exact_mod_cast Nat.mul_pos hm (Nat.pow_pos (by decide))
  have hsmall : ¬(d : Int) > 2 ^ 11 := by omega
  have hlarge : ¬(d : Int) < -((2 ^ 11 : Int) + m.log2) := by omega
  rw [raised, pow_one]
  rw [← hvalue] at hone ⊢
  rw [UnpackedFloat.ofScientific, dif_neg hm.ne', if_neg hsmall, if_neg hlarge,
    if_pos (Int.natCast_nonneg d)]
  exact round_fromOneTo (.positive * .positive) hbits (by decide) hone

/-- A whole number is written with at least 53 bits, and rounded once. -/
theorem round_nat_fromOneTo {m : Nat} (hm : 0 < m) :
    FromOneTo (m * slack) (round .binary64 .positive m 0) := by
  have hlog : 2 ^ m.log2 ≤ m := Nat.log2_self_le hm.ne'
  obtain ⟨k, hk, hfew, hmany⟩ :
      ∃ k : Nat, (0 - Format.binary64.targetExponent (totalExponent m 0)).toNat = k ∧ k ≤ 52 ∧
        52 ≤ m.log2 + k := by
    refine ⟨_, rfl, ?_⟩
    rw [targetExponent_binary64]
    omega
  have hbits : 2 ^ 52 ≤ m <<< k := by
    rw [Nat.shiftLeft_eq]
    calc 2 ^ 52 ≤ 2 ^ (m.log2 + k) := Nat.pow_le_pow_right Nat.two_pos hmany
      _ = 2 ^ m.log2 * 2 ^ k := pow_add ..
      _ ≤ m * 2 ^ k := Nat.mul_le_mul_right _ hlog
  have hvalue : ((m <<< k : ℕ) : ℚ) * 2 ^ (0 - k : ℤ) = m := by
    rw [Nat.shiftLeft_eq, zero_sub, zpow_neg, zpow_natCast]
    push_cast
    rw [mul_assoc, mul_inv_cancel₀ (by positivity), mul_one]
  have hone : 1 ≤ ((m <<< k : ℕ) : ℚ) * 2 ^ (0 - k : ℤ) := by
    rw [hvalue]
    exact_mod_cast hm
  have hround := round_fromOneTo .positive hbits (by omega) hone
  rw [hvalue] at hround
  subst hk
  exact hround

theorem ofUInt64_fromOneTo {n : UInt64} (hn : 0 < n.toNat) (hlt : raised n.toNat 0 1 < 2 ^ 1024) :
    FromOneTo (raised n.toNat 0 1) n.toFloat.toModel.unpack := by
  have hpositive : compare (n.toNat : Int) 0 = .gt := by
    rw [Int.compare_eq_gt]
    omega
  have hround : UnpackedFloat.ofUInt64 .binary64 n = round .binary64 .positive n.toNat 0 := by
    rw [UnpackedFloat.ofUInt64, UnpackedFloat.ofNat, UnpackedFloat.ofInt,
      UnpackedFloat.normalize, hpositive]
    rfl
  refine FromOneTo.pack ?_ hlt
  rw [hround, raised_once]
  exact round_nat_fromOneTo hn

/-- The powers of ten that are kept in a table are those that would be computed. -/
theorem exactlyRepresentablePowersOfTen_eq : ∀ i : Fin 23,
    Float.exactlyRepresentablePowersOfTen[i] = Float.ofModel (Float.Model.ofScientific 1 i) := by
  decide +kernel

/-- **A number read from digits and a power of ten** is rounded at most three times. -/
theorem float_ofScientific_fromOneTo {m d : Nat} (hm : 0 < m) (hd : d ≤ 308)
    (hlt : raised m d 3 < 2 ^ 1024) :
    FromOneTo (raised m d 3) (Float.ofScientific m false d).toModel.unpack := by
  rw [Float.ofScientific]
  split
  · -- Few digits and a small power of ten are doubles, whose product is rounded.
    rename_i hsmall
    have hsize : d < Float.exactlyRepresentablePowersOfTen.size := by
      simp only [Float.exactlyRepresentablePowersOfTen, List.size_toArray, List.length_cons,
        List.length_nil]
      omega
    have htable : Float.exactlyRepresentablePowersOfTen[d] =
        Float.ofModel (Float.Model.ofScientific 1 d) :=
      exactlyRepresentablePowersOfTen_eq ⟨d, by omega⟩
    have hword : m.toUInt64.toNat = m := Nat.mod_eq_of_lt (by omega)
    have hdigits : raised m 0 1 ≤ raised m d 3 := raised_mono le_rfl (Nat.zero_le d) (by decide)
    have hpower : raised 1 d 1 ≤ raised m d 3 := raised_mono hm le_rfl (by decide)
    have hleft := ofUInt64_fromOneTo (n := m.toUInt64) (by omega)
      (by rw [hword]; exact hdigits.trans_lt hlt)
    have hright := ofScientific_fromOneTo Nat.one_pos (hd.trans (by decide)) (hpower.trans_lt hlt)
    have hproduct : raised m 0 1 * raised 1 d 1 * slack = raised m d 3 := by
      rw [raised_mul, mul_one, zero_add]
    rw [hword] at hleft
    simp only [htable, Bool.false_eq_true, if_false]
    rw [← hproduct] at hlt ⊢
    exact hleft.mul hright hlt
  · have hle : raised m d 1 ≤ raised m d 3 := raised_mono le_rfl le_rfl (by decide)
    exact (ofScientific_fromOneTo hm (hd.trans (by decide)) (hle.trans_lt hlt)).mono hle

/-- **A product of digits and a power of ten is finite** if the exact one lies far enough below the
end of the range. -/
theorem not_isInf_of_raised {m d : Nat} (hm : 0 < m) (hd : d ≤ 308)
    (hlt : raised m d 7 < 2 ^ 1024) :
    (Float.ofNat m * Float.ofScientific 1 false d).isInf = false := by
  have hdigits : raised m 0 3 ≤ raised m d 7 := raised_mono le_rfl (Nat.zero_le d) (by decide)
  have hpower : raised 1 d 3 ≤ raised m d 7 := raised_mono hm le_rfl (by decide)
  have hleft : FromOneTo (raised m 0 3) (Float.ofNat m).toModel.unpack :=
    float_ofScientific_fromOneTo hm (Nat.zero_le _) (hdigits.trans_lt hlt)
  have hright := float_ofScientific_fromOneTo Nat.one_pos hd (hpower.trans_lt hlt)
  have hproduct : raised m 0 3 * raised 1 d 3 * slack = raised m d 7 := by
    rw [raised_mul, mul_one, zero_add]
  rw [← hproduct] at hlt
  exact not_isInf (hleft.mul hright hlt)

end Vigil.Double
