import Vigil.Proofs.Double.Rounding
import Vigil.Proofs.Exact

/-!
# Normal doubles

A normal double is a significand of 53 bits with an exponent in range.  An operation whose result
is such a number again does not round, and what follows from that needs no bound on an error.

* `roundWithAccuracy_exact`, `IsNormal.mul_twoPow` -- zeros at the end of a significand are not
  rounded, and a product with a power of two is exact;
* `isNormal_div`, `one_sub_div_self` -- neither is a quotient of 53 bits rounded, so a count
  divided by itself is one;
* `isNormal_scaled`, `isNormal_stored` -- the double that is made from a significand and an
  exponent is that number, and each double is the number that is stored of it;
* `IsSingle`, `single_of_isSingle` -- what it is to be in single precision, said of the value, and
  **that such a number is rounded to itself**.
-/

namespace Vigil.Double

open Float.Model (UnpackedFloat Format totalExponent)
open Float.Model.UnpackedFloat
open Decimal (isNegative storedExponent storedFraction shape ratio roundDiv roundSingle single
  scaled)

variable {s t : Sign} {m k : Nat} {d e u : Int} {x y : Float}

/-! ## Exact rounding -/

theorem log2_mul_two_pow (hm : m ≠ 0) (k : Nat) : (m * 2 ^ k).log2 = m.log2 + k := by
  have hpos : 0 < 2 ^ k := Nat.two_pow_pos k
  refine (Nat.log2_eq_iff (Nat.mul_ne_zero hm hpos.ne')).2 ⟨?_, ?_⟩
  · rw [pow_add]
    exact Nat.mul_le_mul_right _ (Nat.log2_self_le hm)
  · rw [Nat.add_right_comm, pow_add]
    exact Nat.mul_lt_mul_of_pos_right Nat.lt_log2_self hpos

theorem shiftRight_exact (m k : Nat) :
    (⟨m * 2 ^ k, false, false⟩ : ExtendedMantissa) >>> k = ⟨m, false, false⟩ := by
  induction k generalizing m with
  | zero =>
    rw [pow_zero, mul_one]
    rfl
  | succ k ih =>
    show ((⟨m * 2 ^ (k + 1), false, false⟩ : ExtendedMantissa) >>> k).shiftRightOne = _
    rw [pow_succ', ← mul_assoc, ih, ExtendedMantissa.shiftRightOne]
    simp

/-- What is shifted out is zeros. -/
theorem shiftToTargetExponent_exact (hlow : 2 ^ 52 ≤ m) (hhigh : m < 2 ^ 53)
    (he : -1074 ≤ e + k) :
    shiftToTargetExponent .binary64 (m * 2 ^ k) e .exact = (⟨m, false, false⟩, e + k) := by
  have hm : m ≠ 0 := by omega
  have hlog : m.log2 = 52 := (Nat.log2_eq_iff hm).2 ⟨hlow, hhigh⟩
  have htarget : (Format.binary64.targetExponent (totalExponent (m * 2 ^ k) e) - e).toNat = k := by
    rw [targetExponent_binary64, log2_mul_two_pow hm]
    omega
  rw [shiftToTargetExponent, shiftToExponent]
  simp only [htarget]
  exact congrArg (·, e + (k : Int)) (shiftRight_exact m k)

theorem roundWithAccuracy_of_shifts {a : Accuracy} {em em' : ExtendedMantissa} {e' e'' : Int}
    (hfirst : shiftToTargetExponent .binary64 m e a = (em, e'))
    (hsecond : shiftToTargetExponent .binary64 em.roundedMantissa e' .exact = (em', e''))
    (hpos : 0 < em'.mantissa) :
    roundWithAccuracy .binary64 s m e a = .finite s em'.mantissa e'' hpos := by
  rw [roundWithAccuracy, hfirst]
  show (match shiftToTargetExponent .binary64 em.roundedMantissa e' .exact with
    | (em, e) => if h : em.mantissa = 0 then UnpackedFloat.zero s
      else UnpackedFloat.finite s em.mantissa e (Nat.pos_of_ne_zero h)) = _
  rw [hsecond]
  exact dif_neg hpos.ne'

/-- **Zeros at the end of a number are not rounded.** -/
theorem roundWithAccuracy_exact (hlow : 2 ^ 52 ≤ m) (hhigh : m < 2 ^ 53) (he : -1074 ≤ e + k) :
    ∃ hpos, roundWithAccuracy .binary64 s (m * 2 ^ k) e .exact = .finite s m (e + k) hpos := by
  have hsecond := shiftToTargetExponent_exact (e := e + k) (k := 0) hlow hhigh (by omega)
  rw [pow_zero, mul_one, Int.natCast_zero, add_zero] at hsecond
  exact ⟨_, roundWithAccuracy_of_shifts (shiftToTargetExponent_exact hlow hhigh he) hsecond
    (Nat.lt_of_lt_of_le (Nat.two_pow_pos 52) hlow)⟩

/-- A whole number is written with 53 bits. -/
theorem round_nat (hlow : 2 ^ 52 ≤ m * 2 ^ k) (hhigh : m * 2 ^ k < 2 ^ 53) (hk : k ≤ 1074) :
    ∃ hpos, round .binary64 .positive m 0 = .finite .positive (m * 2 ^ k) (-k) hpos := by
  obtain ⟨hpos, hround⟩ :=
    roundWithAccuracy_exact (s := .positive) (e := -k) (k := 0) hlow hhigh (by omega)
  rw [pow_zero, mul_one, Int.natCast_zero, add_zero] at hround
  have hm : m ≠ 0 := left_ne_zero_of_mul hpos.ne'
  have hlog : m.log2 + k = 52 :=
    (log2_mul_two_pow hm k).symm.trans ((Nat.log2_eq_iff hpos.ne').2 ⟨hlow, hhigh⟩)
  have hshift : (-Format.binary64.targetExponent (totalExponent m 0)).toNat = k := by
    rw [targetExponent_binary64]
    omega
  have hdecrease : decreaseExponent m 0 (Format.binary64.targetExponent (totalExponent m 0)) =
      (m * 2 ^ k, -(k : Int)) := by
    simp only [decreaseExponent, Int.zero_sub, hshift, Nat.shiftLeft_eq]
  refine ⟨hpos, ?_⟩
  rw [UnpackedFloat.round, hdecrease]
  exact hround

/-! ## Normal doubles -/

/-- The double is this number, whose significand has 53 bits and whose exponent is in range. -/
structure IsNormal (s : Sign) (m : Nat) (e : Int) (x : Float) : Prop where
  low : 2 ^ 52 ≤ m
  high : m < 2 ^ 53
  least : -1074 ≤ e
  greatest : e ≤ 971
  eq : x = .ofModel (.pack (.finite s m e (Nat.lt_of_lt_of_le (Nat.two_pow_pos 52) low)))

theorem IsNormal.ext (hx : IsNormal s m e x) (hy : IsNormal s m e y) : x = y :=
  hx.eq.trans hy.eq.symm

theorem IsNormal.unpack (h : IsNormal s m e x) :
    ∃ hpos, x.toModel.unpack = .finite s m e hpos := by
  rw [h.eq]
  exact ⟨_, unpack_pack _ h.low h.high h.least h.greatest⟩

theorem IsNormal.neg (h : IsNormal s m e x) : IsNormal (-s) m e (-x) := by
  obtain ⟨_, hunpack⟩ := h.unpack
  refine ⟨h.low, h.high, h.least, h.greatest, ?_⟩
  show Float.ofModel (.pack x.toModel.unpack.neg) = _
  rw [hunpack]
  rfl

/-- A product with a power of two is exact. -/
theorem IsNormal.mul_twoPow (hx : IsNormal s m e x) (hy : IsNormal t (2 ^ 52) d y)
    (hleast : -1074 ≤ e + d + 52) (hgreatest : e + d + 52 ≤ 971) :
    IsNormal (s * t) m (e + d + 52) (x * y) := by
  obtain ⟨_, hx'⟩ := hx.unpack
  obtain ⟨_, hy'⟩ := hy.unpack
  obtain ⟨_, hround⟩ :=
    roundWithAccuracy_exact (s := s * t) (e := e + d) (k := 52) hx.low hx.high hleast
  refine ⟨hx.low, hx.high, hleast, hgreatest, ?_⟩
  show Float.ofModel (.pack (UnpackedFloat.mul .binary64 x.toModel.unpack y.toModel.unpack)) = _
  rw [hx', hy']
  exact congrArg (fun u => Float.ofModel (.pack u)) hround

theorem isNormal_ofUInt64 {n : UInt64} (hlow : 2 ^ 52 ≤ n.toNat * 2 ^ k)
    (hhigh : n.toNat * 2 ^ k < 2 ^ 53) (hk : k ≤ 52) :
    IsNormal .positive (n.toNat * 2 ^ k) (-k) n.toFloat := by
  obtain ⟨hpos, hround⟩ := round_nat hlow hhigh (by omega)
  refine ⟨hlow, hhigh, by omega, by omega, ?_⟩
  have hpositive : compare (n.toNat : Int) 0 = .gt :=
    Int.compare_eq_gt.2 (Int.natCast_pos.2 (Nat.pos_of_mul_pos_right hpos))
  have hofUInt64 : UnpackedFloat.ofUInt64 .binary64 n =
      .finite .positive (n.toNat * 2 ^ k) (-k) hpos := by
    rw [UnpackedFloat.ofUInt64, UnpackedFloat.ofNat, UnpackedFloat.ofInt,
      UnpackedFloat.normalize, hpositive]
    exact hround
  show Float.ofModel (.pack (UnpackedFloat.ofUInt64 .binary64 n)) = _
  rw [hofUInt64]

theorem isNormal_one :
    IsNormal .positive (2 ^ 52) (-52) Float.exactlyRepresentablePowersOfTen[0] :=
  ⟨le_rfl, by decide, by decide, by decide, by decide +kernel⟩

theorem isNormal_ofNat (hlow : 2 ^ 52 ≤ m * 2 ^ k) (hhigh : m * 2 ^ k < 2 ^ 53) (hk : k ≤ 52) :
    IsNormal .positive (m * 2 ^ k) (-k) (Float.ofNat m) := by
  have hlt : m < 2 ^ 53 := (Nat.le_mul_of_pos_right m (Nat.two_pow_pos k)).trans_lt hhigh
  have hword : m.toUInt64.toNat = m := Nat.mod_eq_of_lt (by omega)
  have hofNat : Float.ofNat m = m.toUInt64.toFloat * Float.exactlyRepresentablePowersOfTen[0] :=
    dif_pos ⟨hlt, by decide⟩
  have hnormal := isNormal_ofUInt64 (n := m.toUInt64) (k := k) (hword.symm ▸ hlow)
    (hword.symm ▸ hhigh) hk
  have hproduct := hnormal.mul_twoPow isNormal_one (by omega) (by omega)
  rwa [hword, neg_add_cancel_right, ← hofNat] at hproduct

/-! ## Quotients -/

section

variable {n q : Nat} {b : ℚ}

/-- The remainder is none if the quotient has 53 bits. -/
theorem divCore_exact (hm : m.log2 = 52) (hn : n.log2 = 52) (hquotient : m * 2 ^ 52 = q * n)
    (hleast : -1074 ≤ d - e - 53) :
    divCore .binary64 m d n e = (q * 2 ^ 1, d - e - 53, .exact) := by
  have htarget : Format.binary64.targetExponent (totalExponent m d - totalExponent n e) =
      d - e - 53 := by
    show max ((m.log2 : Int) + 1 + d - (n.log2 + 1 + e) - 53) (-1074) = _
    omega
  have hshift : (d - e - (d - e - 53)).toNat = 53 := by omega
  have hshifted : m <<< 53 = n * (q * 2 ^ 1) := by
    rw [Nat.shiftLeft_eq, pow_succ _ 52, ← mul_assoc, hquotient]
    ring
  have hpos : 0 < n := Nat.pos_of_ne_zero (by rintro rfl; simp at hn)
  rw [divCore, htarget, min_eq_right (by omega)]
  simp only [hshift, hshifted, Nat.mul_div_cancel_left _ hpos, Nat.mul_mod_right]
  rfl

/-- **A quotient of 53 bits is exact.** -/
theorem isNormal_div {hm : 0 < m} {hn : 0 < n} (hx : x.toModel.unpack = .finite s m d hm)
    (hy : y.toModel.unpack = .finite t n e hn) (hxlog : m.log2 = 52) (hylog : n.log2 = 52)
    (hquotient : m * 2 ^ 52 = q * n) (hlow : 2 ^ 52 ≤ q) (hhigh : q < 2 ^ 53)
    (hleast : -1073 ≤ d - e - 52) (hgreatest : d - e - 52 ≤ 971) :
    IsNormal (s / t) q (d - e - 52) (x / y) := by
  obtain ⟨hpos, hround⟩ :=
    roundWithAccuracy_exact (s := s / t) (e := d - e - 53) (k := 1) hlow hhigh (by omega)
  have hexponent : d - e - 53 + (1 : Nat) = d - e - 52 := by omega
  rw [hexponent] at hround
  refine ⟨hlow, hhigh, by omega, hgreatest, ?_⟩
  show Float.ofModel (.pack (UnpackedFloat.div .binary64 x.toModel.unpack y.toModel.unpack)) = _
  rw [hx, hy]
  show Float.ofModel (.pack (roundWithAccuracy .binary64 (s / t)
    (divCore .binary64 m d n e).1 (divCore .binary64 m d n e).2.1
    (divCore .binary64 m d n e).2.2)) = _
  rw [divCore_exact hxlog hylog hquotient (by omega)]
  exact congrArg (fun u => Float.ofModel (.pack u)) hround

theorem div_self_of_fromOneTo (h : FromOneTo b x.toModel.unpack) : x / x = 1.0 := by
  obtain ⟨s, m, e, hpos, hx, hlow, hhigh, -, -⟩ := h
  have hlog : m.log2 = 52 := (Nat.log2_eq_iff hpos.ne').2 ⟨hlow, hhigh⟩
  have hquotient := isNormal_div hx hx hlog hlog (Nat.mul_comm m (2 ^ 52)) le_rfl (by decide)
    (by omega) (by omega)
  have hsign : s / s = .positive := by cases s <;> rfl
  rw [hsign, sub_self, zero_sub] at hquotient
  exact (hquotient.ext isNormal_one).trans (by decide +kernel)

/-- Nothing is lost when a number is divided by one. -/
theorem FromOneTo.div_one (h : FromOneTo b x.toModel.unpack) (hb : b < 2 ^ 1024) :
    FromOneTo b (x / Float.exactlyRepresentablePowersOfTen[0]).toModel.unpack := by
  obtain ⟨s, m, e, hpos, hx, hlow, hhigh, he, hle⟩ := h
  obtain ⟨_, hone⟩ := isNormal_one.unpack
  have hlog : m.log2 = 52 := (Nat.log2_eq_iff hpos.ne').2 ⟨hlow, hhigh⟩
  have hmax : e ≤ 971 := exponent_le hlow (hle.trans_lt hb)
  have hquotient := isNormal_div hx hone hlog (by decide) rfl hlow hhigh (by omega) (by omega)
  rw [show e - -52 - 52 = e by omega] at hquotient
  obtain ⟨hpos', hunpack⟩ := hquotient.unpack
  exact ⟨_, m, e, hpos', hunpack, hlow, hhigh, he, hle⟩

/-- A count is a number from one on. -/
theorem ofNat_fromOneTo (hn : 0 < n) (hlt : n < 2 ^ 64) :
    FromOneTo (raised n 0 1) (Quantity.ofNat n : Float).toModel.unpack := by
  have hrange : raised n 0 1 < 2 ^ 1024 := by
    have hcast : (n : ℚ) < 2 ^ 64 := by exact_mod_cast hlt
    calc raised n 0 1 = n * slack := raised_once n
      _ ≤ 2 ^ 64 * 2 := mul_le_mul hcast.le slack_le_two slack_pos.le (by norm_num)
      _ = 2 ^ 65 := (pow_succ ..).symm
      _ < 2 ^ 1024 := pow_lt_pow_right₀ one_lt_two (by decide)
  by_cases hsmall : n < 2 ^ 53
  · have hword : n.toUInt64.toNat = n := Nat.mod_eq_of_lt hlt
    have hofNat : (Quantity.ofNat n : Float) =
        n.toUInt64.toFloat / Float.exactlyRepresentablePowersOfTen[0] :=
      dif_pos ⟨hsmall, by decide⟩
    have hfloat := ofUInt64_fromOneTo (n := n.toUInt64) (hword.symm ▸ hn) (hword.symm ▸ hrange)
    rw [hword] at hfloat
    rw [hofNat]
    exact hfloat.div_one hrange
  · have hofNat : (Quantity.ofNat n : Float) = .ofModel (.ofScientific n 0) :=
      dif_neg fun h => hsmall h.1
    rw [hofNat]
    exact ofScientific_fromOneTo hn (by decide) hrange

/-- **A count divided by itself is one**, and nothing of one remains. -/
theorem one_sub_div_self (hn : 0 < n) (hlt : n < 2 ^ 64) :
    (1 : Float) - Quantity.ofNat n / Quantity.ofNat n = 0 := by
  rw [div_self_of_fromOneTo (ofNat_fromOneTo hn hlt)]
  decide +kernel

end

/-! ## What is scaled -/

/-- The powers of two in the range of single precision. -/
theorem isNormal_powerOfTwo (hleast : -149 ≤ u) (hgreatest : u ≤ 104) :
    IsNormal .positive (2 ^ 52) (u - 52) (Decimal.powerOfTwo u) := by
  have hall : ∀ i : Fin 254, Decimal.powerOfTwo (i - 149) = Float.ofModel (Float.Model.pack
      (.finite .positive (2 ^ 52) (i - 149 - 52) (Nat.two_pow_pos 52))) := by
    decide +kernel
  obtain ⟨n, hn⟩ := Int.eq_ofNat_of_zero_le (show 0 ≤ u + 149 by omega)
  obtain rfl : u = (n : Int) - 149 := by omega
  exact ⟨le_rfl, by decide, by omega, by omega, hall ⟨n, by omega⟩⟩

/-- The sign that a bit stands for. -/
def sign (negative : Bool) : Sign := if negative then .negative else .positive

/-- **What is scaled is exact.** -/
theorem isNormal_scaled (negative : Bool) (hlow : 2 ^ 52 ≤ m * 2 ^ k) (hhigh : m * 2 ^ k < 2 ^ 53)
    (hk : k ≤ 52) (hleast : -149 ≤ u) (hgreatest : u ≤ 104) :
    IsNormal (sign negative) (m * 2 ^ k) (u - k) (scaled negative m u) := by
  have hproduct := (isNormal_ofNat hlow hhigh hk).mul_twoPow
    (isNormal_powerOfTwo hleast hgreatest) (by omega) (by omega)
  have hexponent : -(k : Int) + (u - 52) + 52 = u - k := by omega
  rw [hexponent] at hproduct
  cases negative with
  | false => exact hproduct
  | true => exact hproduct.neg

/-! ## Doubles by their shape -/

theorem eq_of_toBits (h : x.toBits = y.toBits) : x = y := by
  obtain ⟨⟨_, _⟩⟩ := x
  obtain ⟨⟨_, _⟩⟩ := y
  cases h
  rfl

theorem toNat_sign (x : Float) :
    (sign (isNegative x)).toBitVec.toNat = x.toBits.toNat / 2 ^ 63 := by
  have hlt : x.toBits.toNat < 2 ^ 64 := x.toBits.toNat_lt
  have hbit : x.toBits.toNat / 2 ^ 63 = 0 ∨ x.toBits.toNat / 2 ^ 63 = 1 := by omega
  rw [isNegative, Nat.pow_eq]
  rcases hbit with h | h
  all_goals
    rw [h]
    rfl

/-- **A double is what is stored of it.** -/
theorem isNormal_stored (hzero : storedExponent x ≠ 0) (hgreatest : storedExponent x ≠ 2047) :
    IsNormal (sign (isNegative x)) (storedFraction x + 2 ^ 52) (storedExponent x - 1075) x := by
  have hfraction : storedFraction x < 2 ^ 52 := Nat.mod_lt _ (by decide)
  have hexponent : storedExponent x < 2 ^ 11 := Nat.mod_lt _ (by decide)
  have hlow : 2 ^ 52 ≤ storedFraction x + 2 ^ 52 := Nat.le_add_left _ _
  refine ⟨hlow, by omega, by omega, by omega, eq_of_toBits ?_⟩
  show _ = UInt64.ofBitVec (UnpackedFloat.pack .binary64 _)
  have hcast : ((storedExponent x : Int) - 1075 + 1023 + 52).toNat = storedExponent x := by omega
  rw [pack_of_normal _ hlow (by omega) (by omega), hcast]
  refine UInt64.toNat_inj.1 ?_
  show _ = ((sign (isNegative x)).toBitVec ++ BitVec.ofNat 11 (storedExponent x) ++
    BitVec.ofNat 52 (storedFraction x + 2 ^ 52)).toNat
  rw [BitVec.toNat_append, BitVec.toNat_append, ← Nat.shiftLeft_add_eq_or_of_lt (BitVec.isLt _),
    ← Nat.shiftLeft_add_eq_or_of_lt (BitVec.isLt _), toNat_sign, BitVec.toNat_ofNat,
    BitVec.toNat_ofNat, Nat.shiftLeft_eq, Nat.shiftLeft_eq]
  simp only [storedExponent, storedFraction, Nat.pow_eq]
  omega

/-- A zero is what is stored of it. -/
theorem eq_scaled_zero (hexponent : storedExponent x = 0) (hfraction : storedFraction x = 0) :
    x = scaled (isNegative x) 0 0 := by
  have hzero (negative : Bool) : (scaled negative 0 0).toBits.toNat =
      if negative then 2 ^ 63 else 0 := by
    cases negative <;> decide +kernel
  have hlt : x.toBits.toNat < 2 ^ 64 := x.toBits.toNat_lt
  refine eq_of_toBits (UInt64.toNat_inj.1 ?_)
  rw [hzero]
  simp only [storedExponent, storedFraction, isNegative, Nat.pow_eq, beq_iff_eq] at *
  split <;> omega

theorem abs_exactValue {negative : Bool} (h : shape x = .finite negative m e) :
    |exactValue x| = m * 2 ^ e := by
  have hnonneg : (0 : ℚ) ≤ m * 2 ^ e := mul_nonneg (Nat.cast_nonneg m) (zpow_nonneg two_pos.le e)
  rw [exactValue, h]
  cases negative <;> simp [abs_of_nonneg hnonneg]

/-! ## Single precision -/

/-- The double is a number in single precision: a significand of 24 bits with an exponent in range.
What has no value is in single precision, too. -/
def IsSingle (x : Float) : Prop :=
  ∃ (a : ℕ) (u : ℤ), |exactValue x| = a * 2 ^ u ∧ a < 2 ^ 24 ∧ -149 ≤ u ∧ u ≤ 104

variable {a n p q : Nat}

/-- However a number is written, its first bit stands for the same. -/
theorem add_lt_add_of_value_eq (h : (m : ℚ) * 2 ^ e = a * 2 ^ u) (hm : 2 ^ p ≤ m)
    (ha : a < 2 ^ q) : p + e < q + u := by
  have hm' : (2 : ℚ) ^ p ≤ m := by exact_mod_cast hm
  have ha' : (a : ℚ) < 2 ^ q := by exact_mod_cast ha
  have hlt : (2 : ℚ) ^ (p + e : ℤ) < 2 ^ (q + u : ℤ) :=
    calc (2 : ℚ) ^ (p + e : ℤ) = 2 ^ p * 2 ^ e := by rw [zpow_add₀ two_ne_zero, zpow_natCast]
      _ ≤ m * 2 ^ e := mul_le_mul_of_nonneg_right hm' (zpow_pos two_pos e).le
      _ = a * 2 ^ u := h
      _ < 2 ^ q * 2 ^ u := mul_lt_mul_of_pos_right ha' (zpow_pos two_pos u)
      _ = 2 ^ (q + u : ℤ) := by rw [zpow_add₀ two_ne_zero, zpow_natCast]
  exact (zpow_lt_zpow_iff_right₀ one_lt_two).1 hlt

theorem eq_mul_two_pow (h : (m : ℚ) * 2 ^ e = a * 2 ^ (e + n)) : m = a * 2 ^ n := by
  rw [zpow_add₀ two_ne_zero, zpow_natCast, mul_left_comm, mul_comm] at h
  have hcast := mul_left_cancel₀ (zpow_pos (two_pos (α := ℚ)) e).ne' h
  exact_mod_cast hcast

theorem ratio_zero (m : Nat) (e : Int) : ratio m e 0 = (m * 2 ^ e.toNat, 2 ^ (-e).toNat) := by
  simp [ratio]

theorem ratio_neg (m j : Nat) : ratio m (-j) 0 = (m, 2 ^ j) := by
  simp [ratio]

/-- A double that is so many units of single precision is rounded to itself. -/
theorem roundSingle_of_normal {negative : Bool} (hx : IsNormal (sign negative) m e x)
    (hvalue : (m : ℚ) * 2 ^ e = a * 2 ^ u) (ha : a < 2 ^ 24) (hleast : -149 ≤ u)
    (hgreatest : u ≤ 104) : roundSingle negative m e = x := by
  have hm : m ≠ 0 := (Nat.lt_of_lt_of_le (Nat.two_pow_pos 52) hx.low).ne'
  have hlog : m.log2 = 52 := (Nat.log2_eq_iff hm).2 ⟨hx.low, hx.high⟩
  have hbits : (52 : Nat) + e < (24 : Nat) + u := add_lt_add_of_value_eq hvalue hx.low ha
  obtain ⟨unit, hunit⟩ : ∃ unit, max (e + (m.log2 + 1) - 24) (-149) = unit := ⟨_, rfl⟩
  rw [hlog] at hunit
  -- The significand has no more than 24 bits, so it is a multiple of the unit.
  obtain ⟨j, hj⟩ := Int.eq_ofNat_of_zero_le (show 0 ≤ unit - e by omega)
  obtain ⟨i, hi⟩ := Int.eq_ofNat_of_zero_le (show 0 ≤ u - unit by omega)
  have hunits : m = a * 2 ^ i * 2 ^ j := by
    obtain rfl : u = e + (i + j : Nat) := by omega
    rw [eq_mul_two_pow hvalue, pow_add, mul_assoc]
  have hround : roundDiv (ratio m (e - unit) 0).1 (ratio m (e - unit) 0).2 = a * 2 ^ i := by
    rw [show e - unit = -(j : ℤ) by omega, ratio_neg, hunits]
    exact Decimal.roundDiv_mul _ _ (Nat.two_pow_pos j)
  have hrange : ¬2 ^ 128 ≤ (ratio (a * 2 ^ i) unit 0).1 / (ratio (a * 2 ^ i) unit 0).2 := by
    have hlt : a * 2 ^ i * 2 ^ unit.toNat < 2 ^ (-unit).toNat * 2 ^ 128 :=
      calc a * 2 ^ i * 2 ^ unit.toNat < 2 ^ 24 * 2 ^ i * 2 ^ unit.toNat := by gcongr
        _ = 2 ^ (24 + i + unit.toNat) := by rw [pow_add, pow_add]
        _ ≤ 2 ^ ((-unit).toNat + 128) := Nat.pow_le_pow_right Nat.two_pos (by omega)
        _ = 2 ^ (-unit).toNat * 2 ^ 128 := pow_add ..
    rw [ratio_zero]
    exact not_le.2 (Nat.div_lt_of_lt_mul hlt)
  have hscaled : IsNormal (sign negative) (a * 2 ^ i * 2 ^ j) (unit - j)
      (scaled negative (a * 2 ^ i) unit) := by
    have hpos : 0 < a * 2 ^ i := Nat.pos_of_ne_zero fun h => hm (by rw [hunits, h, zero_mul])
    have hpow : 2 ^ j < 2 ^ 53 := (Nat.le_mul_of_pos_left _ hpos).trans_lt (hunits ▸ hx.high)
    have hj' : j < 53 := (Nat.pow_lt_pow_iff_right (by decide)).1 hpow
    exact isNormal_scaled negative (hunits ▸ hx.low) (hunits ▸ hx.high) (by omega) (by omega)
      (by omega)
  rw [← hunits, show unit - j = e by omega] at hscaled
  rw [roundSingle, beq_false_of_ne hm, hlog, hunit]
  simp only [Bool.false_eq_true, if_false, hround, Nat.pow_eq, if_neg hrange]
  exact hscaled.ext hx

/-- **A number in single precision is rounded to itself.** -/
theorem single_of_isSingle (h : IsSingle x) : single x = x := by
  obtain ⟨a, u, hvalue, ha, hleast, hgreatest⟩ := h
  by_cases hspecial : storedExponent x = 2047
  · rw [single, shape, hspecial]
    cases storedFraction x == 0 <;> rfl
  by_cases hzero : storedExponent x = 0
  · have hshape : shape x = .finite (isNegative x) (storedFraction x) (-1074) := by
      rw [shape, hzero]
      rfl
    rw [abs_exactValue hshape] at hvalue
    have hfraction : storedFraction x = 0 := by
      by_contra hne
      have ha' : a ≠ 0 := by
        rintro rfl
        simp [hne] at hvalue
      -- Such a number would be less than any in single precision.
      have hbits : (0 : Nat) + u < (52 : Nat) + -1074 :=
        add_lt_add_of_value_eq hvalue.symm (Nat.pos_of_ne_zero ha') (Nat.mod_lt _ (by decide))
      omega
    rw [single, hshape, hfraction]
    exact (eq_scaled_zero hzero hfraction).symm
  · have hshape : shape x =
        .finite (isNegative x) (storedFraction x + 2 ^ 52) (storedExponent x - 1075) := by
      rw [shape, beq_false_of_ne hspecial, beq_false_of_ne hzero]
      rfl
    rw [abs_exactValue hshape] at hvalue
    rw [single, hshape]
    exact roundSingle_of_normal (isNormal_stored hzero hspecial) hvalue ha hleast hgreatest

end Vigil.Double
