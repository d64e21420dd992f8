import Vigil.Proofs.Decimal.Layout
import Vigil.Proofs.Double.Rounding

/-!
# The text of a double is read back

A numeral is read by taking digits while they fit into 64 bits, and by scaling them once with a power
of ten.  That is refused if it leaves the range of doubles, which for the text of a double it does
not.  A double is written with digits that stand for a number which rounds to it, or with all digits
of the double where the search for fewer ends.  So what is written lies below the end of the range by
more than the reader's roundings need, but for the fifteen doubles next to it, which are read one by
one.

* `readWord_of_le`, `value_digits` -- what fits into 64 bits is read to its end;
* `inRange_of_raised`, `inRange_of_nonpos` -- when scaling does not leave the range;
* `hasValue_point`, `hasValue_down`, `hasValue_up` -- when a numeral denotes a number;
* `hasValue_layoutNumeral` -- so do digits that are laid out;
* `shortest_bounded` -- the shortest digits of a double are not much greater than it is;
* `exists_numeral_of_isFinite` -- **the text of a finite double is that of a numeral which denotes a
  number**.
-/

namespace Vigil.Decimal

open Json (IsNumeral Numeral readWord readExponent maxWord scaleDecimal powerOfTen digitValue)
open Double (raised raised_mono slack)

/-! ## Digits that are read -/

theorem ofDigitChars_ge (n : Nat) (ds : List Char) :
    n * 10 ^ ds.length ≤ Nat.ofDigitChars 10 ds n := by
  rw [Nat.ofDigitChars_eq_ofDigitChars_zero, Nat.mul_comm]
  exact Nat.le_add_right _ _

theorem le_ofDigitChars (n : Nat) (ds : List Char) : n ≤ Nat.ofDigitChars 10 ds n :=
  (Nat.le_mul_of_pos_right n (Nat.pow_pos (by decide))).trans (ofDigitChars_ge n ds)

theorem ofDigitChars_cons (n : Nat) (c : Char) (ds : List Char) :
    Nat.ofDigitChars 10 (c :: ds) n = Nat.ofDigitChars 10 ds (n * 10 + digitValue c) := by
  rw [Nat.ofDigitChars_cons, Nat.mul_comm 10]
  rfl

theorem digitValue_le {c : Char} (hc : c.isDigit = true) : digitValue c ≤ 9 := by
  have hle : c.toNat ≤ '9'.toNat := (Char.isDigit_iff_toNat.1 hc).2
  have hnine : '9'.toNat = '0'.toNat + 9 := rfl
  rw [digitValue]
  omega

theorem digitValue_pos {c : Char} (hc : c.isDigit = true) (hzero : c ≠ '0') : 0 < digitValue c := by
  have hle : '0'.toNat ≤ c.toNat := (Char.isDigit_iff_toNat.1 hc).1
  have hne : c.toNat ≠ '0'.toNat := fun h => hzero (Char.toNat_inj.1 h)
  rw [digitValue]
  omega

theorem ofDigitChars_lt {ds : List Char} (hds : ∀ d ∈ ds, d.isDigit = true) (n : Nat) :
    Nat.ofDigitChars 10 ds n < (n + 1) * 10 ^ ds.length := by
  induction ds generalizing n with
  | nil => simp
  | cons d ds ih =>
    have hd := digitValue_le (hds d List.mem_cons_self)
    rw [ofDigitChars_cons, List.length_cons, pow_succ]
    refine (ih (fun c hc => hds c (List.mem_cons_of_mem _ hc)) _).trans_le ?_
    rw [mul_comm (10 ^ ds.length), ← mul_assoc]
    exact Nat.mul_le_mul_right _ (by omega)

/-- A word is read from the first digits. -/
theorem readWord_spec (n : Nat) (ds : List Char) : ∃ front,
    ds = front ++ (readWord n ds).2 ∧ (readWord n ds).1 = Nat.ofDigitChars 10 front n := by
  induction ds generalizing n with
  | nil => exact ⟨[], rfl, rfl⟩
  | cons c ds ih =>
    rw [readWord]
    split
    · exact ⟨[], rfl, rfl⟩
    · obtain ⟨front, hfront, hvalue⟩ := ih (n * 10 + digitValue c)
      refine ⟨c :: front, congrArg (c :: ·) hfront, ?_⟩
      rw [hvalue, ofDigitChars_cons]

theorem readWord_le {n : Nat} (hn : n ≤ maxWord) (ds : List Char) :
    (readWord n ds).1 ≤ maxWord := by
  induction ds generalizing n with
  | nil => exact hn
  | cons c ds ih =>
    rw [readWord]
    split
    · exact hn
    · rename_i h
      exact ih (Nat.not_lt.1 h)

/-- What fits into 64 bits is read to its end. -/
theorem readWord_of_le {n : Nat} {ds : List Char} (h : Nat.ofDigitChars 10 ds n ≤ maxWord) :
    readWord n ds = (Nat.ofDigitChars 10 ds n, []) := by
  induction ds generalizing n with
  | nil => rfl
  | cons c ds ih =>
    rw [ofDigitChars_cons] at h
    have hfits : ¬maxWord < n * 10 + digitValue c := Nat.not_lt.2 ((le_ofDigitChars _ ds).trans h)
    rw [readWord, if_neg hfits, ih h, ofDigitChars_cons]

theorem readExponent_of_le {n : Nat} {ds : List Char}
    (h : Nat.ofDigitChars 10 ds n ≤ 2147483647) :
    readExponent n ds = .ok (Nat.ofDigitChars 10 ds n) := by
  induction ds generalizing n with
  | nil => rfl
  | cons c ds ih =>
    rw [ofDigitChars_cons] at h
    have hfits : ¬2147483647 < n * 10 + digitValue c :=
      Nat.not_lt.2 ((le_ofDigitChars _ ds).trans h)
    rw [readExponent, if_neg hfits, ih h, ofDigitChars_cons]

theorem ofDigitChars_digits (n : Nat) : Nat.ofDigitChars 10 (digits n) 0 = n :=
  Nat.ofDigitChars_ten_toDigits

theorem ofDigitChars_zero_cons (d : Char) (ds : List Char) :
    Nat.ofDigitChars 10 (d :: ds) 0 = Nat.ofDigitChars 10 ds (digitValue d) := by
  rw [ofDigitChars_cons, Nat.zero_mul, Nat.zero_add]

theorem digit_le_maxWord {d : Char} (hd : d.isDigit = true) :
    Nat.ofDigitChars 10 [d] 0 ≤ maxWord := by
  rw [ofDigitChars_zero_cons]
  exact (digitValue_le hd).trans (by decide)

theorem readWord_digit {d : Char} (hd : d.isDigit = true) :
    readWord 0 [d] = (digitValue d, []) := by
  rw [readWord_of_le (digit_le_maxWord hd), ofDigitChars_zero_cons]
  rfl

theorem readExponent_digits {x : Nat} (hx : x ≤ 308) : readExponent 0 (digits x) = .ok x := by
  have hle : Nat.ofDigitChars 10 (digits x) 0 ≤ 2147483647 := by
    rw [ofDigitChars_digits]
    omega
  rw [readExponent_of_le hle, ofDigitChars_digits]

/-- **A whole number of 64 bits is read back from its digits.** -/
theorem value_digits {n : Nat} (hn : n ≤ maxWord) :
    Numeral.value ⟨false, digits n, [], none⟩ = .ok (.whole n) := by
  have hread : readWord 0 (digits n) = (n, []) := by
    have hle : Nat.ofDigitChars 10 (digits n) 0 ≤ maxWord := by rwa [ofDigitChars_digits]
    rw [readWord_of_le hle, ofDigitChars_digits]
  rw [Numeral.value, hread]
  rfl

/-! ## Scaling -/

/-- Digits that are read and a power of ten do not leave the range. -/
def InRange (s : Nat) (exponent : Int) : Prop :=
  (scaleDecimal s exponent).isSome = true

theorem inRange_of_neg (s : Nat) {exponent : Int} (h : exponent < 0) : InRange s exponent := by
  rw [InRange, scaleDecimal, if_neg (not_le.2 h)]
  rfl

/-- The powers of ten that are too great for a double. -/
theorem le_of_pow_lt {d : Nat} (h : (10 : ℚ) ^ d < 2 ^ 1024) : d ≤ 308 := by
  have hend : 2 ^ 1024 < 10 ^ (103 * 3) :=
    calc 2 ^ 1024 ≤ 2 ^ ((171 + 171) * 3) := pow_le_pow_right₀ one_le_two (by decide)
      _ = (2 ^ 171 * 2 ^ 171) ^ 3 := by rw [pow_mul, pow_add]
      _ < (10 ^ 103) ^ 3 := pow_lt_pow_left₀ (by norm_num) (Nat.zero_le _) (by decide)
      _ = 10 ^ (103 * 3) := (pow_mul 10 103 3).symm
  by_contra hgt
  have hle : 10 ^ (103 * 3) ≤ 10 ^ d := pow_le_pow_right₀ (by decide) (Nat.lt_of_not_le hgt)
  have hnat : 10 ^ d < 2 ^ 1024 := by exact_mod_cast h
  exact absurd hnat (not_lt.2 (hend.le.trans hle))

theorem inRange_of_raised {s d : Nat} (hs : 0 < s) (hlt : raised s d 7 < 2 ^ 1024) :
    InRange s d := by
  have hpower : (10 : ℚ) ^ d < 2 ^ 1024 := by
    refine lt_of_le_of_lt ?_ ((raised_mono hs le_rfl (Nat.zero_le 7)).trans_lt hlt)
    rw [raised, pow_zero, mul_one, Nat.cast_one, one_mul]
  have hd : d ≤ 308 := le_of_pow_lt hpower
  have hfinite : (Float.ofNat s * powerOfTen (d : Int).toNat).isInf = false :=
    Double.not_isInf_of_raised hs hd hlt
  have hnonneg : (0 : Int) ≤ d := Int.natCast_nonneg d
  have hle : (d : Int) ≤ 308 := by omega
  simp only [InRange, scaleDecimal, if_pos hnonneg, if_pos hle, hfinite]
  rfl

/-- What fits into 64 bits is in range where it is not scaled up. -/
theorem inRange_of_nonpos {s : Nat} {exponent : Int} (hs : s ≤ maxWord) (h : exponent ≤ 0) :
    InRange s exponent := by
  rcases h.lt_or_eq with hneg | rfl
  · exact inRange_of_neg s hneg
  rcases Nat.eq_zero_or_pos s with rfl | hpos
  · exact (by decide +kernel : (scaleDecimal 0 0).isSome = true)
  refine inRange_of_raised hpos ((raised_mono hs le_rfl le_rfl).trans_lt ?_)
  have hslack : slack ^ 7 ≤ 2 ^ 7 :=
    pow_le_pow_left₀ Double.slack_pos.le Double.slack_le_two 7
  calc raised maxWord 0 7 = 18446744073709551615 * slack ^ 7 := by
        rw [raised, pow_zero, mul_one]
        rfl
    _ ≤ 2 ^ 64 * 2 ^ 7 :=
        mul_le_mul (by norm_num) hslack (pow_nonneg Double.slack_pos.le 7) (by positivity)
    _ = 2 ^ 71 := (pow_add 2 64 7).symm
    _ < 2 ^ 1024 := pow_lt_pow_right₀ one_lt_two (by decide)

/-! ## Numerals that denote a number -/

section

variable {n : Numeral} {w s e : Nat} {left : List Char}

/-- A numeral denotes a number. -/
def HasValue (n : Numeral) : Prop :=
  ∃ x, n.value = .ok x

theorem hasValue_of_toFloat (hpoint : n.fraction ≠ [] ∨ n.exponent ≠ none)
    (h : ∃ x, n.toFloat = .ok x) : HasValue n := by
  obtain ⟨x, hx⟩ := h
  refine ⟨.real x, ?_⟩
  rw [Numeral.value]
  split
  · rename_i hfraction hexponent _
    exact absurd hpoint (by simp [hfraction, hexponent])
  · rw [hx]
    rfl

theorem toFloat_of_none (hexponent : n.exponent = none) (hwhole : readWord 0 n.whole = (w, []))
    (hfraction : readWord w n.fraction = (s, left)) (hs : s ≤ maxWord) :
    ∃ x, n.toFloat = .ok x := by
  obtain ⟨x, hx⟩ := Option.isSome_iff_exists.1 (inRange_of_nonpos hs
    (show ((0 : Nat) : Int) - (n.fraction.length - left.length : Nat) ≤ 0 by omega))
  simp only [Numeral.toFloat, hwhole, hfraction, hexponent, List.length_nil, hx]
  exact ⟨_, rfl⟩

theorem toFloat_of_down {ds : List Char} (hexponent : n.exponent = some (true, ds))
    (hwhole : readWord 0 n.whole = (w, [])) (hfraction : readWord w n.fraction = (s, left))
    (hs : s ≤ maxWord) : ∃ x, n.toFloat = .ok x := by
  simp only [Numeral.toFloat, hwhole, hfraction, hexponent, List.length_nil, if_true]
  cases readExponent 0 ds with
  | error unread =>
    simp only [Bool.not_true, Bool.and_false, Bool.false_eq_true, if_false]
    exact ⟨_, rfl⟩
  | ok e =>
    obtain ⟨x, hx⟩ := Option.isSome_iff_exists.1 (inRange_of_nonpos hs
      (show ((0 : Nat) : Int) - (n.fraction.length - left.length : Nat) - e ≤ 0 by omega))
    simp only [hx]
    exact ⟨_, rfl⟩

theorem toFloat_of_up {ds : List Char} (hexponent : n.exponent = some (false, ds))
    (hwhole : readWord 0 n.whole = (w, [])) (hfraction : readWord w n.fraction = (s, left))
    (hup : readExponent 0 ds = .ok e)
    (hrange : InRange s (-(n.fraction.length - left.length : Nat) + e)) :
    ∃ x, n.toFloat = .ok x := by
  obtain ⟨x, hx⟩ := Option.isSome_iff_exists.1 hrange
  simp only [Numeral.toFloat, hwhole, hfraction, hexponent, List.length_nil, hup, Int.natCast_zero,
    zero_sub, Bool.false_eq_true, if_false, hx]
  exact ⟨_, rfl⟩

end

section

variable {d : Char} {whole fraction ds : List Char} {x : Nat}

theorem hasValue_point (negative : Bool) (hwhole : Nat.ofDigitChars 10 whole 0 ≤ maxWord)
    (hfraction : fraction ≠ []) : HasValue ⟨negative, whole, fraction, none⟩ :=
  hasValue_of_toFloat (.inl hfraction)
    (toFloat_of_none rfl (readWord_of_le hwhole) rfl (readWord_le hwhole fraction))

theorem hasValue_down (negative : Bool) (hd : d.isDigit = true) :
    HasValue ⟨negative, [d], fraction, some (true, ds)⟩ := by
  have hword : digitValue d ≤ maxWord := (digitValue_le hd).trans (by decide)
  exact hasValue_of_toFloat (.inr (Option.some_ne_none _))
    (toFloat_of_down rfl (readWord_digit hd) rfl (readWord_le hword fraction))

/-- The first digits of a number, scaled as they are, are not above it. -/
theorem raised_front_le {front : List Char} (left : List Char) (n : Nat) {q : Nat}
    (hq : (x : Int) - front.length = q) :
    raised (Nat.ofDigitChars 10 front n) q 7 ≤
      Nat.ofDigitChars 10 (front ++ left) n * 10 ^ ((x : Int) - (front ++ left).length) *
        slack ^ 7 := by
  have hdigits : (Nat.ofDigitChars 10 front n : ℚ) * 10 ^ left.length ≤
      Nat.ofDigitChars 10 (front ++ left) n := by
    rw [Nat.ofDigitChars_append]
    exact_mod_cast ofDigitChars_ge _ left
  have hexponent : (10 : ℚ) ^ q =
      10 ^ left.length * 10 ^ ((x : Int) - (front ++ left).length) := by
    rw [← zpow_natCast, ← zpow_natCast, ← zpow_add₀ (by norm_num), List.length_append]
    congr 1
    omega
  rw [raised, hexponent, ← mul_assoc]
  have hpos := Double.slack_pos.le
  have hten : (0 : ℚ) ≤ 10 ^ ((x : Int) - (front ++ left).length) := zpow_nonneg (by norm_num) _
  gcongr

/-- A digit above zero, more digits and an exponent, if what they stand for is in range. -/
theorem hasValue_up (negative : Bool) (hd : d.isDigit = true) (hzero : d ≠ '0')
    (hbound : (Nat.ofDigitChars 10 (d :: fraction) 0 : ℚ) * 10 ^ ((x : Int) - fraction.length) *
      slack ^ 7 < 2 ^ 1024) :
    HasValue ⟨negative, [d], fraction, some (false, digits x)⟩ := by
  rw [ofDigitChars_zero_cons] at hbound
  have hpos : 0 < digitValue d := digitValue_pos hd hzero
  -- The exponent is read whole, as a greater one would be out of range.
  have hx : x ≤ 308 := by
    have hnone : (x : Int) - ([] : List Char).length = x := sub_zero _
    have hten : (10 : ℚ) ^ x = raised 1 x 0 := by
      rw [raised, pow_zero, mul_one, Nat.cast_one, one_mul]
    have hle : raised 1 x 0 ≤ raised (digitValue d) x 7 := raised_mono hpos le_rfl (Nat.zero_le 7)
    have hdigits := raised_front_le fraction (digitValue d) hnone
    refine le_of_pow_lt ?_
    rw [hten]
    exact (hle.trans hdigits).trans_lt hbound
  obtain ⟨front, hfront, hvalue⟩ := readWord_spec (digitValue d) fraction
  refine hasValue_of_toFloat (.inr (Option.some_ne_none _))
    (toFloat_of_up rfl (readWord_digit hd) rfl (readExponent_digits hx) ?_)
  have hlength : fraction.length - (readWord (digitValue d) fraction).2.length = front.length := by
    have := congrArg List.length hfront
    rw [List.length_append] at this
    omega
  dsimp only
  rw [hlength, hvalue, neg_add_eq_sub]
  rcases lt_or_ge ((x : Int) - front.length) 0 with hneg | hnonneg
  · exact inRange_of_neg _ hneg
  · obtain ⟨q, hq⟩ := Int.eq_ofNat_of_zero_le hnonneg
    rw [hq]
    refine inRange_of_raised (hpos.trans_le (le_ofDigitChars _ front)) ?_
    rw [hfront] at hbound
    exact (raised_front_le _ _ hq).trans_lt hbound

end

/-! ## Layouts -/

theorem hasValue_layoutNumeral (negative : Bool) {ds : List Char} {exponent : Int} (hne : ds ≠ [])
    (hzero : ds.head? ≠ some '0') (hds : ∀ d ∈ ds, d.isDigit = true)
    (hbound : (Nat.ofDigitChars 10 ds 0 : ℚ) * 10 ^ (exponent - (ds.length - 1 : Nat)) *
      slack ^ 7 < 2 ^ 1024) : HasValue (layoutNumeral negative ds exponent) := by
  obtain ⟨d, tail, rfl⟩ := List.exists_cons_of_ne_nil hne
  have hd : d.isDigit = true := hds d List.mem_cons_self
  rw [layoutNumeral]
  split
  · rename_i hplain
    have hsmall : exponent < 16 := of_decide_eq_true (Bool.and_eq_true_iff.1 hplain).2
    split
    · exact hasValue_point negative (digit_le_maxWord rfl) (by simp)
    · -- No more than sixteen digits stand before the point.
      refine hasValue_point negative ?_ ?_
      · set whole := (d :: tail).take (exponent.toNat + 1) ++
          List.replicate (exponent.toNat + 1 - (d :: tail).length) '0'
        have hlength : whole.length = exponent.toNat + 1 := length_filled
        calc Nat.ofDigitChars 10 whole 0 ≤ (0 + 1) * 10 ^ whole.length :=
              (ofDigitChars_lt (fun _ => isDigit_of_mem_filled hds) 0).le
          _ ≤ (0 + 1) * 10 ^ 16 :=
              Nat.mul_le_mul_left _ (Nat.pow_le_pow_right (by decide) (by omega))
          _ ≤ maxWord := by decide
      · split
        · exact List.cons_ne_nil _ _
        · rename_i hback
          exact fun hnil => hback (List.isEmpty_iff.2 hnil)
  · rename_i hscientific
    rcases lt_or_ge exponent 0 with hneg | hnonneg
    · rw [decide_eq_true hneg]
      exact hasValue_down negative hd
    · obtain ⟨x, rfl⟩ := Int.eq_ofNat_of_zero_le hnonneg
      rw [decide_eq_false (not_lt.2 hnonneg)]
      exact hasValue_up negative hd (fun h => hzero (congrArg some h)) hbound

/-! ## The shortest digits -/

theorem zpow_mul_pow_toNat {a : ℚ} (ha : a ≠ 0) (e : Int) :
    a ^ e * a ^ (-e).toNat = a ^ e.toNat := by
  rw [← zpow_natCast, ← zpow_natCast, ← zpow_add₀ ha]
  congr 1
  omega

/-- What rounds to a double is not above the end of its interval. -/
theorem le_of_holds {r : Rounding} {c : Nat} {k : Int} (h : r.holds c k = true) :
    (c : ℚ) * 10 ^ k ≤ r.high * 2 ^ r.scale := by
  have hnat : c * (2 ^ (-r.scale).toNat * 10 ^ k.toNat) ≤
      r.high * (1 * 2 ^ r.scale.toNat * 10 ^ (-k).toNat) := by
    rw [Rounding.holds, ratio, neg_neg] at h
    split at h
    · exact of_decide_eq_true (Bool.and_eq_true_iff.1 h).2
    · exact (of_decide_eq_true (Bool.and_eq_true_iff.1 h).2).le
  have hcast : (c : ℚ) * (2 ^ (-r.scale).toNat * 10 ^ k.toNat) ≤
      r.high * (1 * 2 ^ r.scale.toNat * 10 ^ (-k).toNat) := by exact_mod_cast hnat
  rw [← zpow_mul_pow_toNat two_ne_zero r.scale, ← zpow_mul_pow_toNat (by norm_num) k] at hcast
  have hpos : (0 : ℚ) < 2 ^ (-r.scale).toNat * 10 ^ (-k).toNat := by positivity
  refine le_of_mul_le_mul_right ?_ hpos
  calc (c : ℚ) * 10 ^ k * (2 ^ (-r.scale).toNat * 10 ^ (-k).toNat)
      = c * (2 ^ (-r.scale).toNat * (10 ^ k * 10 ^ (-k).toNat)) := by ring
    _ ≤ r.high * (1 * (2 ^ r.scale * 2 ^ (-r.scale).toNat) * 10 ^ (-k).toNat) := hcast
    _ = r.high * 2 ^ r.scale * (2 ^ (-r.scale).toNat * 10 ^ (-k).toNat) := by ring

/-- What is left below `2 ^ 55` units of the greatest exponent is enough for seven roundings. -/
theorem bounded_of_le {v a : ℚ} (hv : v ≤ a * 2 ^ 969) (ha : a * slack ^ 7 < 2 ^ 55) :
    v * slack ^ 7 < 2 ^ 1024 :=
  calc v * slack ^ 7 ≤ a * 2 ^ 969 * slack ^ 7 :=
        mul_le_mul_of_nonneg_right hv (pow_nonneg Double.slack_pos.le 7)
    _ = a * slack ^ 7 * 2 ^ 969 := mul_right_comm ..
    _ < 2 ^ 55 * 2 ^ 969 := mul_lt_mul_of_pos_right ha (pow_pos two_pos 969)
    _ = 2 ^ 1024 := (pow_add 2 55 969).symm

theorem ten_pow_le : (10 : ℚ) ^ 286 ≤ 2 ^ 968 :=
  calc (10 : ℚ) ^ (143 * 2) = (10 ^ 143) ^ 2 := pow_mul ..
    _ ≤ (2 ^ 242 * 2 ^ 242) ^ 2 := pow_le_pow_left₀ (by positivity) (by norm_num) 2
    _ = 2 ^ ((242 + 242) * 2) := by rw [pow_mul, pow_add]

theorem two_pow_mul : (2 : ℚ) ^ 55 * 2 ^ 968 = 2 ^ 54 * 2 ^ 969 := by
  rw [pow_succ 2 54, pow_succ 2 968, mul_assoc, mul_comm 2]

theorem zpow_le_pow {a : ℚ} (ha : 1 ≤ a) {e : Int} {n : Nat} (h : e ≤ n) : a ^ e ≤ a ^ n := by
  rw [← zpow_natCast]
  exact zpow_le_zpow_right₀ ha h

/-- A number in the lower half of the range leaves room enough. -/
theorem bounded_of_half {c : Nat} {p : ℚ} (hc : c ≤ 2 ^ 55) (hnonneg : 0 ≤ p) (hp : p ≤ 2 ^ 968) :
    (c : ℚ) * p * slack ^ 7 < 2 ^ 1024 := by
  have hdigits : (c : ℚ) ≤ 2 ^ 55 := by exact_mod_cast hc
  refine bounded_of_le (a := 2 ^ 54) ?_ (by rw [slack]; norm_num)
  exact two_pow_mul ▸ mul_le_mul hdigits hp hnonneg (by positivity)

variable {m : Nat} {e : Int}

/-- What rounds to a double is in range when that is none of the greatest. -/
theorem bounded_of_holds {c : Nat} {k : Int} (h : (Rounding.of m e).holds c k = true)
    (hm : m < 2 ^ 53) (he : e ≤ 971) (hend : m ≤ 2 ^ 53 - 16 ∨ e ≤ 970) :
    (c : ℚ) * 10 ^ k * slack ^ 7 < 2 ^ 1024 := by
  have hle : (c : ℚ) * 10 ^ k ≤ (4 * m + 2 : ℕ) * 2 ^ (e - 2) :=
    le_of_holds (r := Rounding.of m e) h
  have hnonneg : (0 : ℚ) ≤ 2 ^ (e - 2) := zpow_nonneg two_pos.le _
  rcases hend with hm' | he'
  · -- The end of the interval is 62 units below the end of the range.
    refine bounded_of_le (a := 2 ^ 55 - 62) (hle.trans ?_) (by rw [slack]; norm_num)
    have hdigits : ((4 * m + 2 : ℕ) : ℚ) ≤ 2 ^ 55 - 62 := by
      rw [le_sub_iff_add_le]
      exact_mod_cast (by omega : 4 * m + 2 + 62 ≤ 2 ^ 55)
    have hpower : (2 : ℚ) ^ (e - 2) ≤ 2 ^ 969 := zpow_le_pow one_le_two (by omega)
    exact mul_le_mul hdigits hpower hnonneg (by norm_num)
  · have hpower : (2 : ℚ) ^ (e - 2) ≤ 2 ^ 968 := zpow_le_pow one_le_two (by omega)
    have hslack : (0 : ℚ) ≤ slack ^ 7 := pow_nonneg Double.slack_pos.le 7
    exact (mul_le_mul_of_nonneg_right hle hslack).trans_lt
      (bounded_of_half (by omega) hnonneg hpower)

/-- The digits of the double itself are in range at the end of the search. -/
theorem bounded_centre (hm : m < 2 ^ 53) (he : e ≤ 971) :
    ((4 * m : ℕ) : ℚ) * 10 ^ (((m.log2 + 1 : Int) + e) * 30103 / 100000 + 2 - (24 : ℕ)) *
      slack ^ 7 < 2 ^ 1024 := by
  have hlog : m.log2 ≤ 52 := by
    rcases Nat.eq_zero_or_pos m with rfl | hpos
    · decide
    · exact Nat.le_of_lt_succ ((Nat.log2_lt hpos.ne').2 hm)
  refine bounded_of_half (by omega) (zpow_nonneg (by norm_num) _) ?_
  have hpower : (10 : ℚ) ^ (((m.log2 + 1 : Int) + e) * 30103 / 100000 + 2 - (24 : ℕ)) ≤
      10 ^ 286 := zpow_le_pow (by norm_num) (by omega)
  exact hpower.trans ten_pow_le

/-- **The shortest digits of a double are in range** when it is none of the greatest. -/
theorem shortest_bounded (hm : m < 2 ^ 53) (he : e ≤ 971) (hend : m ≤ 2 ^ 53 - 16 ∨ e ≤ 970) :
    ((shortest m e).1 : ℚ) * 10 ^ (shortest m e).2 * slack ^ 7 < 2 ^ 1024 := by
  rcases search_cases (Rounding.of m e) 24 (((m.log2 + 1 : Int) + e) * 30103 / 100000 + 2) with
    h | h
  · exact bounded_of_holds h hm he hend
  · rw [shortest, h]
    exact bounded_centre hm he

/-! ## Doubles -/

/-- The zeros at the end of digits stand for a power of ten. -/
theorem ofDigitChars_stripZeros (c : Nat) : ∃ z,
    (digits c).length = (stripZeros (digits c)).length + z ∧
      c = 10 ^ z * Nat.ofDigitChars 10 (stripZeros (digits c)) 0 := by
  obtain ⟨z, hz⟩ := exists_zeros (digits c)
  refine ⟨z, ?_, ?_⟩
  · have hlength := congrArg List.length hz
    rwa [List.length_append, List.length_replicate] at hlength
  · have hvalue := congrArg (Nat.ofDigitChars 10 · 0) hz
    simp only [ofDigitChars_digits, Nat.ofDigitChars_append,
      Nat.ofDigitChars_replicate_zero] at hvalue
    exact hvalue

/-- The fifteen greatest significands of doubles with the greatest exponent. -/
theorem isOk_value_greatest : ∀ (negative : Bool) (i : Fin 15),
    (magnitudeNumeral negative (2 ^ 53 - 15 + i) 971).value.isOk = true := by
  decide +kernel

theorem hasValue_of_isOk {n : Numeral} (h : n.value.isOk = true) : HasValue n := by
  cases hn : n.value with
  | ok x => exact ⟨x, hn⟩
  | error left =>
    rw [hn] at h
    cases h

/-- **The text of a double denotes a number.** -/
theorem hasValue_magnitudeNumeral (negative : Bool) (hm : m < 2 ^ 53) (he : e ≤ 971) :
    HasValue (magnitudeNumeral negative m e) := by
  by_cases hend : m ≤ 2 ^ 53 - 16 ∨ e ≤ 970
  · rcases Nat.eq_zero_or_pos m with rfl | hpos
    · exact hasValue_point negative (digit_le_maxWord rfl) (List.cons_ne_nil _ _)
    · obtain ⟨hne, hhead⟩ := head?_shortest hpos e
      rw [magnitudeNumeral_of_pos negative hpos]
      refine hasValue_layoutNumeral negative hne hhead (fun _ => isDigit_of_mem_stripZeros
        fun _ => isDigit_of_mem_digits) ?_
      have hbound := shortest_bounded hm he hend
      obtain ⟨z, hlength, hvalue⟩ := ofDigitChars_stripZeros (shortest m e).1
      set ds := stripZeros (digits (shortest m e).1)
      have hds : 0 < ds.length := List.length_pos_iff.2 hne
      have hexponent : ((digits (shortest m e).1).length - 1 : Int) + (shortest m e).2 -
          (ds.length - 1 : Nat) = z + (shortest m e).2 := by omega
      rw [hexponent, zpow_add₀ (by norm_num), zpow_natCast, ← mul_assoc, mul_comm _ (10 ^ z)]
      rw [hvalue] at hbound
      exact_mod_cast hbound
  · obtain ⟨i, hi⟩ := Nat.exists_eq_add_of_le (show 2 ^ 53 - 15 ≤ m by omega)
    have hsmall : i < 15 := by omega
    obtain rfl : e = 971 := by omega
    rw [hi]
    exact hasValue_of_isOk (isOk_value_greatest negative ⟨i, hsmall⟩)

/-- A finite double is a significand of 53 bits with an exponent in range. -/
theorem shape_of_isFinite {x : Float} (hx : x.isFinite = true) : ∃ negative m e,
    shape x = .finite negative m e ∧ m < 2 ^ 53 ∧ e ≤ 971 := by
  have hstored : storedExponent x ≠ 2047 := by
    intro h
    have hexponent : @Float.Model.UnpackedFloat.unpackExponent .binary64
        x.toModel.toBits.toBitVec = -1#11 := by
      refine BitVec.eq_of_toNat_eq ?_
      rw [Float.Model.UnpackedFloat.unpackExponent, BitVec.toNat_cast, BitVec.extractLsb_toNat,
        Nat.shiftRight_eq_div_pow]
      exact h
    exact absurd hx (Bool.eq_false_iff.1 (Double.isFinite_unpack_of_greatest hexponent))
  have hfraction : storedFraction x < 2 ^ 52 := Nat.mod_lt _ (by decide)
  have hbits : storedExponent x < 2 ^ 11 := Nat.mod_lt _ (by decide)
  rw [shape]
  simp only [beq_iff_eq, if_neg hstored]
  split
  · exact ⟨_, _, _, rfl, by omega, by decide⟩
  · exact ⟨_, _, _, rfl, by show storedFraction x + 2 ^ 52 < 2 ^ 53; omega, by omega⟩

/-- **The text of a finite double is that of a numeral which denotes a number.** -/
theorem exists_numeral_of_isFinite {x : Float} (hx : x.isFinite = true) : ∃ c n,
    text? x = some c ∧ IsNumeral n c ∧ HasValue n := by
  obtain ⟨negative, m, e, hshape, hm, he⟩ := shape_of_isFinite hx
  refine ⟨_, magnitudeNumeral negative m e, ?_, isNumeral_magnitudeText negative m e,
    hasValue_magnitudeNumeral negative hm he⟩
  rw [text?, hshape]

end Vigil.Decimal
