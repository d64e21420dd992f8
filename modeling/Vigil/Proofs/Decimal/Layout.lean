import Vigil.Proofs.Json.Printing

/-!
# The text of a double is a numeral

The digits of a double are laid out around a point, or before an exponent.  Either way the text is
a numeral as JSON has it: the digits before the point are one digit or do not begin with a zero,
and where there is a point or an exponent, there are digits behind it.

* `exists_zeros`, `head?_stripZeros` -- what is left when zeros at the end are taken off;
* `layoutNumeral` -- the numeral that digits are laid out as; `isNumeral_layOut` -- its text;
* `shortest_pos`, `head?_shortest` -- the shortest digits are those of a positive number;
* `isNumeral_magnitudeText` -- **the text of a finite double is that of a numeral**.
-/

namespace Vigil.Decimal

open Json (IsNumeral Numeral Reads Stops isWholePart isFractionChar isNumeralChar)

/-! ## Digits -/

theorem isDigit_of_mem_digits {n : Nat} {c : Char} (h : c ∈ digits n) : c.isDigit = true :=
  Nat.isDigit_of_mem_toDigits (by decide) (by decide) h

theorem digits_ne_nil (n : Nat) : digits n ≠ [] :=
  Nat.toDigits_ne_nil

/-- The digits of a positive number do not begin with a zero. -/
theorem head?_digits {n : Nat} (hn : 0 < n) : (digits n).head? ≠ some '0' := by
  induction n using Nat.strongRecOn with
  | ind n ih =>
    rw [digits]
    by_cases hsmall : n < 10
    · have hdigit : ∀ d, d < 10 → 0 < d → [d.digitChar].head? ≠ some '0' := by decide
      rw [Nat.toDigits_of_lt_base hsmall]
      exact hdigit n hsmall hn
    · have hlead : (Nat.toDigits 10 (n / 10)).head? ≠ some '0' :=
        ih (n / 10) (by omega) (by omega)
      rw [Nat.toDigits_of_base_le (by decide) (by omega),
        List.head?_append_of_ne_nil _ Nat.toDigits_ne_nil]
      exact hlead

theorem isWholePart_of_head? {ds : List Char} (h : ds.head? ≠ some '0') :
    isWholePart ds = true := by
  rw [isWholePart, bne_iff_ne.2 h, Bool.or_true]

theorem isWholePart_digits (n : Nat) : isWholePart (digits n) = true := by
  rcases Nat.eq_zero_or_pos n with rfl | hn
  · rfl
  · exact isWholePart_of_head? (head?_digits hn)

/-! ## Zeros at the end -/

theorem exists_zeros (ds : List Char) : ∃ z, ds = stripZeros ds ++ List.replicate z '0' := by
  have hzeros : ∀ c ∈ (ds.reverse.takeWhile (· == '0')).reverse, c = '0' := fun c hc =>
    eq_of_beq (List.all_eq_true.1 List.all_takeWhile c (List.mem_reverse.1 hc))
  refine ⟨(ds.reverse.takeWhile (· == '0')).reverse.length, ?_⟩
  rw [← List.eq_replicate_of_mem hzeros, stripZeros, ← List.reverse_append,
    List.takeWhile_append_dropWhile, List.reverse_reverse]

/-- Digits that do not begin with a zero keep their first digit. -/
theorem head?_stripZeros {ds : List Char} (hne : ds ≠ []) (hzero : ds.head? ≠ some '0') :
    stripZeros ds ≠ [] ∧ (stripZeros ds).head? ≠ some '0' := by
  obtain ⟨z, hz⟩ := exists_zeros ds
  have hstrip : stripZeros ds ≠ [] := by
    intro hnil
    rw [hnil, List.nil_append] at hz
    obtain ⟨d, ds, rfl⟩ := List.exists_cons_of_ne_nil hne
    have hd : d = '0' := List.eq_of_mem_replicate (hz ▸ List.mem_cons_self)
    exact hzero (congrArg some hd)
  refine ⟨hstrip, ?_⟩
  rwa [hz, List.head?_append_of_ne_nil _ hstrip] at hzero

theorem isDigit_of_mem_stripZeros {ds : List Char} (hds : ∀ d ∈ ds, d.isDigit = true) {d : Char}
    (hd : d ∈ stripZeros ds) : d.isDigit = true := by
  obtain ⟨z, hz⟩ := exists_zeros ds
  exact hds d (hz ▸ List.mem_append_left _ hd)

/-! ## Layouts -/

/-- The numeral that digits are laid out as. -/
def layoutNumeral (negative : Bool) (ds : List Char) (exponent : Int) : Numeral :=
  if numberLayout.leastPositional ≤ exponent && exponent < numberLayout.endPositional then
    if exponent < 0 then ⟨negative, ['0'], List.replicate (-exponent - 1).toNat '0' ++ ds, none⟩
    else
      let whole := exponent.toNat + 1
      ⟨negative, ds.take whole ++ List.replicate (whole - ds.length) '0',
        if (ds.drop whole).isEmpty then ['0'] else ds.drop whole, none⟩
  else
    ⟨negative, ds.take 1, ds.drop 1, some (decide (exponent < 0), digits exponent.natAbs)⟩

section Filled

variable {ds : List Char} {n : Nat}

/-- The first digits, with zeros where there are none, are as many as are asked for. -/
theorem length_filled : (ds.take n ++ List.replicate (n - ds.length) '0').length = n := by
  rw [List.length_append, List.length_take, List.length_replicate]
  omega

theorem isDigit_of_mem_filled (hds : ∀ d ∈ ds, d.isDigit = true) {c : Char}
    (hc : c ∈ ds.take n ++ List.replicate (n - ds.length) '0') : c.isDigit = true :=
  (List.mem_append.1 hc).elim (fun hc => hds c (List.mem_of_mem_take hc))
    fun hc => List.eq_of_mem_replicate hc ▸ rfl

end Filled

/-- Digits, a point, and digits. -/
theorem isNumeral_point (negative : Bool) {whole fraction : List Char} (hwhole : whole ≠ [])
    (hzero : isWholePart whole = true) (hwholeDigits : ∀ d ∈ whole, d.isDigit = true)
    (hfraction : fraction ≠ []) (hfractionDigits : ∀ d ∈ fraction, d.isDigit = true) :
    IsNumeral ⟨negative, whole, fraction, none⟩
      ((if negative then ['-'] else []) ++ (whole ++ '.' :: fraction)) := by
  have hpoint : Stops Char.isDigit ('.' :: fraction) := by
    intro c hc
    obtain rfl := Option.some.inj hc
    rfl
  have hend : Stops isFractionChar [] := fun _ hc => nomatch hc
  have hnumeral := Json.isNumeral_parts negative hwhole hzero hwholeDigits hpoint
    (Json.reads_fraction hfraction hfractionDigits) hend fun _ => Json.exponentPart_of_stops
  rwa [List.append_nil] at hnumeral

/-- One digit, perhaps a point and digits, and an exponent. -/
theorem isNumeral_scientific (negative down : Bool) {d : Char} {fraction exponent : List Char}
    (hd : d.isDigit = true) (hfraction : ∀ d ∈ fraction, d.isDigit = true)
    (hexponent : exponent ≠ []) (hexponentDigits : ∀ d ∈ exponent, d.isDigit = true) :
    IsNumeral ⟨negative, [d], fraction, some (down, exponent)⟩
      ((if negative then ['-'] else []) ++
        ([d] ++ ((if fraction.isEmpty then [] else '.' :: fraction) ++
          'e' :: Json.exponentMark down :: exponent))) := by
  have hwhole : ∀ c ∈ [d], c.isDigit = true := fun c hc => List.mem_singleton.1 hc ▸ hd
  have hmark : Stops isFractionChar ('e' :: Json.exponentMark down :: exponent) := by
    intro c hc
    obtain rfl := Option.some.inj hc
    rfl
  refine Json.isNumeral_parts negative (List.cons_ne_nil _ _) rfl hwhole ?_ ?_ hmark
    (Json.reads_exponent down hexponent hexponentDigits)
  · cases fraction with
    | nil => exact fun _ hc => nomatch hc
    | cons c fraction =>
      intro c hc
      obtain rfl := Option.some.inj hc
      rfl
  · cases fraction with
    | nil => exact fun _ => Json.fractionPart_of_stops
    | cons c fraction => exact Json.reads_fraction (List.cons_ne_nil _ _) hfraction

theorem isNumeral_layOut {ds : List Char} (hne : ds ≠ []) (hzero : ds.head? ≠ some '0')
    (hds : ∀ d ∈ ds, d.isDigit = true) (negative : Bool) (exponent : Int) :
    IsNumeral (layoutNumeral negative ds exponent)
      ((if negative then ['-'] else []) ++ layOut numberLayout ds exponent) := by
  have hzeros {n : Nat} : ∀ c ∈ List.replicate n '0', c.isDigit = true := fun c hc =>
    List.eq_of_mem_replicate hc ▸ rfl
  obtain ⟨d, tail, rfl⟩ := List.exists_cons_of_ne_nil hne
  rw [layoutNumeral, layOut]
  split
  · split
    · -- Below one all digits stand behind the point, after some zeros.
      refine isNumeral_point negative (List.cons_ne_nil _ _) rfl ?_ (by simp) ?_
      · intro c hc
        exact List.mem_singleton.1 hc ▸ rfl
      · exact fun c hc => (List.mem_append.1 hc).elim (hzeros c) (hds c)
    · -- From one on the digits stand around the point, with zeros where there are none.
      have hfront : ∀ c ∈ (d :: tail).take (exponent.toNat + 1) ++
          List.replicate (exponent.toNat + 1 - (d :: tail).length) '0', c.isDigit = true :=
        fun _ => isDigit_of_mem_filled hds
      have hback : ∀ c ∈ (d :: tail).drop (exponent.toNat + 1), c.isDigit = true :=
        fun c hc => hds c (List.mem_of_mem_drop hc)
      dsimp only
      rw [List.append_assoc, List.singleton_append]
      cases hnil : (d :: tail).drop (exponent.toNat + 1) with
      | nil =>
        exact isNumeral_point negative (List.cons_ne_nil _ _) (isWholePart_of_head? hzero) hfront
          (List.cons_ne_nil _ _) fun c hc => List.mem_singleton.1 hc ▸ rfl
      | cons c back =>
        rw [hnil] at hback
        exact isNumeral_point negative (List.cons_ne_nil _ _) (isWholePart_of_head? hzero) hfront
          (List.cons_ne_nil _ _) hback
  · have hnumeral := isNumeral_scientific negative (decide (exponent < 0))
      (hds d List.mem_cons_self) (fun c hc => hds c (List.mem_cons_of_mem _ hc))
      (digits_ne_nil exponent.natAbs) fun _ => isDigit_of_mem_digits
    have hmark : Json.exponentMark (decide (exponent < 0)) = if exponent < 0 then '-' else '+' := by
      simp [Json.exponentMark]
    rw [hmark] at hnumeral
    simpa using hnumeral

/-! ## The shortest digits -/

section

variable {r : Rounding} {m c n : Nat} {e k : Int}

/-- There are two candidates on a grid. -/
theorem pick?_eq (r : Rounding) (k : Int) : ∃ near far, r.pick? k =
    if r.holds near k then some near else if r.holds far k then some far else none :=
  ⟨_, _, rfl⟩

theorem holds_of_pick? (h : r.pick? k = some c) : r.holds c k = true := by
  obtain ⟨near, far, heq⟩ := pick?_eq r k
  rw [heq] at h
  split at h
  · rename_i hnear
    exact Option.some.inj h ▸ hnear
  · split at h
    · rename_i hfar
      exact Option.some.inj h ▸ hfar
    · cases h

/-- The search ends in the interval, or at the centre when its steps are used up. -/
theorem search_cases (r : Rounding) (n : Nat) (k : Int) :
    r.holds (r.search n k).1 (r.search n k).2 = true ∨ r.search n k = (r.centre, k - n) := by
  induction n generalizing k with
  | zero => exact .inr (by simp [Rounding.search])
  | succ n ih =>
    rw [Rounding.search]
    split
    · rename_i hpick
      exact .inl (holds_of_pick? hpick)
    · have hstep : k - 1 - (n : Int) = k - (n + 1 : Nat) := by omega
      rw [← hstep]
      exact ih (k - 1)

theorem ratio_pos {m : Nat} (hm : 0 < m) (e k : Int) : 0 < (ratio m e k).1 := by
  rw [ratio]
  exact Nat.mul_pos (Nat.mul_pos hm (Nat.pow_pos (by decide))) (Nat.pow_pos (by decide))

/-- What rounds to a positive double is positive. -/
theorem pos_of_holds (hm : 0 < m) (h : (Rounding.of m e).holds c k = true) : 0 < c := by
  have hlow : 0 < (Rounding.of m e).low := by
    rw [Rounding.of]
    dsimp only
    split <;> omega
  have hlower : 0 < (Rounding.of m e).low * (ratio 1 (Rounding.of m e).scale (-k)).1 :=
    Nat.mul_pos hlow (ratio_pos Nat.one_pos _ _)
  refine Nat.pos_of_ne_zero fun hc => ?_
  rw [Rounding.holds, hc, Nat.zero_mul] at h
  split at h
  · exact absurd (of_decide_eq_true (Bool.and_eq_true_iff.1 h).1) (Nat.not_le.2 hlower)
  · exact absurd (of_decide_eq_true (Bool.and_eq_true_iff.1 h).1) (Nat.not_lt_zero _)

theorem shortest_pos (hm : 0 < m) (e : Int) : 0 < (shortest m e).1 := by
  rw [shortest]
  rcases search_cases (Rounding.of m e) 24 (((m.log2 + 1 : Int) + e) * 30103 / 100000 + 2) with
    h | h
  · exact pos_of_holds hm h
  · rw [h]
    exact Nat.mul_pos (by decide) hm

end

/-! ## Doubles -/

/-- The numeral that `± m · 2 ^ e` is written as. -/
def magnitudeNumeral (negative : Bool) (m : Nat) (e : Int) : Numeral :=
  if m == 0 then ⟨negative, ['0'], ['0'], none⟩
  else
    let (c, k) := shortest m e
    let all := digits c
    layoutNumeral negative (stripZeros all) (all.length - 1 + k)

theorem magnitudeNumeral_of_pos (negative : Bool) {m : Nat} (hm : 0 < m) (e : Int) :
    magnitudeNumeral negative m e =
      layoutNumeral negative (stripZeros (digits (shortest m e).1))
        ((digits (shortest m e).1).length - 1 + (shortest m e).2) := by
  rw [magnitudeNumeral, if_neg (mt beq_iff_eq.1 hm.ne')]

/-- The digits of a double do not begin with a zero. -/
theorem head?_shortest {m : Nat} (hm : 0 < m) (e : Int) :
    stripZeros (digits (shortest m e).1) ≠ [] ∧
      (stripZeros (digits (shortest m e).1)).head? ≠ some '0' :=
  head?_stripZeros (digits_ne_nil _) (head?_digits (shortest_pos hm e))

/-- **The text of a finite double is that of a numeral.** -/
theorem isNumeral_magnitudeText (negative : Bool) (m : Nat) (e : Int) :
    IsNumeral (magnitudeNumeral negative m e)
      ((if negative then ['-'] else []) ++ magnitudeText m e) := by
  rcases Nat.eq_zero_or_pos m with rfl | hm
  · exact isNumeral_point negative (List.cons_ne_nil _ _) rfl
      (fun c hc => List.mem_singleton.1 hc ▸ rfl) (List.cons_ne_nil _ _)
      fun c hc => List.mem_singleton.1 hc ▸ rfl
  · obtain ⟨hne, hhead⟩ := head?_shortest hm e
    rw [magnitudeNumeral_of_pos negative hm, magnitudeText, if_neg (mt beq_iff_eq.1 hm.ne')]
    exact isNumeral_layOut hne hhead (fun _ => isDigit_of_mem_stripZeros
      fun _ => isDigit_of_mem_digits) negative _

end Vigil.Decimal
