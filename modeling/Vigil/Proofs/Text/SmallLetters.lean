import Vigil.Text.Blank
import Vigil.Text.Lowercase

/-!
# Trimmed texts in small letters

A text that has been trimmed and brought into small letters stays as it is when both are done again.
For trimming this follows from its definition.  For small letters it depends on the tables: no small
letter has another small letter, and none is a blank.

* `Span.isApart` -- two spans have no code point in common, as can be seen from their ends;
* `isProper_lowercase` -- the check of the table: what letters are sent to is apart from what is
  sent on, and from the blanks;
* `isSmallOf_of_mem_lowerChar` -- so the small form of a character is small, and no blank unless the
  character is one;
* `trim_trim`, `lowercase_lowercase` and `trim_lowercase_trim` -- **the main results**;
* `eqPlainCase_lowercase_iff` -- which texts are equal to themselves in small letters when only the
  case of plain letters is overlooked.
-/

namespace Vigil.Text

/-! ## Trimmed texts -/

/-- A text neither begins nor ends with a blank. -/
structure IsTrimmed (s : List Char) : Prop where
  head : ∀ c ∈ s.head?, isBlank c = false
  last : ∀ c ∈ s.getLast?, isBlank c = false

theorem head?_trimStart {s : List Char} {c : Char} (h : c ∈ (trimStart s).head?) :
    isBlank c = false := by
  have hfirst := List.head?_dropWhile_not isBlank s
  rw [trimStart, Option.mem_def] at h
  rwa [h] at hfirst

theorem getLast?_trimEnd {s : List Char} {c : Char} (h : c ∈ (trimEnd s).getLast?) :
    isBlank c = false := by
  rw [trimEnd, List.getLast?_reverse] at h
  exact head?_trimStart h

theorem trimEnd_prefix (s : List Char) : trimEnd s <+: s := by
  rw [← List.reverse_suffix, trimEnd, List.reverse_reverse]
  exact List.dropWhile_suffix isBlank

theorem isTrimmed_trimChars (s : List Char) : IsTrimmed (trimChars s) where
  head c hc := by
    obtain ⟨rest, hrest⟩ := trimEnd_prefix (trimStart s)
    refine head?_trimStart (s := s) ?_
    have hc' : (trimEnd (trimStart s)).head? = some c := hc
    rw [← hrest, Option.mem_def, List.head?_append, hc', Option.some_or]
  last c hc := getLast?_trimEnd hc

theorem IsTrimmed.trimChars_eq {s : List Char} (h : IsTrimmed s) : trimChars s = s := by
  have hstart : ∀ {l : List Char}, (∀ c ∈ l.head?, isBlank c = false) → trimStart l = l := by
    intro l hl
    cases l with
    | nil => rfl
    | cons c rest => exact trimStart_of_head (hl c rfl)
  have hend : trimStart s.reverse = s.reverse := hstart (by simpa using h.last)
  rw [trimStart] at hend
  rw [trimChars, hstart h.head, trimEnd, hend, List.reverse_reverse]

/-- Only the blanks around a trimmed text are taken off. -/
theorem IsTrimmed.trimChars_append {u s v : List Char} (hs : IsTrimmed s) (hne : s ≠ [])
    (hu : ∀ c ∈ u, isBlank c = true) (hv : ∀ c ∈ v, isBlank c = true) :
    trimChars (u ++ s ++ v) = s := by
  have hdrop {a l : List Char} (ha : ∀ c ∈ a, isBlank c = true) (hne : l ≠ [])
      (hl : ∀ c ∈ l.head?, isBlank c = false) : trimStart (a ++ l) = l := by
    obtain ⟨c, rest, rfl⟩ := List.exists_cons_of_ne_nil hne
    rw [trimStart, List.dropWhile_append_of_pos ha]
    exact trimStart_of_head (hl c rfl)
  have hstart : trimStart (u ++ (s ++ v)) = s ++ v := by
    obtain ⟨first, rest, rfl⟩ := List.exists_cons_of_ne_nil hne
    exact hdrop hu (List.cons_ne_nil _ _) hs.head
  have hend : trimStart (v.reverse ++ s.reverse) = s.reverse := by
    refine hdrop (fun c hc => hv c (List.mem_reverse.1 hc)) (List.reverse_ne_nil_iff.2 hne) ?_
    simpa using hs.last
  rw [trimStart] at hend
  rw [List.append_assoc, trimChars, hstart, trimEnd, List.reverse_append, hend,
    List.reverse_reverse]

/-- Around what trimming leaves there were only blanks. -/
theorem exists_append_trimChars (s : List Char) :
    ∃ u v, s = u ++ trimChars s ++ v ∧ (∀ c ∈ u, isBlank c = true) ∧
      ∀ c ∈ v, isBlank c = true := by
  have htake (l : List Char) : ∀ c ∈ l.takeWhile isBlank, isBlank c = true :=
    List.all_eq_true.1 List.all_takeWhile
  have hstart : s = s.takeWhile isBlank ++ trimStart s := List.takeWhile_append_dropWhile.symm
  have hend : (trimStart s).reverse =
      (trimStart s).reverse.takeWhile isBlank ++ (trimEnd (trimStart s)).reverse := by
    rw [trimEnd, List.reverse_reverse, List.takeWhile_append_dropWhile]
  refine ⟨_, ((trimStart s).reverse.takeWhile isBlank).reverse, ?_, htake s,
    fun c hc => htake _ c (List.mem_reverse.1 hc)⟩
  rw [List.append_assoc, trimChars, ← List.reverse_inj, List.reverse_append, List.reverse_append,
    List.reverse_reverse, ← hend, ← List.reverse_append, ← hstart]

/-- **Trimming twice is trimming once.** -/
theorem trim_trim (s : String) : trim (trim s) = trim s := by
  rw [trim, toList_trim, (isTrimmed_trimChars s.toList).trimChars_eq, ← trim]

/-! ## Spans that are apart -/

theorem Span.bounds_of_holds {s : Span} {n : Nat} (h : s.holds n = true) : s.1 ≤ n ∧ n ≤ s.2.1 := by
  simp only [holds, Bool.and_eq_true] at h
  exact ⟨of_decide_eq_true h.1.1, of_decide_eq_true h.1.2⟩

/-- All code points of the span are even, or all are odd. -/
def Span.isEven (s : Span) : Bool :=
  s.1 == s.2.1 || s.2.2 == 2

/-- One span ends before the other begins, or they alternate. -/
def Span.isApart (s t : Span) : Bool :=
  s.2.1.blt t.1 || t.2.1.blt s.1 || (s.isEven && t.isEven && s.1 % 2 != t.1 % 2)

theorem Span.mod_two_of_holds {s : Span} {n : Nat} (hs : s.isEven = true) (h : s.holds n = true) :
    n % 2 = s.1 % 2 := by
  have hbounds := bounds_of_holds h
  simp only [holds, Bool.and_eq_true, beq_iff_eq] at h
  simp only [isEven, Bool.or_eq_true, beq_iff_eq] at hs
  rcases hs with hs | hs
  · omega
  · rw [hs] at h
    omega

/-- **Spans that are apart have no code point in common.** -/
theorem Span.not_holds_of_isApart {s t : Span} {n : Nat} (h : s.isApart t = true)
    (hs : s.holds n = true) : t.holds n = false := by
  rw [Bool.eq_false_iff]
  intro ht
  simp only [isApart, Bool.or_eq_true, Bool.and_eq_true, Nat.blt_eq, bne_iff_ne] at h
  rcases h with h | ⟨⟨heven, heven'⟩, hparity⟩
  · have hbounds := bounds_of_holds hs
    have hbounds' := bounds_of_holds ht
    omega
  · exact hparity ((mod_two_of_holds heven hs).symm.trans (mod_two_of_holds heven' ht))

/-! ## The table of small letters -/

namespace Shift

/-- The code points that a shift covers. -/
def domain (s : Shift) : Span :=
  (s.1, s.2.1, s.2.2.1)

/-- The code points that it sends them to. -/
def images (s : Shift) : Span :=
  (s.2.2.2, s.2.2.2 + (s.2.1 - s.1), s.2.2.1)

theorem image?_eq_none_iff {s : Shift} {n : Nat} :
    s.image? n = none ↔ s.domain.holds n = false := by
  rw [image?, domain]
  split <;> simp_all

theorem holds_images {s : Shift} {n m : Nat} (h : s.image? n = some m) :
    s.images.holds m = true := by
  rw [image?] at h
  split at h
  · rename_i hn
    obtain rfl := Option.some.inj h
    simp only [Span.holds, Bool.and_eq_true, decide_eq_true_eq, beq_iff_eq] at hn
    simp only [images, Span.holds, Bool.and_eq_true, beq_iff_eq, Nat.add_sub_cancel_left]
    exact ⟨⟨decide_eq_true (by omega), decide_eq_true (by omega)⟩, hn.2⟩
  · cases h

end Shift

/-- The capital I with a dot, whose small form is two characters. -/
def dottedCapital : Span := (0x130, 0x130, 1)

/-- What has a small form other than itself. -/
def capitals : List Span :=
  dottedCapital :: Shifts.lowercase.map Shift.domain

/-- A shift sends its code points to characters that are neither capitals nor blanks. -/
def Shift.isProper (s : Shift) : Bool :=
  (capitals ++ blankSpans).all s.images.isApart &&
    (s.images.2.1 < 0xd800 || (0xdfff < s.images.1 && s.images.2.1 < 0x110000))

/-- **The table of small letters is proper.** -/
theorem isProper_lowercase : Shifts.lowercase.all Shift.isProper = true := by
  decide +kernel

/-! ## Small letters -/

/-- The character is its own small form. -/
def isSmall (c : Char) : Bool :=
  !inSpans capitals c.toNat

theorem isSmall_iff {c : Char} :
    isSmall c = true ↔
      c.toNat ≠ 0x130 ∧ ∀ s ∈ Shifts.lowercase, s.domain.holds c.toNat = false := by
  have hdotted : dottedCapital.holds c.toNat = false ↔ c.toNat ≠ 0x130 := by
    refine ⟨fun h hc => ?_, fun hc => Bool.eq_false_iff.2 fun h => hc ?_⟩
    · rw [hc] at h
      cases h
    · exact Nat.le_antisymm (Span.bounds_of_holds h).2 (Span.bounds_of_holds h).1
  rw [isSmall, Bool.not_eq_true', capitals, inSpans_cons, Bool.or_eq_false_iff, hdotted, inSpans,
    List.any_map, List.any_eq_false]
  simp

theorem shifted_of_isSmall {c : Char} (h : isSmall c = true) :
    shifted Shifts.lowercase c.toNat = c.toNat := by
  have hnone : Shifts.lowercase.findSome? (·.image? c.toNat) = none :=
    List.findSome?_eq_none_iff.2 fun s hs => Shift.image?_eq_none_iff.2 ((isSmall_iff.1 h).2 s hs)
  rw [shifted, hnone]
  rfl

/-- On plain letters the table does what its first shift does. -/
theorem shifted_of_plain {n : Nat} (hplain : n < 128) :
    shifted Shifts.lowercase n = shifted [(0x41, 0x5a, 1, 0x61)] n := by
  have hsplit : Shifts.lowercase = (0x41, 0x5a, 1, 0x61) :: Shifts.lowercase.tail := rfl
  have hfar : Shifts.lowercase.tail.all (128 ≤ ·.1) = true := by decide
  have hnone : Shifts.lowercase.tail.findSome? (·.image? n) = none := by
    refine List.findSome?_eq_none_iff.2 fun s hs => Shift.image?_eq_none_iff.2 ?_
    have hs' : 128 ≤ s.1 := of_decide_eq_true (List.all_eq_true.1 hfar s hs)
    refine Bool.eq_false_iff.2 fun hn => ?_
    have hbounds : s.1 ≤ n := (Span.bounds_of_holds hn).1
    omega
  rw [hsplit, shifted, shifted, List.findSome?_cons, List.findSome?_cons, hnone]
  rfl

theorem toLower_eq_shifted {c : Char} (hplain : c.toNat < 128) :
    c.toLower = Char.ofNat (shifted Shifts.lowercase c.toNat) := by
  have hall : ∀ n < 128,
      (Char.ofNat n).toLower = Char.ofNat (shifted [(0x41, 0x5a, 1, 0x61)] n) := by
    decide +kernel
  have hc := hall c.toNat hplain
  rwa [Char.ofNat_toNat, ← shifted_of_plain hplain] at hc

/-- The small form of any character but one is what the table sends it to. -/
theorem lowerChar_eq_shifted {c : Char} (hdotted : c.toNat ≠ 0x130) :
    lowerChar c = [Char.ofNat (shifted Shifts.lowercase c.toNat)] := by
  rw [lowerChar, beq_false_of_ne hdotted]
  split
  · rename_i hplain
    rw [toLower_eq_shifted hplain]
  · rfl

/-- **A small letter stays as it is.** -/
theorem lowerChar_of_isSmall {c : Char} (h : isSmall c = true) : lowerChar c = [c] := by
  rw [lowerChar_eq_shifted (isSmall_iff.1 h).1, shifted_of_isSmall h, Char.ofNat_toNat]

/-- A small form of a character is small, and no blank unless the character is one. -/
structure IsSmallOf (c d : Char) : Prop where
  small : isSmall d = true
  not_blank : isBlank c = false → isBlank d = false

theorem toNat_ofNat_of_isValidChar {n : Nat} (h : n.isValidChar) : (Char.ofNat n).toNat = n := by
  rw [Char.ofNat, dif_pos h]
  rfl

/-- **What the table sends a letter to is small, and no blank.** -/
theorem isSmallOf_image {s : Shift} (hs : s ∈ Shifts.lowercase) {c : Char} {m : Nat}
    (hm : s.image? c.toNat = some m) : IsSmallOf c (Char.ofNat m) := by
  have himages := Shift.holds_images hm
  have hproper := List.all_eq_true.1 isProper_lowercase s hs
  rw [Shift.isProper, Bool.and_eq_true, List.all_eq_true] at hproper
  obtain ⟨hapart, hvalid⟩ := hproper
  have hnone {l : List Span} (hl : ∀ t ∈ l, t ∈ capitals ++ blankSpans) : inSpans l m = false :=
    List.any_eq_false.2 fun t ht =>
      Bool.eq_false_iff.1 (Span.not_holds_of_isApart (hapart t (hl t ht)) himages)
  have hm : (Char.ofNat m).toNat = m := by
    refine toNat_ofNat_of_isValidChar ?_
    have hbounds := Span.bounds_of_holds himages
    simp only [Bool.or_eq_true, Bool.and_eq_true, decide_eq_true_eq] at hvalid
    unfold Nat.isValidChar
    omega
  refine ⟨?_, fun _ => ?_⟩
  · rw [isSmall, hm, hnone fun t => List.mem_append_left _]
    rfl
  · rw [isBlank, hm, hnone fun t => List.mem_append_right _]

theorem isSmallOf_shifted {c : Char} (hdotted : c.toNat ≠ 0x130) :
    IsSmallOf c (Char.ofNat (shifted Shifts.lowercase c.toNat)) := by
  rw [shifted]
  cases hfound : Shifts.lowercase.findSome? (·.image? c.toNat) with
  | some m =>
    obtain ⟨s, hs, hm⟩ := List.exists_of_findSome?_eq_some hfound
    exact isSmallOf_image hs hm
  | none =>
    rw [Option.getD_none, Char.ofNat_toNat]
    refine ⟨isSmall_iff.2 ⟨hdotted, fun s hs => ?_⟩, id⟩
    exact Shift.image?_eq_none_iff.1 (List.findSome?_eq_none_iff.1 hfound s hs)

/-- **The small form of a character is small**, and no blank unless the character is one. -/
theorem isSmallOf_of_mem_lowerChar {c d : Char} (hd : d ∈ lowerChar c) : IsSmallOf c d := by
  by_cases hdotted : c.toNat = 0x130
  · have hlower : lowerChar c = ['i', '\u0307'] := by
      rw [lowerChar, hdotted]
      rfl
    rw [hlower] at hd
    rcases List.mem_cons.1 hd with rfl | hd
    · exact ⟨by decide +kernel, fun _ => by decide⟩
    · rw [List.mem_singleton.1 hd]
      exact ⟨by decide +kernel, fun _ => by decide⟩
  · rw [lowerChar_eq_shifted hdotted] at hd
    rw [List.mem_singleton.1 hd]
    exact isSmallOf_shifted hdotted

theorem lowerChar_ne_nil (c : Char) : lowerChar c ≠ [] := by
  rw [lowerChar]
  split
  · exact List.cons_ne_nil _ _
  · split <;> exact List.cons_ne_nil _ _

/-! ## Texts in small letters -/

/-- One character after the other is brought into small letters. -/
theorem lowerAfter_cons (before : List Char) (c : Char) (rest : List Char) :
    ∃ small, lowerAfter before (c :: rest) = small ++ lowerAfter (c :: before) rest ∧ small ≠ [] ∧
      ∀ d ∈ small, IsSmallOf c d := by
  refine ⟨_, rfl, ?_⟩
  split
  · have hfinal : IsSmallOf c 'ς' := ⟨by decide +kernel, fun _ => by decide⟩
    have hsigma : IsSmallOf c 'σ' := ⟨by decide +kernel, fun _ => by decide⟩
    split
    · exact ⟨List.cons_ne_nil _ _, fun d hd => List.mem_singleton.1 hd ▸ hfinal⟩
    · exact ⟨List.cons_ne_nil _ _, fun d hd => List.mem_singleton.1 hd ▸ hsigma⟩
  · exact ⟨lowerChar_ne_nil c, fun d => isSmallOf_of_mem_lowerChar⟩

theorem isSmall_of_mem_lowerAfter {before s : List Char} {d : Char} (hd : d ∈ lowerAfter before s) :
    isSmall d = true := by
  induction s generalizing before with
  | nil => cases hd
  | cons c rest ih =>
    obtain ⟨small, hcons, -, hsmall⟩ := lowerAfter_cons before c rest
    rw [hcons] at hd
    exact (List.mem_append.1 hd).elim (fun hd => (hsmall d hd).small) ih

/-- In a text of small letters nothing changes. -/
theorem lowerAfter_of_isSmall {before s : List Char} (h : ∀ c ∈ s, isSmall c = true) :
    lowerAfter before s = s := by
  induction s generalizing before with
  | nil => rfl
  | cons c rest ih =>
    obtain ⟨hc, hrest⟩ := List.forall_mem_cons.1 h
    have hsigma : (c == 'Σ') = false := by
      refine beq_false_of_ne fun hsigma => ?_
      rw [hsigma] at hc
      exact absurd hc (by decide +kernel)
    rw [lowerAfter, hsigma, ih hrest, lowerChar_of_isSmall hc]
    rfl

/-- **Small letters have no others.** -/
theorem lowercase_lowercase (s : String) : lowercase (lowercase s) = lowercase s := by
  have hsmall : ∀ c ∈ lowerChars s.toList, isSmall c = true := fun _ => isSmall_of_mem_lowerAfter
  rw [lowercase, toList_lowercase, lowerChars, lowerAfter_of_isSmall hsmall, ← lowercase]

/-! ## Trimmed texts in small letters -/

theorem head?_lowerAfter {before s : List Char} (h : ∀ c ∈ s.head?, isBlank c = false) {d : Char}
    (hd : d ∈ (lowerAfter before s).head?) : isBlank d = false := by
  cases s with
  | nil => cases hd
  | cons c rest =>
    obtain ⟨small, hcons, hne, hsmall⟩ := lowerAfter_cons before c rest
    obtain ⟨first, others, rfl⟩ := List.exists_cons_of_ne_nil hne
    rw [hcons] at hd
    obtain rfl := Option.some.inj hd
    exact (hsmall first List.mem_cons_self).not_blank (h c rfl)

theorem lowerAfter_ne_nil (before : List Char) {s : List Char} (h : s ≠ []) :
    lowerAfter before s ≠ [] := by
  cases s with
  | nil => exact absurd rfl h
  | cons c rest =>
    obtain ⟨small, hcons, hne, -⟩ := lowerAfter_cons before c rest
    rw [hcons]
    exact List.append_ne_nil_of_left_ne_nil hne _

theorem getLast?_lowerAfter {before s : List Char} (h : ∀ c ∈ s.getLast?, isBlank c = false)
    {d : Char} (hd : d ∈ (lowerAfter before s).getLast?) : isBlank d = false := by
  induction s generalizing before with
  | nil => cases hd
  | cons c rest ih =>
    obtain ⟨small, hcons, -, hsmall⟩ := lowerAfter_cons before c rest
    rw [hcons] at hd
    by_cases hrest : rest = []
    · subst hrest
      rw [lowerAfter, List.append_nil] at hd
      exact (hsmall d (List.mem_of_mem_getLast? hd)).not_blank (h c rfl)
    · have hsome := List.getLast?_isSome.2 (lowerAfter_ne_nil (c :: before) hrest)
      rw [Option.mem_def, List.getLast?_append, Option.or_of_isSome hsome] at hd
      rw [List.getLast?_cons_of_ne_nil hrest] at h
      exact ih h hd

/-- **In small letters a trimmed text is trimmed.** -/
theorem trim_lowercase_trim (s : String) : trim (lowercase (trim s)) = lowercase (trim s) := by
  have htrimmed : IsTrimmed (trim s).toList := by
    rw [toList_trim]
    exact isTrimmed_trimChars s.toList
  have hlower : IsTrimmed (lowerChars (trim s).toList) :=
    ⟨fun _ => head?_lowerAfter htrimmed.head, fun _ => getLast?_lowerAfter htrimmed.last⟩
  rw [trim, toList_lowercase, hlower.trimChars_eq, ← lowercase]

theorem lowercase_ne_empty {s : String} (h : s ≠ "") : lowercase s ≠ "" := by
  intro hempty
  have hchars : lowerChars s.toList = [] := by
    rw [← toList_lowercase, hempty]
    rfl
  exact lowerAfter_ne_nil [] (mt String.toList_eq_nil_iff.1 h) hchars

/-!
## Small letters and plain letters

Names are brought into small letters of every script, but they are compared without regard to the
case of the 26 plain letters only.  The two agree on a name exactly if it has no capital letters but
plain ones.
-/

/-- Every capital letter of the text is one of the 26 plain ones. -/
def HasPlainCase (s : String) : Prop :=
  ∀ c ∈ s.toList, c.toNat < 128 ∨ isSmall c = true

instance (s : String) : Decidable (HasPlainCase s) :=
  List.decidableBAll _ s.toList

theorem toLower_of_not_plain {c : Char} (h : ¬c.toNat < 128) : c.toLower = c := by
  have hval : c.toNat = c.val.toNat := rfl
  refine dif_neg fun hcapital => h ?_
  have hle : c.val.toNat ≤ 90 := hcapital.2
  omega

theorem toLower_of_isSmall {c : Char} (h : isSmall c = true) : c.toLower = c := by
  by_cases hplain : c.toNat < 128
  · rw [toLower_eq_shifted hplain, shifted_of_isSmall h, Char.ofNat_toNat]
  · exact toLower_of_not_plain hplain

/-- A character that the comparison leaves small is plain or small. -/
theorem plain_or_isSmall {c : Char} (h : isSmall c.toLower = true) :
    c.toNat < 128 ∨ isSmall c = true := by
  by_cases hplain : c.toNat < 128
  · exact .inl hplain
  · rw [toLower_of_not_plain hplain] at h
    exact .inr h

theorem lowerChar_of_plain_or_isSmall {c : Char} (h : c.toNat < 128 ∨ isSmall c = true) :
    lowerChar c = [c.toLower] := by
  rcases h with hplain | hsmall
  · rw [lowerChar, if_pos hplain]
  · rw [lowerChar_of_isSmall hsmall, toLower_of_isSmall hsmall]

theorem lowerAfter_of_plain_or_isSmall {before s : List Char}
    (h : ∀ c ∈ s, c.toNat < 128 ∨ isSmall c = true) : lowerAfter before s = s.map Char.toLower := by
  induction s generalizing before with
  | nil => rfl
  | cons c rest ih =>
    obtain ⟨hc, hrest⟩ := List.forall_mem_cons.1 h
    have hsigma : (c == 'Σ') = false := by
      refine beq_false_of_ne ?_
      rintro rfl
      exact absurd hc (by decide +kernel)
    rw [lowerAfter, hsigma, ih hrest, lowerChar_of_plain_or_isSmall hc]
    rfl

theorem isSmall_of_mem_lowercase {s : String} {c : Char} (h : c ∈ (lowercase s).toList) :
    isSmall c = true := by
  rw [toList_lowercase] at h
  exact isSmall_of_mem_lowerAfter h

/-- On small letters the comparison is one of the texts themselves. -/
theorem lowercasePlain_lowercase (s : String) : lowercasePlain (lowercase s) = lowercase s := by
  have hsmall : ∀ c ∈ (lowercase s).toList, c.toLower = id c := fun _ hc =>
    toLower_of_isSmall (isSmall_of_mem_lowercase hc)
  have hsame : (lowercase s).toList.map Char.toLower = (lowercase s).toList :=
    (List.map_congr_left hsmall).trans (List.map_id _)
  rw [lowercasePlain, hsame, String.ofList_toList]

/-- **What is equal to small letters up to plain case has no capital letters but plain ones.** -/
theorem hasPlainCase_of_eqPlainCase_lowercase {s t : String}
    (h : eqPlainCase (lowercase s) t = true) : HasPlainCase t := by
  rw [eqPlainCase, beq_iff_eq, lowercasePlain_lowercase] at h
  intro c hc
  refine plain_or_isSmall (isSmall_of_mem_lowercase (s := s) ?_)
  rw [h, lowercasePlain, String.toList_ofList]
  exact List.mem_map_of_mem hc

/-- **A text is equal to itself in small letters exactly if it has no capital letters but plain
ones.** -/
theorem eqPlainCase_lowercase_iff {s : String} :
    eqPlainCase (lowercase s) s = true ↔ HasPlainCase s := by
  refine ⟨hasPlainCase_of_eqPlainCase_lowercase, fun h => ?_⟩
  rw [eqPlainCase, beq_iff_eq, lowercasePlain_lowercase, lowercase, lowerChars,
    lowerAfter_of_plain_or_isSmall h, ← lowercasePlain]

example : HasPlainCase "Reentrancy" ∧ HasPlainCase "naïve" ∧ ¬HasPlainCase "Über" := by
  decide +kernel

end Vigil.Text
