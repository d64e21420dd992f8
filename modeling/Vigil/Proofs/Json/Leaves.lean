import Vigil.Json.Parser

/-!
# What a reader takes off a text

A reader of JSON looks at the front of a text and returns what is left.  What it has taken is a
piece of the text that it would take again in any other place: before any other text, if it is the
piece of a string; before any text that does not go on like a numeral, if it may be one.

* `Reads`, `Framed` -- a piece is read as a value wherever it stands; all that a reader takes are
  such pieces;
* `word_eq_ok_iff`, `numeral_framed`, `escape_framed`, `stringRest_framed` -- so it is for words,
  numerals, escapes and strings.
-/

namespace Vigil.Json

variable {α β : Type}

/-! ## Pieces of a text -/

/-- A text does not go on with such a character. -/
def Stops (more : Char → Bool) (s : List Char) : Prop :=
  ∀ c ∈ s.head?, more c = false

theorem Stops.append {more : Char → Bool} {s t : List Char} (hs : Stops more s)
    (ht : Stops more t) : Stops more (s ++ t) := by
  intro c hc
  rw [Option.mem_def, List.head?_append, Option.or_eq_some_iff] at hc
  rcases hc with hc | ⟨-, hc⟩
  · exact hs c hc
  · exact ht c hc

theorem Stops.mono {more fewer : Char → Bool} {s : List Char} (h : Stops more s)
    (himp : ∀ c, fewer c = true → more c = true) : Stops fewer s := by
  intro c hc
  refine Bool.eq_false_iff.2 fun hfewer => ?_
  have hmore := h c hc
  rw [himp c hfewer] at hmore
  cases hmore

/-- Nothing can follow that would belong to the piece. -/
def never (_ : Char) : Bool :=
  false

theorem stops_never (s : List Char) : Stops never s :=
  fun _ _ => rfl

/-- The piece `c` is read as `x`, whatever text follows that does not go on with it. -/
def Reads (more : Char → Bool) (scan : Scan α) (x : α) (c : List Char) : Prop :=
  ∀ r, Stops more r → scan (c ++ r) = .ok (x, r)

/-- What is read is a piece of the text that is read so in any other place. -/
def Framed (more : Char → Bool) (scan : Scan α) : Prop :=
  ∀ s x r, scan s = .ok (x, r) → ∃ c, s = c ++ r ∧ Reads more scan x c

theorem bind_eq_ok_iff {ε : Type} {x : Except ε α} {f : α → Except ε β} {y : β} :
    (x >>= f) = .ok y ↔ ∃ a, x = .ok a ∧ f a = .ok y := by
  cases x <;> simp [bind, Except.bind]

theorem map_eq_ok_iff {ε : Type} {x : Except ε α} {f : α → β} {y : β} :
    x.map f = .ok y ↔ ∃ a, x = .ok a ∧ f a = y := by
  cases x <;> simp [Except.map]

/-! ## Spaces -/

/-- Nothing but spaces. -/
def IsGap (g : List Char) : Prop :=
  ∀ c ∈ g, isSpace c = true

instance (g : List Char) : Decidable (IsGap g) :=
  List.decidableBAll _ g

theorem isGap_nil : IsGap [] :=
  fun _ hc => absurd hc List.not_mem_nil

theorem exists_gap (s : List Char) : ∃ g, s = g ++ skipSpaces s ∧ IsGap g :=
  ⟨s.takeWhile isSpace, List.takeWhile_append_dropWhile.symm,
    fun c hc => List.all_eq_true.1 List.all_takeWhile c hc⟩

theorem skipSpaces_append {g : List Char} (hg : IsGap g) (s : List Char) :
    skipSpaces (g ++ s) = skipSpaces s :=
  List.dropWhile_append_of_pos hg

theorem skipSpaces_cons {c : Char} (hc : isSpace c = false) (s : List Char) :
    skipSpaces (c :: s) = c :: s :=
  List.dropWhile_cons_of_neg (by simp [hc])

theorem skipSpaces_gap {g : List Char} (hg : IsGap g) : skipSpaces g = [] := by
  have h := skipSpaces_append hg []
  rwa [List.append_nil] at h

@[simp]
theorem skipSpaces_skipSpaces (s : List Char) : skipSpaces (skipSpaces s) = skipSpaces s := by
  obtain ⟨g, hs, hg⟩ := exists_gap s
  have h := skipSpaces_append hg (skipSpaces s)
  rw [← hs] at h
  exact h.symm

/-! ## Words -/

theorem word_eq_ok_iff {w s r : List Char} : word w s = .ok r ↔ s = w ++ r := by
  induction w generalizing s with
  | nil =>
    rw [word, List.nil_append]
    exact ⟨fun h => Except.ok.inj h, fun h => congrArg Except.ok h⟩
  | cons c w ih =>
    cases s with
    | nil =>
      rw [word, failHere]
      simp
    | cons d s =>
      rw [word]
      by_cases hd : d = c
      · rw [hd, beq_self_eq_true, if_pos rfl, ih, List.cons_append, List.cons_inj_right]
      · rw [beq_false_of_ne hd, failNext]
        simp [hd]

/-! ## Numerals -/

/-- A character that may follow in the fraction of a numeral. -/
def isFractionChar (c : Char) : Bool :=
  c.isDigit || c == '.'

/-- A character with which a numeral may go on. -/
def isNumeralChar (c : Char) : Bool :=
  isFractionChar c || c == 'e' || c == 'E'

theorem isFractionChar_of_isDigit {c : Char} (h : c.isDigit = true) : isFractionChar c = true := by
  simp [isFractionChar, h]

theorem isNumeralChar_of_isFractionChar {c : Char} (h : isFractionChar c = true) :
    isNumeralChar c = true := by
  simp [isNumeralChar, h]

theorem append_of_takeDigits {s ds r : List Char} (h : takeDigits s = (ds, r)) :
    s = ds ++ r ∧ ∀ r', Stops Char.isDigit r' → takeDigits (ds ++ r') = (ds, r') := by
  obtain ⟨rfl, rfl⟩ := Prod.mk.inj h
  refine ⟨List.takeWhile_append_dropWhile.symm, fun r' hr' => ?_⟩
  have hdigits : ∀ c ∈ s.takeWhile Char.isDigit, c.isDigit = true :=
    List.all_eq_true.1 List.all_takeWhile
  rw [takeDigits, List.takeWhile_append_of_pos hdigits, List.dropWhile_append_of_pos hdigits]
  cases r' with
  | nil => simp
  | cons c r' =>
    have hc : c.isDigit = false := hr' c rfl
    simp [hc]

theorem fractionPart_of_stops {s : List Char} (h : Stops isFractionChar s) :
    fractionPart s = .ok ([], s) := by
  unfold fractionPart
  split
  · exact absurd (h '.' rfl) (by decide)
  · rfl

/-- A fraction, if one is written, is a point and digits. -/
theorem fractionPart_framed {s ds r : List Char} (h : fractionPart s = .ok (ds, r)) :
    ∃ c, s = c ++ r ∧ Stops Char.isDigit c ∧ Reads isFractionChar fractionPart ds c := by
  unfold fractionPart at h
  split at h
  · rename_i rest
    rcases hdigits : takeDigits rest with ⟨_ | ⟨d, ds'⟩, left⟩ <;> rw [hdigits] at h
    · cases left <;> cases h
    · cases h
      obtain ⟨rfl, hread⟩ := append_of_takeDigits hdigits
      refine ⟨'.' :: d :: ds', rfl, fun c hc => ?_, fun r' hr' => ?_⟩
      · obtain rfl := Option.some.inj hc
        rfl
      · have hr := hread r' (hr'.mono fun c => isFractionChar_of_isDigit)
        rw [List.cons_append, fractionPart, hr]
  · cases h
    exact ⟨[], rfl, fun c hc => absurd hc (by simp), fun r' => fractionPart_of_stops⟩

theorem isDigit_of_takeDigits {s ds r : List Char} (h : takeDigits s = (ds, r)) :
    ∀ d ∈ ds, d.isDigit = true := by
  obtain ⟨rfl, -⟩ := Prod.mk.inj h
  exact List.all_eq_true.1 List.all_takeWhile

/-- Whether an exponent has a minus sign, and what follows its sign. -/
def exponentSign : List Char → Bool × List Char
  | '+' :: r => (false, r)
  | '-' :: r => (true, r)
  | r => (false, r)

theorem exponentPart_cons (c : Char) (s : List Char) :
    exponentPart (c :: s) =
      if c == 'e' || c == 'E' then
        match takeDigits (exponentSign s).2 with
        | ([], []) => failHere .endOfValue []
        | ([], rest) => failNext .invalidNumber rest
        | (ds, rest) => .ok (some ((exponentSign s).1, ds), rest)
      else .ok (none, c :: s) := rfl

theorem exponentSign_of_isDigit {d : Char} (hd : d.isDigit = true) (s : List Char) :
    exponentSign (d :: s) = (false, d :: s) := by
  unfold exponentSign
  split
  · rename_i heq
    exact absurd ((List.cons.inj heq).1 ▸ hd) (by decide)
  · rename_i heq
    exact absurd ((List.cons.inj heq).1 ▸ hd) (by decide)
  · rfl

/-- The sign, if one is written, is read so before any digit. -/
theorem exponentSign_framed (s : List Char) :
    ∃ sign, s = sign ++ (exponentSign s).2 ∧ ∀ d r, d.isDigit = true →
      exponentSign (sign ++ d :: r) = ((exponentSign s).1, d :: r) := by
  fun_cases exponentSign s
  · exact ⟨['+'], rfl, fun _ _ _ => rfl⟩
  · exact ⟨['-'], rfl, fun _ _ _ => rfl⟩
  · exact ⟨[], rfl, fun d r hd => exponentSign_of_isDigit hd r⟩

theorem exponentPart_of_stops {s : List Char} (h : Stops isNumeralChar s) :
    exponentPart s = .ok (none, s) := by
  cases s with
  | nil => rfl
  | cons c s =>
    have hc : isNumeralChar c = false := h c rfl
    simp only [isNumeralChar, Bool.or_assoc, Bool.or_eq_false_iff] at hc
    rw [exponentPart_cons, hc.2.1, hc.2.2]
    rfl

/-- An exponent, if one is written, is its letter, perhaps a sign, and digits. -/
theorem exponentPart_framed {s r : List Char} {e : Option (Bool × List Char)}
    (h : exponentPart s = .ok (e, r)) :
    ∃ c, s = c ++ r ∧ Stops isFractionChar c ∧ Reads isNumeralChar exponentPart e c := by
  have hnone (s : List Char) : ∃ c, s = c ++ s ∧ Stops isFractionChar c ∧
      Reads isNumeralChar exponentPart none c :=
    ⟨[], rfl, fun _ hc => absurd hc (by simp), fun _ => exponentPart_of_stops⟩
  cases s with
  | nil =>
    cases h
    exact hnone []
  | cons letter s =>
    rw [exponentPart_cons] at h
    split at h
    · rename_i hletter
      rcases hdigits : takeDigits (exponentSign s).2 with ⟨_ | ⟨d, ds⟩, left⟩ <;> rw [hdigits] at h
      · cases left <;> cases h
      · cases h
        obtain ⟨sign, hs, hsign⟩ := exponentSign_framed s
        obtain ⟨hleft, hread⟩ := append_of_takeDigits hdigits
        refine ⟨letter :: sign ++ d :: ds, ?_, fun c hc => ?_, fun r' hr' => ?_⟩
        · rw [List.append_assoc, ← hleft, List.cons_append, ← hs]
        · obtain rfl := Option.some.inj hc
          rw [Bool.or_eq_true, beq_iff_eq, beq_iff_eq] at hletter
          rcases hletter with rfl | rfl <;> rfl
        · have hd : d.isDigit = true := isDigit_of_takeDigits hdigits d List.mem_cons_self
          have htail : letter :: sign ++ d :: ds ++ r' = letter :: (sign ++ d :: (ds ++ r')) := by
            simp
          have hr := hread r' (hr'.mono fun c hc =>
            isNumeralChar_of_isFractionChar (isFractionChar_of_isDigit hc))
          rw [List.cons_append] at hr
          rw [htail, exponentPart_cons, if_pos hletter, hsign d (ds ++ r') hd, hr]
    · cases h
      exact hnone _

/-- The digits in front of the point are one digit, or do not begin with a zero. -/
def isWholePart (ds : List Char) : Bool :=
  ds.length == 1 || ds.head? != some '0'

/-- A numeral is its digits, its fraction and its exponent. -/
theorem numeral_eq_ok_iff {negative : Bool} {s r : List Char} {n : Numeral} :
    numeral negative s = .ok (n, r) ↔
      ∃ ds fraction exponent s₁ s₂, n = ⟨negative, ds, fraction, exponent⟩ ∧ ds ≠ [] ∧
        isWholePart ds = true ∧ takeDigits s = (ds, s₁) ∧ fractionPart s₁ = .ok (fraction, s₂) ∧
        exponentPart s₂ = .ok (exponent, r) := by
  unfold numeral
  rcases hdigits : takeDigits s with ⟨_ | ⟨d, ds⟩, s₁⟩
  · constructor
    · intro h
      cases s₁ with
      | nil => cases h
      | cons c s₁ => cases h
    · rintro ⟨ds, _, _, _, _, -, hne, -, hds, -⟩
      exact absurd (Prod.mk.inj hds).1.symm hne
  · constructor
    · intro h
      change (if isWholePart (d :: ds) = true then _ else _) = _ at h
      split at h
      · rename_i hwhole
        obtain ⟨⟨fraction, s₂⟩, hfraction, hrest⟩ := bind_eq_ok_iff.1 h
        obtain ⟨⟨exponent, s₃⟩, hexponent, heq⟩ := bind_eq_ok_iff.1 hrest
        cases heq
        exact ⟨_, fraction, exponent, s₁, s₂, rfl, List.cons_ne_nil d ds, hwhole, rfl, hfraction,
          hexponent⟩
      · cases h
    · rintro ⟨ds', fraction, exponent, s₁', s₂, rfl, -, hwhole, heq, hfraction, hexponent⟩
      obtain ⟨rfl, rfl⟩ := Prod.mk.inj heq
      refine (if_pos hwhole).trans (bind_eq_ok_iff.2 ⟨_, hfraction, ?_⟩)
      exact bind_eq_ok_iff.2 ⟨_, hexponent, rfl⟩

theorem numeral_framed (negative : Bool) : ∀ s n r, numeral negative s = .ok (n, r) →
    ∃ c, s = c ++ r ∧ c ≠ [] ∧ Reads isNumeralChar (numeral negative) n c := by
  intro s n r h
  obtain ⟨ds, fraction, exponent, s₁, s₂, rfl, hne, hwhole, hdigits, hfraction, hexponent⟩ :=
    numeral_eq_ok_iff.1 h
  obtain ⟨rfl, hds⟩ := append_of_takeDigits hdigits
  obtain ⟨c₁, rfl, hstops₁, hread₁⟩ := fractionPart_framed hfraction
  obtain ⟨c₂, rfl, hstops₂, hread₂⟩ := exponentPart_framed hexponent
  refine ⟨ds ++ (c₁ ++ c₂), by simp, by simp [hne], fun r' hr' => ?_⟩
  -- Each part ends where the next begins, also before the new text.
  have hafter : Stops isFractionChar (c₂ ++ r') :=
    hstops₂.append (hr'.mono fun c => isNumeralChar_of_isFractionChar)
  have hpoint : Stops Char.isDigit (c₁ ++ (c₂ ++ r')) :=
    hstops₁.append (hafter.mono fun c => isFractionChar_of_isDigit)
  refine numeral_eq_ok_iff.2 ⟨ds, fraction, exponent, c₁ ++ (c₂ ++ r'), c₂ ++ r', rfl, hne, hwhole,
    ?_, hread₁ _ hafter, hread₂ r' hr'⟩
  rw [List.append_assoc, List.append_assoc]
  exact hds _ hpoint

/-! ## Strings -/

theorem fourHex_framed : Framed never fourHex := by
  intro s n r h
  unfold fourHex at h
  split at h
  · rename_i a b c d rest
    split at h
    · rename_i ha hb hc hd
      cases h
      refine ⟨[a, b, c, d], rfl, fun r' _ => ?_⟩
      simp only [List.cons_append, List.nil_append, fourHex, ha, hb, hc, hd]
    · cases h
  · split at h <;> cases h

/-- An escape with four digits is one character, or the first half of a pair with its second. -/
theorem unicodeEscape_framed : Framed never unicodeEscape := by
  intro s c r h
  obtain ⟨⟨n, s₁⟩, hn, hrest⟩ := bind_eq_ok_iff.1 h
  obtain ⟨p₁, rfl, hread₁⟩ := fourHex_framed s n s₁ hn
  clear h
  dsimp only at hrest
  split at hrest
  · cases hrest
  · rename_i hsecond
    split at hrest
    · rename_i hsingle
      cases hrest
      refine ⟨p₁, rfl, fun r' _ => bind_eq_ok_iff.2 ⟨_, hread₁ r' (stops_never r'), ?_⟩⟩
      exact (if_neg hsecond).trans (if_pos hsingle)
    · rename_i hpair
      split at hrest
      · cases hrest
      · cases hrest
      · rename_i s₂
        obtain ⟨⟨m, s₃⟩, hm, hchar⟩ := bind_eq_ok_iff.1 hrest
        obtain ⟨p₂, rfl, hread₂⟩ := fourHex_framed s₂ m s₃ hm
        clear hrest
        dsimp only at hchar
        split at hchar
        · cases hchar
        · rename_i hlow
          obtain ⟨rfl, rfl⟩ := Prod.mk.inj (Except.ok.inj hchar)
          refine ⟨p₁ ++ '\\' :: 'u' :: p₂, by simp, fun r' _ => ?_⟩
          rw [List.append_assoc]
          refine bind_eq_ok_iff.2 ⟨_, hread₁ _ (stops_never _), ?_⟩
          refine (if_neg hsecond).trans ((if_neg hpair).trans ?_)
          exact bind_eq_ok_iff.2 ⟨_, hread₂ r' (stops_never r'), if_neg hlow⟩
      · cases hrest
      · cases hrest

/-- An escape is a letter, or a letter and what stands for a code point. -/
theorem escape_framed : Framed never escape := by
  intro s c r h
  unfold escape at h
  split at h
  case h_10 rest =>
    obtain ⟨p, rfl, hread⟩ := unicodeEscape_framed rest c r h
    exact ⟨'u' :: p, rfl, hread⟩
  all_goals cases h
  all_goals exact ⟨[_], rfl, fun _ _ => rfl⟩

variable {esc : Scan Char}

theorem stringBody_cons {c : Char} (hquote : c ≠ '"') (hback : c ≠ '\\') (n : Nat)
    (s : List Char) :
    stringBody esc (n + 1) (c :: s) =
      if c.toNat < 32 then failNext .controlCharacter (c :: s)
      else (stringBody esc n s).map fun (cs, rest) => (c :: cs, rest) := by
  rw [stringBody]
  · cases stringBody esc n s <;> rfl
  · exact hquote
  · exact hback

/-- The characters of a string with its quote are read so with any number of steps that is not less
than their own. -/
theorem stringBody_framed (hesc : Framed never esc) {n : Nat} {s cs r : List Char}
    (h : stringBody esc n s = .ok (cs, r)) :
    ∃ c, s = c ++ r ∧ ∀ m r', c.length ≤ m → stringBody esc m (c ++ r') = .ok (cs, r') := by
  induction n generalizing s cs with
  | zero => cases h
  | succ n ih =>
    cases s with
    | nil => cases h
    | cons d s =>
      by_cases hquote : d = '"'
      · subst hquote
        cases h
        refine ⟨['"'], rfl, fun m r' hm => ?_⟩
        obtain ⟨m, rfl⟩ := Nat.exists_eq_add_of_le' hm
        rfl
      by_cases hback : d = '\\'
      · subst hback
        obtain ⟨⟨e, s₁⟩, he, hrest⟩ := bind_eq_ok_iff.1 h
        obtain ⟨⟨es, s₂⟩, hes, hend⟩ := bind_eq_ok_iff.1 hrest
        cases hend
        obtain ⟨p, rfl, hread⟩ := hesc s e s₁ he
        obtain ⟨c, rfl, hbody⟩ := ih hes
        refine ⟨'\\' :: (p ++ c), by simp, fun m r' hm => ?_⟩
        obtain ⟨m, rfl⟩ := Nat.exists_eq_add_of_le' (Nat.lt_of_lt_of_le (Nat.succ_pos _) hm)
        have hm' : c.length ≤ m := by
          simp only [List.length_cons, List.length_append] at hm
          omega
        rw [List.cons_append, List.append_assoc]
        refine bind_eq_ok_iff.2 ⟨_, hread _ (stops_never _), ?_⟩
        exact bind_eq_ok_iff.2 ⟨_, hbody m r' hm', rfl⟩
      rw [stringBody_cons hquote hback] at h
      split at h
      · cases h
      · rename_i hplain
        obtain ⟨⟨es, s₂⟩, hes, hend⟩ := map_eq_ok_iff.1 h
        cases hend
        obtain ⟨c, rfl, hbody⟩ := ih hes
        refine ⟨d :: c, rfl, fun m r' hm => ?_⟩
        obtain ⟨m, rfl⟩ := Nat.exists_eq_add_of_le' (Nat.lt_of_lt_of_le (Nat.succ_pos _) hm)
        rw [List.cons_append, stringBody_cons hquote hback, if_neg hplain]
        exact map_eq_ok_iff.2 ⟨_, hbody m r' (Nat.le_of_succ_le_succ hm), rfl⟩

theorem stringRest_framed (hesc : Framed never esc) : Framed never (stringRest esc) := by
  intro s x r h
  obtain ⟨⟨cs, s₁⟩, hcs, hend⟩ := bind_eq_ok_iff.1 h
  cases hend
  obtain ⟨c, rfl, hbody⟩ := stringBody_framed hesc hcs
  refine ⟨c, rfl, fun r' _ => bind_eq_ok_iff.2 ⟨_, hbody _ r' ?_, rfl⟩⟩
  rw [List.length_append]
  omega

end Vigil.Json
