import Mathlib.Data.List.TakeWhile
import Vigil.Json.Printer
import Vigil.Proofs.Json.Texts

/-!
# What is printed is read back

A value that is printed is read back from its text, whatever its texts hold: a quote, a backslash
or a control character is written as an escape, which is read as that character, and nothing that
stands inside a string can end it.

* `stringBody_escaped` -- the characters of a text are read back from a string;
* `IsNumeral` -- a text is that of a numeral; `isNumeral_parts` puts one together;
* `ReadAs` -- the text of a value is read as another one, with numbers of the reader's own;
* `readAs_list`, `readAs_object` -- **containers are read back if what is inside them is**;
* `parseTree_chars` -- then so is the whole text.
-/

namespace Vigil.Json

open Text (hexValue?)

/-! ## Strings -/

theorem hexValue?_hexDigit {n : Nat} (hn : n < 16) : hexValue? (hexDigit n) = some n := by
  revert n
  decide

/-- A control character is written with two digits in base sixteen. -/
theorem fourHex_control {n : Nat} (hn : n < 32) (r : List Char) :
    fourHex ('0' :: '0' :: hexDigit (n / 16) :: hexDigit (n % 16) :: r) = .ok (n, r) := by
  have hzero : hexValue? '0' = some 0 := rfl
  have hhigh : hexValue? (hexDigit (n / 16)) = some (n / 16) := hexValue?_hexDigit (by omega)
  have hlow : hexValue? (hexDigit (n % 16)) = some (n % 16) := hexValue?_hexDigit (by omega)
  have hvalue : ((0 * 16 + 0) * 16 + n / 16) * 16 + n % 16 = n := by omega
  simp only [fourHex, hzero, hhigh, hlow, hvalue]

theorem unicodeEscape_control {c : Char} (hc : c.toNat < 32) (r : List Char) :
    unicodeEscape ('0' :: '0' :: hexDigit (c.toNat / 16) :: hexDigit (c.toNat % 16) :: r) =
      .ok (c, r) := by
  refine bind_eq_ok_iff.2 ⟨_, fourHex_control hc r, ?_⟩
  have hpair : ¬(0xdc00 ≤ c.toNat && c.toNat ≤ 0xdfff) = true := by simp; omega
  have hsingle : (c.toNat < 0xd800 || 0xdbff < c.toNat) = true := by simp; omega
  simp only [hpair, hsingle, Char.ofNat_toNat]
  rfl

/-- A character stands for itself or is written as an escape that is read as the character. -/
theorem escapeChar_cases (c : Char) :
    (escapeChar c = [c] ∧ c ≠ '"' ∧ c ≠ '\\' ∧ ¬c.toNat < 32) ∨
      ∃ e, escapeChar c = '\\' :: e ∧ Reads never escape c e := by
  by_cases hspecial : c ∈ ['"', '\\', '\x08', '\t', '\n', '\x0c', '\r']
  · right
    simp only [List.mem_cons, List.not_mem_nil, or_false] at hspecial
    rcases hspecial with rfl | rfl | rfl | rfl | rfl | rfl | rfl
    all_goals exact ⟨[_], rfl, fun _ _ => rfl⟩
  simp only [List.mem_cons, List.not_mem_nil, or_false, not_or] at hspecial
  obtain ⟨hquote, hback, hb, ht, hn, hf, hr⟩ := hspecial
  by_cases hcontrol : c.toNat < 32
  · right
    refine ⟨['u', '0', '0', hexDigit (c.toNat / 16), hexDigit (c.toNat % 16)], ?_,
      fun r _ => unicodeEscape_control hcontrol r⟩
    simp [escapeChar, hquote, hback, hb, ht, hn, hf, hr, hcontrol]
  · left
    refine ⟨?_, hquote, hback, hcontrol⟩
    simp [escapeChar, hquote, hback, hb, ht, hn, hf, hr, hcontrol]

/-- **Escaped characters are read back up to the closing quote.** -/
theorem stringBody_escaped (cs : List Char) (r : List Char) {n : Nat}
    (hn : (cs.flatMap escapeChar).length < n) :
    stringBody escape n (cs.flatMap escapeChar ++ '"' :: r) = .ok (cs, r) := by
  induction cs generalizing n with
  | nil =>
    obtain ⟨n, rfl⟩ := Nat.exists_eq_add_of_lt hn
    rfl
  | cons c cs ih =>
    obtain ⟨n, rfl⟩ := Nat.exists_eq_add_of_lt (Nat.zero_lt_of_lt hn)
    rw [Nat.zero_add]
    rw [List.flatMap_cons, List.length_append] at hn
    rw [List.flatMap_cons, List.append_assoc]
    rcases escapeChar_cases c with ⟨heq, hquote, hback, hplain⟩ | ⟨e, heq, hread⟩
    · rw [heq] at hn ⊢
      rw [List.length_singleton] at hn
      rw [List.singleton_append, stringBody_cons hquote hback, if_neg hplain]
      exact map_eq_ok_iff.2 ⟨_, ih (by omega), rfl⟩
    · rw [heq] at hn ⊢
      rw [List.length_cons] at hn
      refine bind_eq_ok_iff.2 ⟨_, hread _ (stops_never _), ?_⟩
      exact bind_eq_ok_iff.2 ⟨_, ih (by omega), rfl⟩

variable {ν : Type} {read : Reading ν}

theorem isPiece_text (hesc : read.escape = escape) (s : String) :
    IsPiece read (.text s) (stringText s) := by
  intro d _ r _
  refine value_text_iff.2 ⟨s.toList.flatMap escapeChar ++ '"' :: r, ?_, ?_⟩
  · have htext : stringText s ++ r = '"' :: (s.toList.flatMap escapeChar ++ '"' :: r) := by
      simp [stringText]
    rw [htext]
    exact skipSpaces_cons (by decide) _
  · rw [hesc]
    refine bind_eq_ok_iff.2 ⟨_, stringBody_escaped s.toList r ?_, ?_⟩
    · rw [List.length_append]
      omega
    · exact congrArg (fun t => Except.ok (t, r)) String.ofList_toList

theorem isPiece_null : IsPiece read .null ['n', 'u', 'l', 'l'] := by
  intro d _ r _
  have hword : word ['u', 'l', 'l'] ('u' :: 'l' :: 'l' :: r) = .ok r := word_eq_ok_iff.2 rfl
  show value read d ('n' :: 'u' :: 'l' :: 'l' :: r) = _
  rw [value_of_skipSpaces (skipSpaces_cons (by decide) _)]
  exact congrArg (Except.map fun r => (Tree.null, r)) hword

/-! ## Numerals -/

theorem takeDigits_append {ds r : List Char} (hds : ∀ d ∈ ds, d.isDigit = true)
    (hr : Stops Char.isDigit r) : takeDigits (ds ++ r) = (ds, r) := by
  have hself : takeDigits ds = (ds, []) := by
    have htake : ds.takeWhile Char.isDigit = ds := List.takeWhile_eq_self_iff.2 hds
    have hdrop : ds.dropWhile Char.isDigit = [] := List.dropWhile_eq_nil_iff.2 hds
    rw [takeDigits, htake, hdrop]
  exact (append_of_takeDigits hself).2 r hr

theorem reads_fraction {ds : List Char} (hne : ds ≠ []) (hds : ∀ d ∈ ds, d.isDigit = true) :
    Reads isFractionChar fractionPart ds ('.' :: ds) := by
  intro r hr
  have hdigits := takeDigits_append hds (hr.mono fun _ => isFractionChar_of_isDigit)
  obtain ⟨d, ds, rfl⟩ := List.exists_cons_of_ne_nil hne
  rw [List.cons_append, fractionPart, hdigits]

/-- The sign of an exponent. -/
def exponentMark (down : Bool) : Char :=
  if down then '-' else '+'

theorem reads_exponent (down : Bool) {ds : List Char} (hne : ds ≠ [])
    (hds : ∀ d ∈ ds, d.isDigit = true) :
    Reads isNumeralChar exponentPart (some (down, ds)) ('e' :: exponentMark down :: ds) := by
  intro r hr
  have hdigits := takeDigits_append hds
    (hr.mono fun _ h => isNumeralChar_of_isFractionChar (isFractionChar_of_isDigit h))
  obtain ⟨d, ds, rfl⟩ := List.exists_cons_of_ne_nil hne
  have hsign (t : List Char) : exponentSign (exponentMark down :: t) = (down, t) := by
    cases down <;> rfl
  rw [List.cons_append, List.cons_append, exponentPart_cons, hsign, hdigits]
  rfl

/-- The text is that of the numeral: perhaps a minus sign, and what is read as the numeral. -/
def IsNumeral (n : Numeral) (c : List Char) : Prop :=
  ∃ p, c = (if n.negative then ['-'] else []) ++ p ∧
    Reads isNumeralChar (numeral n.negative) n p

/-- A numeral is written as its digits, its fraction and its exponent. -/
theorem isNumeral_parts (negative : Bool) {ds fraction c₁ c₂ : List Char}
    {exponent : Option (Bool × List Char)} (hne : ds ≠ []) (hwhole : isWholePart ds = true)
    (hds : ∀ d ∈ ds, d.isDigit = true) (hstops₁ : Stops Char.isDigit c₁)
    (hread₁ : Reads isFractionChar fractionPart fraction c₁) (hstops₂ : Stops isFractionChar c₂)
    (hread₂ : Reads isNumeralChar exponentPart exponent c₂) :
    IsNumeral ⟨negative, ds, fraction, exponent⟩
      ((if negative then ['-'] else []) ++ (ds ++ (c₁ ++ c₂))) := by
  refine ⟨_, rfl, fun r hr => ?_⟩
  have hafter : Stops isFractionChar (c₂ ++ r) :=
    hstops₂.append (hr.mono fun _ => isNumeralChar_of_isFractionChar)
  have hpoint : Stops Char.isDigit (c₁ ++ (c₂ ++ r)) :=
    hstops₁.append (hafter.mono fun _ => isFractionChar_of_isDigit)
  refine numeral_eq_ok_iff.2 ⟨ds, fraction, exponent, _, _, rfl, hne, hwhole, ?_, hread₁ _ hafter,
    hread₂ r hr⟩
  rw [List.append_assoc, List.append_assoc]
  exact takeDigits_append hds hpoint

/-- What is read as a numeral begins with a digit. -/
theorem exists_digit_of_reads {negative : Bool} {n : Numeral} {p : List Char}
    (h : Reads isNumeralChar (numeral negative) n p) : ∃ d p', p = d :: p' ∧ d.isDigit = true := by
  have hread := h [] fun _ hc => nomatch hc
  rw [List.append_nil] at hread
  obtain ⟨ds, _, _, s, _, -, hne, -, hdigits, -, -⟩ := numeral_eq_ok_iff.1 hread
  obtain ⟨d, ds, rfl⟩ := List.exists_cons_of_ne_nil hne
  obtain ⟨heq, -⟩ := append_of_takeDigits hdigits
  exact ⟨d, ds ++ s, heq, isDigit_of_takeDigits hdigits d List.mem_cons_self⟩

theorem valueFrom_digit {nested : Scan (Tree ν)} {c : Char} (hc : c.isDigit = true)
    (rest : List Char) :
    valueFrom read nested c rest = signedNumber read false (c :: rest) := by
  have hne (d : Char) (hd : d.isDigit = false) : (c == d) = false := by
    refine beq_false_of_ne ?_
    rintro rfl
    rw [hc] at hd
    cases hd
  simp only [valueFrom, hne 'n' (by decide), hne 't' (by decide), hne 'f' (by decide),
    hne '-' (by decide), hc, Bool.false_eq_true, if_false, if_true]

theorem isPiece_number {n : Numeral} {c : List Char} {x : ν} (h : IsNumeral n c)
    (hx : read.number n = .ok x) : IsPiece read (.number x) c := by
  obtain ⟨p, rfl, hread⟩ := h
  have hnumber (r : List Char) (hr : Stops isNumeralChar r) :
      signedNumber read n.negative (p ++ r) = .ok (.number x, r) := by
    refine bind_eq_ok_iff.2 ⟨_, hread r hr, ?_⟩
    dsimp only
    rw [hx]
  intro d _ r hr
  cases hnegative : n.negative with
  | true =>
    rw [hnegative] at hnumber
    rw [if_pos rfl, List.singleton_append, List.cons_append,
      value_of_skipSpaces (skipSpaces_cons (by decide) _)]
    exact hnumber r hr
  | false =>
    rw [hnegative] at hnumber
    obtain ⟨c, p, rfl, hdigit⟩ := exists_digit_of_reads hread
    have hspace : isSpace c = false := by
      refine Bool.eq_false_iff.2 fun hspace => ?_
      simp only [isSpace, Bool.or_eq_true, beq_iff_eq] at hspace
      rcases hspace with ((rfl | rfl) | rfl) | rfl <;> exact absurd hdigit (by decide)
    rw [if_neg Bool.false_ne_true, List.nil_append, List.cons_append,
      value_of_skipSpaces (skipSpaces_cons hspace _), valueFrom_digit hdigit]
    exact hnumber r hr

/-! ## Values -/

/-- The text of the first value is read as the second one. -/
def ReadAs (read : Reading ν) (t : Json) (v : Tree ν) : Prop :=
  IsPiece read v (chars t)

theorem readAs_null : ReadAs read .null .null :=
  isPiece_null

theorem readAs_text (hesc : read.escape = escape) (s : String) :
    ReadAs read (.text s) (.text s) :=
  isPiece_text hesc s

theorem joinWith_eq_joined (es : List (List Char)) : joinWith [','] es = joined es := by
  induction es with
  | nil => rfl
  | cons e es ih =>
    cases es with
    | nil => simp [joinWith, joined]
    | cons e' es =>
      rw [joinWith, ih, joined, joined, List.flatMap_cons, List.append_assoc]
      · rfl
      · exact List.cons_ne_nil _ _

theorem IsText.of_piece {α : Type} {P : α → List Char → Prop} {x : α} {c : List Char}
    (h : P x c) : IsText P x c :=
  ⟨c, [], (List.append_nil c).symm, isGap_nil, h⟩

/-- Texts of the values with commas between them stand inside a container. -/
theorem isBody_joinWith {α : Type} {P : α → List Char → Prop} {xs : List α}
    {es : List (List Char)} (h : List.Forall₂ P xs es) : IsBody P xs (joinWith [','] es) := by
  cases h with
  | nil => exact .inl ⟨rfl, isGap_nil⟩
  | @cons x e xs es hx hxs =>
    refine .inr ⟨List.cons_ne_nil _ _, e :: es, ?_, joinWith_eq_joined _⟩
    exact .cons (.of_piece hx) (hxs.imp fun _ _ => IsText.of_piece)

/-- **A list is read back if its items are.** -/
theorem readAs_list {items : List Json} {vs : List (Tree ν)}
    (h : List.Forall₂ (ReadAs read) items vs) : ReadAs read (.list items) (.list vs) := by
  have hitems : List.Forall₂ (IsPiece read) vs (itemChars items) := by
    induction h with
    | nil => exact .nil
    | cons ht _ ih => exact .cons ht ih
  exact isPiece_list (isBody_joinWith hitems)

/-- **An object is read back if the values of its members are.** -/
theorem readAs_object (hesc : read.escape = escape) {ms : List (String × Json)}
    {vs : List (String × Tree ν)}
    (h : List.Forall₂ (fun m v => m.1 = v.1 ∧ ReadAs read m.2 v.2) ms vs) :
    ReadAs read (.object ms) (.object vs) := by
  have hmembers : List.Forall₂ (IsMember read) vs (memberChars ms) := by
    induction h with
    | nil => exact .nil
    | @cons m v ms vs hm _ ih =>
      obtain ⟨hkey, ht⟩ := hm
      refine .cons ⟨stringText m.1, chars m.2, List.append_assoc .., ?_, ht⟩ ih
      rw [hkey]
      exact .of_piece (isPiece_text hesc v.1)
  exact isPiece_object (isBody_joinWith hmembers)

/-- **A whole text is read back.** -/
theorem parseTree_chars (hesc : read.escape = escape) {t : Json} {v : Tree ν}
    (h : ReadAs read t v) (hdepth : v.depth ≤ depthLimit) :
    parseTree read (print t).toList = .ok v := by
  have hframed : Framed never read.escape := hesc ▸ escape_framed
  rw [print, String.toList_ofList]
  exact (parseTree_eq_ok_iff hframed).2 ⟨hdepth, .of_piece h⟩

end Vigil.Json
