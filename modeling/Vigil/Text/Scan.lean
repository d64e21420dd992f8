/-!
# Scans

A scan reads a leading part of a text: it gives what it has read and what is left, or nothing if
the text does not begin as it should.  The scans here are those that several formats share: digits
in base sixteen and items with commas between them.
-/

namespace Vigil.Text

/-!
## Digits in base sixteen

Numbers and characters that are written in base sixteen.
-/

/-- The value of a digit in base sixteen. -/
def hexValue? (c : Char) : Option Nat :=
  if c.isDigit then some (c.toNat - 48)
  else if 'a' ≤ c && c ≤ 'f' then some (c.toNat - 87)
  else if 'A' ≤ c && c ≤ 'F' then some (c.toNat - 55)
  else none

/-- The number that digits in base sixteen denote; there must be at least one. -/
def hexNumber? (ds : List Char) : Option Nat :=
  if ds.isEmpty then none
  else ds.foldl (fun n d => do some ((← n) * 16 + (← hexValue? d))) (some 0)

/-- The character with a given number, if there is one. -/
def charOf? (n : Nat) : Option Char :=
  if h : n.isValidChar then some (Char.ofNatAux n h) else none

theorem toNat_of_charOf? {n : Nat} {c : Char} (h : charOf? n = some c) : c.toNat = n := by
  by_cases hv : n.isValidChar
  · have e : charOf? n = some (Char.ofNatAux n hv) := dif_pos hv
    exact Option.some.inj (e.symm.trans h) ▸ rfl
  · have e : charOf? n = none := dif_neg hv
    exact nomatch e.symm.trans h

/-! ## Readers of a leading part -/

/-- A reader of a leading part of a text. -/
abbrev Scan (α : Type) := List Char → Option (α × List Char)

/-- Read so many digits in base sixteen. -/
def fixedHex (n : Nat) : Scan Nat := fun s =>
  let ds := s.take n
  if ds.length = n then (hexNumber? ds).map fun v => (v, s.drop n) else none

/-- Put a character in front of what has been read. -/
def consTo (c : Char) (r : Option (List Char × List Char)) : Option (List Char × List Char) :=
  r.map fun (cs, rest) => (c :: cs, rest)

/-- Read items up to a closing character, which is read too.  There is a comma between two items,
and there may be one behind the last; `skip` passes over what may stand around items and commas.
The number bounds the items. -/
def itemsUpTo {α : Type} (skip : List Char → Option (List Char)) (item : Scan α) (closing : Char) :
    Nat → Scan (List α)
  | 0, _ => none
  | n + 1, s => do
    match ← skip s with
    | [] => none
    | c :: rest =>
      if c == closing then some ([], rest)
      else
        let (x, rest) ← item (c :: rest)
        match ← skip rest with
        | [] => none
        | d :: rest =>
          if d == closing then some ([x], rest)
          else if d == ',' then
            let (xs, rest) ← itemsUpTo skip item closing n rest
            some (x :: xs, rest)
          else none

theorem fixedHex_append {n v : Nat} {s rest : List Char} (h : fixedHex n s = some (v, rest)) :
    s.take n ++ rest = s := by
  unfold fixedHex at h
  simp only at h
  split at h
  · cases hv : hexNumber? (s.take n) with
    | none => simp [hv] at h
    | some w =>
      simp only [hv, Option.map_some, Option.some.injEq, Prod.mk.injEq] at h
      rw [← h.2, List.take_append_drop]
  · simp at h

/-!
## Parts of texts

`occursIn` looks for a text inside another; it is the decision of the relation `<:+:`.
-/

/-- Does a text occur in another? -/
def occursIn (part : List Char) : List Char → Bool
  | [] => part.isEmpty
  | c :: rest => part.isPrefixOf (c :: rest) || occursIn part rest

theorem occursIn_iff {part s : List Char} : occursIn part s = true ↔ part <:+: s := by
  induction s with
  | nil => simp [occursIn]
  | cons c rest ih =>
    simp only [occursIn, Bool.or_eq_true, List.isPrefixOf_iff_prefix, ih]
    constructor
    · rintro (h | h)
      · exact h.isInfix
      · exact h.trans (List.suffix_cons c rest).isInfix
    · rintro ⟨before, after, h⟩
      cases before with
      | nil => exact .inl ⟨after, by simpa using h⟩
      | cons b before =>
        simp only [List.cons_append, List.cons.injEq] at h
        exact .inr ⟨before, after, h.2⟩

end Vigil.Text
