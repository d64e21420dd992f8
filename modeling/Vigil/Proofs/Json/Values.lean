import Mathlib.Data.String.Basic
import Vigil.Finding.Codec
import Vigil.Proofs.Decimal.ReadBack

/-!
# Values that are read back

The values that an object is put together from are read from their texts as they were written: whole
numbers of 32 bits, texts, lists of texts, and what may be null.  A finite double is read as some
number.  Where the keys of an object ascend already, nothing is left to tidy.

* `readAs_word32`, `readAs_texts`, `readAs_orNull_text` -- these are read as they were written;
* `readAs_float` -- **a finite double is read as a number**;
* `sortMembers_of_ascending` -- **members whose keys ascend are left as they are**.
-/

namespace Vigil.Json

open Decimal (digits digits_ne_nil isDigit_of_mem_digits isWholePart_digits value_digits
  exists_numeral_of_isFinite)

/-! ## Values that are read back -/

theorem isNumeral_digits (n : Nat) : IsNumeral ⟨false, digits n, [], none⟩ (digits n) := by
  have hend {p : Char → Bool} : Stops p [] := fun _ hc => nomatch hc
  have hfraction : Reads isFractionChar fractionPart [] [] := fun _ => fractionPart_of_stops
  have hexponent : Reads isNumeralChar exponentPart none [] := fun _ => exponentPart_of_stops
  have hnumeral := isNumeral_parts false (digits_ne_nil n) (isWholePart_digits n)
    (fun _ => isDigit_of_mem_digits) hend hfraction hend hexponent
  rwa [List.append_nil, List.append_nil] at hnumeral

theorem readAs_word32 (n : UInt32) : ReadAs Reading.exact (word32 n) (word32 n) := by
  have hword : n.toNat ≤ maxWord := n.toNat_lt.le.trans (by decide)
  have hpositive : ¬(n.toNat : Int) < 0 := not_lt.2 (Int.natCast_nonneg _)
  have htext : chars (word32 n) = digits n.toNat := by
    rw [word32, nat, chars, numberText, intText, if_neg hpositive, Int.natAbs_natCast]
  rw [ReadAs, htext]
  exact isPiece_number (isNumeral_digits _) (value_digits hword)

/-- **A finite double is read as a number.** -/
theorem readAs_float {x : Float} (hx : x.isFinite = true) :
    ∃ y, ReadAs Reading.exact (float x) (.number y) := by
  obtain ⟨c, n, htext, hnumeral, y, hy⟩ := exists_numeral_of_isFinite hx
  refine ⟨y, ?_⟩
  rw [float, if_pos hx, ReadAs, chars, numberText, htext]
  exact isPiece_number hnumeral hy

theorem readAs_texts (l : List String) : ReadAs Reading.exact (texts l) (texts l) :=
  readAs_list (List.forall₂_same.2 fun t ht => by
    obtain ⟨s, -, rfl⟩ := List.mem_map.1 ht
    exact readAs_text rfl s)

theorem readAs_orNull_text (s : Option String) :
    ReadAs Reading.exact (orNull (s.map Tree.text)) (orNull (s.map Tree.text)) := by
  cases s with
  | none => exact readAs_null
  | some s => exact readAs_text rfl s

theorem depth_texts (l : List String) : (texts l : Json).depth ≤ 1 := by
  refine Nat.succ_le_succ (itemsDepth_le_iff.2 fun t ht => ?_)
  obtain ⟨s, -, rfl⟩ := List.mem_map.1 ht
  exact Nat.le_refl 0

/-! ## Tidy values -/

section

variable {α ν : Type}

/-- A member with the greatest key is put at the end. -/
theorem insertMember_of_above {key : String} (value : α) {l : List (String × α)}
    (h : ∀ m ∈ l, m.1 < key) : insertMember key value l = l ++ [(key, value)] := by
  induction l with
  | nil => rfl
  | cons m l ih =>
    obtain ⟨hlt, hl⟩ := List.forall_mem_cons.1 h
    rw [insertMember, if_neg hlt.ne, if_neg hlt.not_gt, ih hl]
    rfl

/-- **Members whose keys ascend are left as they are.** -/
theorem sortMembers_of_ascending {l : List (String × α)}
    (h : (l.map Prod.fst).Pairwise (· < ·)) : sortMembers l = l := by
  suffices hfold : ∀ (l acc : List (String × α)), ((acc ++ l).map Prod.fst).Pairwise (· < ·) →
      l.foldl (fun acc m => insertMember m.1 m.2 acc) acc = acc ++ l from hfold l [] h
  intro l
  induction l with
  | nil => exact fun acc _ => (List.append_nil acc).symm
  | cons m l ih =>
    intro acc h
    have habove : ∀ m' ∈ acc, m'.1 < m.1 := by
      rw [List.map_append, List.pairwise_append] at h
      exact fun m' hm' => h.2.2 _ (List.mem_map_of_mem hm') _ List.mem_cons_self
    rw [List.append_cons acc m l] at h ⊢
    rw [List.foldl_cons, insertMember_of_above m.2 habove]
    exact ih _ h

theorem tidyItems_of_tidy {items : List (Tree ν)} (h : ∀ t ∈ items, t.tidy = t) :
    tidyItems items = items := by
  induction items with
  | nil => rfl
  | cons t items ih =>
    obtain ⟨ht, hitems⟩ := List.forall_mem_cons.1 h
    rw [tidyItems, ht, ih hitems]

theorem tidyMembers_of_tidy {members : List (String × Tree ν)}
    (h : ∀ m ∈ members, m.2.tidy = m.2) : tidyMembers members = members := by
  induction members with
  | nil => rfl
  | cons m members ih =>
    obtain ⟨hm, hmembers⟩ := List.forall_mem_cons.1 h
    rw [tidyMembers, hm, ih hmembers]

theorem tidy_texts (l : List String) : (texts l : Json).tidy = texts l := by
  refine congrArg Tree.list (tidyItems_of_tidy fun t ht => ?_)
  obtain ⟨s, -, rfl⟩ := List.mem_map.1 ht
  rfl

theorem tidy_orNull_text (s : Option String) :
    (orNull (s.map Tree.text) : Json).tidy = orNull (s.map Tree.text) := by
  cases s <;> rfl

end

end Vigil.Json
