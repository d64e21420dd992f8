import Vigil.Proofs.Double
import Vigil.Proofs.Normalize.Identity

/-!
# Which records are accepted

A record is checked field by field, and the first field that fails decides the reason.  No check
depends on what another field holds, so whether a record is accepted can be said at once:

* `isOk_one_iff` -- **a record is accepted exactly if it is acceptable** (`IsAcceptable`);
* `confidence_mem_of_one` -- the confidence of an accepted record lies between zero and one.
-/

namespace Vigil

variable {ν : Type} [Quantity ν]

/-- There are a type and a file that are not blank, and a line; the severity has a name that is
recognised, unless there is none, and so the confidence is finite. -/
def RawFields.IsAcceptable (r : RawFields ν) : Prop :=
  (∃ s ∈ r.findingType, Text.trim s ≠ "") ∧ (∃ s ∈ r.file, Text.trim s ≠ "") ∧
    r.line.isSome = true ∧
    (∀ s ∈ r.severity, Severity.lookupForm s ∈ Severity.recognised.map (·.1)) ∧
    ∀ x ∈ r.confidence, Quantity.isFinite x = true

instance (r : RawFields ν) : Decidable r.IsAcceptable := instDecidableAnd

/-- The record was decoded, and its fields are acceptable. -/
def RawFinding.IsAcceptable : RawFinding ν → Prop
  | .undecodable _ => False
  | .record r => r.IsAcceptable

instance : (r : RawFinding ν) → Decidable r.IsAcceptable
  | .undecodable _ => instDecidableFalse
  | .record r => inferInstanceAs (Decidable r.IsAcceptable)

namespace Normalize

/-! ## The checks -/

theorem trimmed?_some (s : String) :
    trimmed? (some s) = if Text.trim s = "" then none else some (Text.trim s) := by
  by_cases h : Text.trim s = "" <;> simp [trimmed?, Option.filter, h]

theorem isOk_requiredText_iff {name : String} {s : Option String} :
    (requiredText name s).isOk = true ↔ ∃ t ∈ s, Text.trim t ≠ "" := by
  cases s with
  | none => exact iff_of_false Bool.false_ne_true fun ⟨t, ht, _⟩ => by cases ht
  | some t =>
    simp only [Option.mem_def, Option.some.injEq, exists_eq_left', requiredText, trimmed?_some]
    by_cases h : Text.trim t = ""
    · rw [if_pos h]
      exact iff_of_false Bool.false_ne_true fun hne => hne h
    · rw [if_neg h]
      exact iff_of_true rfl h

theorem isOk_lineOf {n : Option UInt32} : (lineOf n).isOk = n.isSome := by
  cases n <;> rfl

theorem isSome_ofName?_iff {s : String} :
    (Severity.ofName? s).isSome = true ↔ s ∈ Severity.recognised.map (·.1) := by
  simp only [Severity.ofName?, Option.isSome_map, List.find?_isSome, beq_iff_eq, List.mem_map]

-- The equations of `parse` and `severityOf` are slow to generate, since they look into the table of
-- names; `delta` does without them.
theorem isOk_parse (s : String) :
    (Severity.parse s).isOk = (Severity.ofName? (Severity.lookupForm s)).isSome := by
  delta Severity.parse
  cases Severity.ofName? (Severity.lookupForm s) <;> rfl

theorem isOk_severityOf_some (s : String) :
    (severityOf (some s)).isOk = (Severity.parse s).isOk := by
  delta severityOf
  dsimp only
  cases Severity.parse s <;> rfl

theorem isOk_severityOf_iff {s : Option String} :
    (severityOf s).isOk = true ↔
      ∀ t ∈ s, Severity.lookupForm t ∈ Severity.recognised.map (·.1) := by
  cases s with
  | none => exact iff_of_true rfl fun t ht => by cases ht
  | some t =>
    simp only [Option.mem_def, Option.some.injEq, forall_eq', isOk_severityOf_some, isOk_parse,
      isSome_ofName?_iff]

theorem isOk_confidenceOf_iff {c : Option ν} :
    (confidenceOf c).isOk = true ↔ ∀ x ∈ c, Quantity.isFinite x = true := by
  cases c with
  | none => exact iff_of_true rfl fun x hx => by cases hx
  | some x =>
    simp only [Option.mem_def, Option.some.injEq, forall_eq', confidenceOf]
    cases Quantity.isFinite x with
    | true => exact iff_of_true rfl rfl
    | false => exact iff_of_false Bool.false_ne_true Bool.false_ne_true

/-! ## All of them -/

/-- A check whose success does not depend on the value before it. -/
theorem isOk_bind {ε α β : Type} {x : Except ε α} {k : α → Except ε β} {b : Bool}
    (h : ∀ a, (k a).isOk = b) : (x >>= k).isOk = (x.isOk && b) := by
  cases x with
  | error e => rfl
  | ok a => exact h a

theorem isOk_record (agent : String) (r : RawFields ν) :
    (record agent r).isOk =
      ((requiredText "type" r.findingType).isOk && ((requiredText "file" r.file).isOk &&
        ((lineOf r.line).isOk && ((severityOf r.severity).isOk &&
          ((confidenceOf r.confidence).isOk && true))))) :=
  isOk_bind fun _ => isOk_bind fun _ => isOk_bind fun _ => isOk_bind fun _ => isOk_bind fun _ => rfl

/-- **A record is accepted exactly if it is acceptable.** -/
theorem isOk_one_iff (agent : String) {r : RawFinding ν} :
    (one agent r).isOk = true ↔ r.IsAcceptable := by
  cases r with
  | undecodable reason => exact iff_of_false Bool.false_ne_true id
  | record r =>
    simp only [one, isOk_record, Bool.and_true, Bool.and_eq_true, isOk_requiredText_iff,
      isOk_lineOf, isOk_severityOf_iff, isOk_confidenceOf_iff]
    rfl

theorem exists_ok_of_isAcceptable (agent : String) {r : RawFinding ν} (h : r.IsAcceptable) :
    ∃ f, one agent r = .ok f := by
  have hok := (isOk_one_iff agent).2 h
  cases hone : one agent r with
  | ok f => exact ⟨f, rfl⟩
  | error reason =>
    rw [hone] at hok
    cases hok

/-- The confidence of an accepted record is that of the record, brought between zero and one. -/
theorem confidence_of_one {agent : String} {r : RawFinding ν} {f : Finding ν}
    (h : one agent r = .ok f) : ∃ c, confidenceOf c = .ok f.confidence := by
  cases r with
  | undecodable reason => cases h
  | record r =>
    obtain ⟨type, -, h⟩ := exists_ok_of_bind h
    obtain ⟨file, -, h⟩ := exists_ok_of_bind h
    obtain ⟨line, -, h⟩ := exists_ok_of_bind h
    obtain ⟨severity, -, h⟩ := exists_ok_of_bind h
    obtain ⟨confidence, hconfidence, h⟩ := exists_ok_of_bind h
    obtain rfl := Except.ok.inj h
    exact ⟨r.confidence, hconfidence⟩

theorem confidenceOf_mem {c : Option Float} {x : Float} (h : confidenceOf c = .ok x) :
    0.0 ≤ x ∧ x ≤ 1.0 := by
  cases c with
  | none =>
    obtain rfl := Except.ok.inj h
    exact ⟨by decide, by decide⟩
  | some y =>
    rw [confidenceOf] at h
    split at h
    · rename_i hfinite
      obtain rfl := Except.ok.inj h
      exact Double.clampUnit_mem hfinite
    · cases h

/-- **The confidence of an accepted record lies between zero and one.** -/
theorem confidence_mem_of_one {agent : String} {r : RawFinding Float} {f : Finding Float}
    (h : one agent r = .ok f) : 0.0 ≤ f.confidence ∧ f.confidence ≤ 1.0 := by
  obtain ⟨c, hc⟩ := confidence_of_one h
  exact confidenceOf_mem hc

end Normalize

end Vigil
