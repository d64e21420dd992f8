import Mathlib.Data.List.Forall2
import Vigil.Proofs.Normalize.Acceptance

/-!
# The records of a batch do not affect one another

What normalization returns lists the findings and the rejections separately.  `reasonAt?` and
`findingAt?` read off it what became of the record at one position; both turn out to depend on that
record alone, except for the ordinal in the id of the finding:

* `normalize_isolates` -- **a batch is accounted for record by record, without the rejected records
  it gives the same findings, and replacing one record affects no other**.
-/

namespace Vigil

variable {ν : Type}

/-! ## Reading off what became of a record -/

/-- Why the record at a position was rejected, if it was. -/
def Normalized.reasonAt? (n : Normalized ν) (i : Nat) : Option RejectReason :=
  (n.rejected.find? (·.index == i)).map (·.reason)

/-- The finding that the record at a position became.  The findings are in the order of the records,
so as many come before it as there are earlier records that were not rejected. -/
def Normalized.findingAt? (n : Normalized ν) (i : Nat) : Option (Finding ν) :=
  if (n.reasonAt? i).isSome then none
  else n.findings[i - n.rejected.countP (·.index < i)]?

/-- The records of a batch that were not rejected. -/
def Normalized.retained (n : Normalized ν) (batch : List (RawFinding ν)) : List (RawFinding ν) :=
  (batch.zipIdx.filter fun p => (n.reasonAt? p.2).isNone).map (·.1)

namespace Normalize

/-! ## The results of the checks -/

/-- Why a check failed, if it did. -/
def reason? : Except RejectReason (Finding ν) → Option RejectReason
  | .ok _ => none
  | .error reason => some reason

theorem reason?_eq_some_iff {x : Except RejectReason (Finding ν)} {reason : RejectReason} :
    reason? x = some reason ↔ x = .error reason := by
  cases x <;> simp [reason?]

theorem isNone_reason? (x : Except RejectReason (Finding ν)) : (reason? x).isNone = x.isOk := by
  cases x <;> rfl

theorem rejections_eq_filterMap (agent : String) (i : Nat)
    (l : List (Except RejectReason (Finding ν))) :
    rejections agent i l =
      (l.zipIdx i).filterMap fun p => (reason? p.1).map fun reason => ⟨agent, p.2, reason⟩ := by
  induction l generalizing i with
  | nil => rfl
  | cons x rest ih => cases x <;> simp [rejections, reason?, ih]

theorem rejections_append (agent : String) (i : Nat)
    (l l' : List (Except RejectReason (Finding ν))) :
    rejections agent i (l ++ l') = rejections agent i l ++ rejections agent (i + l.length) l' := by
  simp only [rejections_eq_filterMap, List.zipIdx_append, List.filterMap_append]

theorem mem_rejections {agent : String} {i : Nat} {l : List (Except RejectReason (Finding ν))}
    {x : Rejection} :
    x ∈ rejections agent i l ↔
      x.agent = agent ∧ i ≤ x.index ∧ l[x.index - i]? = some (.error x.reason) := by
  rw [rejections_eq_filterMap, List.mem_filterMap]
  constructor
  · rintro ⟨p, hp, hx⟩
    obtain ⟨reason, hreason, rfl⟩ := Option.map_eq_some_iff.1 hx
    obtain ⟨hle, hget⟩ := List.mem_zipIdx_iff_le_and_getElem?_sub.1 hp
    exact ⟨rfl, hle, by rw [hget, reason?_eq_some_iff.1 hreason]⟩
  · rintro ⟨rfl, hle, hget⟩
    exact ⟨(.error x.reason, x.index), List.mem_zipIdx_iff_le_and_getElem?_sub.2 ⟨hle, hget⟩, rfl⟩

theorem pairwise_rejections (agent : String) (i : Nat)
    (l : List (Except RejectReason (Finding ν))) :
    (rejections agent i l).Pairwise (·.index < ·.index) := by
  induction l generalizing i with
  | nil => exact List.Pairwise.nil
  | cons x rest ih =>
    cases x with
    | ok f => exact ih (i + 1)
    | error reason => exact List.pairwise_cons.2 ⟨fun y hy => (mem_rejections.1 hy).2.1, ih (i + 1)⟩

theorem countP_rejections (agent : String) (i : Nat) (l : List (Except RejectReason (Finding ν))) :
    (rejections agent 0 l).countP (·.index < i) = (rejections agent 0 (l.take i)).length := by
  conv_lhs => rw [← List.take_append_drop i l, rejections_append, List.countP_append]
  have hbefore : (rejections agent 0 (l.take i)).countP (·.index < i) =
      (rejections agent 0 (l.take i)).length := by
    refine List.countP_eq_length.2 fun x hx => decide_eq_true ?_
    obtain ⟨hlt, -⟩ := List.getElem?_eq_some_iff.1 (mem_rejections.1 hx).2.2
    rw [List.length_take] at hlt
    omega
  have hafter : (rejections agent (0 + (l.take i).length) (l.drop i)).countP (·.index < i) = 0 := by
    refine List.countP_eq_zero.2 fun x hx => ?_
    obtain ⟨-, hle, hget⟩ := mem_rejections.1 hx
    obtain ⟨hlt, -⟩ := List.getElem?_eq_some_iff.1 hget
    rw [List.length_take] at hle hlt
    rw [List.length_drop] at hlt
    rw [decide_eq_true_eq]
    omega
  rw [hbefore, hafter, Nat.add_zero]

theorem accepted_eq_filterMap (l : List (Except RejectReason (Finding ν))) :
    accepted l = l.filterMap Except.toOption := by
  induction l with
  | nil => rfl
  | cons x rest ih =>
    cases x with
    | ok f => exact congrArg (f :: ·) ih
    | error reason => exact ih

theorem accepted_append (l l' : List (Except RejectReason (Finding ν))) :
    accepted (l ++ l') = accepted l ++ accepted l' := by
  simp only [accepted_eq_filterMap, List.filterMap_append]

/-- The results before a position that were not rejected are those that were accepted. -/
theorem sub_countP_rejections (agent : String) {i : Nat}
    {l : List (Except RejectReason (Finding ν))} (hi : i ≤ l.length) :
    i - (rejections agent 0 l).countP (·.index < i) = (accepted (l.take i)).length := by
  have hsizes := length_accepted_add_rejections agent 0 (l.take i)
  rw [List.length_take] at hsizes
  rw [countP_rejections]
  omega

theorem getElem?_accepted_of_ok (agent : String) {i : Nat}
    {l : List (Except RejectReason (Finding ν))} {f : Finding ν} (h : l[i]? = some (.ok f)) :
    (accepted l)[i - (rejections agent 0 l).countP (·.index < i)]? = some f := by
  obtain ⟨hi, hget⟩ := List.getElem?_eq_some_iff.1 h
  have hsplit : accepted l = accepted (l.take i) ++ f :: accepted (l.drop (i + 1)) := by
    conv_lhs => rw [← List.take_append_drop i l, List.drop_eq_getElem_cons hi, hget,
      accepted_append]
    rfl
  rw [sub_countP_rejections agent (Nat.le_of_lt hi), hsplit,
    List.getElem?_append_right (Nat.le_refl _), Nat.sub_self, List.getElem?_cons_zero]

theorem getElem?_accepted_of_le (agent : String) {i : Nat}
    {l : List (Except RejectReason (Finding ν))} (h : l.length ≤ i) :
    (accepted l)[i - (rejections agent 0 l).countP (·.index < i)]? = none := by
  have hsizes := length_accepted_add_rejections agent 0 l
  rw [countP_rejections, List.take_of_length_le h]
  exact List.getElem?_eq_none_iff.2 (by omega)

theorem exists_getElem?_numberIds (seen : List String) (l : List (Finding ν)) (i : Nat) :
    ∃ n, (numberIds seen l)[i]? = l[i]?.map fun f => { f with id := ordinalId f.id n } := by
  induction l generalizing seen i with
  | nil => exact ⟨0, rfl⟩
  | cons f rest ih =>
    cases i with
    | zero => exact ⟨_, rfl⟩
    | succ i => exact ih (f.id :: seen) i

/-! ## What became of a record -/

variable [Quantity ν]

theorem mem_rejected_normalize {agent : String} {batch : List (RawFinding ν)} {x : Rejection} :
    x ∈ (normalize agent batch).rejected ↔
      x.agent = agent ∧ ∃ r, batch[x.index]? = some r ∧ one agent r = .error x.reason := by
  have h : x ∈ rejections agent 0 (batch.map (one agent)) ↔ _ := mem_rejections
  simpa [normalize, List.getElem?_map, Option.map_eq_some_iff] using h

/-- **Whether and why a record is rejected depends on that record alone.** -/
theorem reasonAt?_normalize (agent : String) (batch : List (RawFinding ν)) (i : Nat) :
    (normalize agent batch).reasonAt? i = batch[i]?.bind fun r => reason? (one agent r) := by
  apply Option.ext
  intro reason
  simp only [Normalized.reasonAt?, Option.map_eq_some_iff, Option.bind_eq_some_iff,
    reason?_eq_some_iff]
  constructor
  · rintro ⟨x, hx, rfl⟩
    have hindex : x.index = i := by simpa using List.find?_some hx
    obtain ⟨-, r, hr, hone⟩ := mem_rejected_normalize.1 (List.mem_of_find?_eq_some hx)
    exact ⟨r, hindex ▸ hr, hone⟩
  · rintro ⟨r, hr, hone⟩
    have hmem : (⟨agent, i, reason⟩ : Rejection) ∈ (normalize agent batch).rejected :=
      mem_rejected_normalize.2 ⟨rfl, r, hr, hone⟩
    have hfound : ((normalize agent batch).rejected.find? (·.index == i)).isSome = true :=
      List.find?_isSome.2 ⟨_, hmem, beq_self_eq_true i⟩
    obtain ⟨x, hx⟩ := Option.isSome_iff_exists.1 hfound
    have hindex : x.index = i := by simpa using List.find?_some hx
    obtain ⟨-, r', hr', hone'⟩ := mem_rejected_normalize.1 (List.mem_of_find?_eq_some hx)
    -- There is only one record at this position, so the rejection found is that of `r`.
    obtain rfl : r' = r := Option.some.inj (hr'.symm.trans (hindex ▸ hr))
    exact ⟨x, hx, Except.error.inj (hone'.symm.trans hone)⟩

theorem isNone_reasonAt?_normalize_iff (agent : String) {batch : List (RawFinding ν)} {i : Nat}
    {r : RawFinding ν} (h : batch[i]? = some r) :
    ((normalize agent batch).reasonAt? i).isNone = true ↔ r.IsAcceptable := by
  rw [reasonAt?_normalize, h, Option.bind_some, isNone_reason?, isOk_one_iff]

/-- **What a record becomes depends on that record alone, but for the ordinal.** -/
theorem exists_findingAt?_normalize (agent : String) (batch : List (RawFinding ν)) (i : Nat) :
    ∃ n, (normalize agent batch).findingAt? i =
      (batch[i]?.bind fun r => (one agent r).toOption).map fun f =>
        { f with id := ordinalId f.id n } := by
  have hresult : (batch.map (one agent))[i]? = batch[i]?.map (one agent) := List.getElem?_map
  obtain ⟨n, hn⟩ := exists_getElem?_numberIds [] (accepted (batch.map (one agent)))
    (i - (rejections agent 0 (batch.map (one agent))).countP (·.index < i))
  refine ⟨n, ?_⟩
  rw [Normalized.findingAt?, reasonAt?_normalize]
  cases hr : batch[i]? with
  | none =>
    rw [hr, Option.map_none, List.getElem?_eq_none_iff] at hresult
    rw [getElem?_accepted_of_le agent hresult] at hn
    exact hn
  | some r =>
    rw [Option.bind_some, Option.bind_some]
    cases hone : one agent r with
    | error reason => rfl
    | ok f =>
      rw [hr, Option.map_some, hone] at hresult
      rw [getElem?_accepted_of_ok agent hresult] at hn
      exact hn

/-! ## Without the rejected records -/

theorem retained_normalize (agent : String) (batch : List (RawFinding ν)) :
    (normalize agent batch).retained batch = batch.filter (·.IsAcceptable) := by
  have hkept : ∀ p ∈ batch.zipIdx,
      ((normalize agent batch).reasonAt? p.2).isNone = decide p.1.IsAcceptable := by
    intro p hp
    rw [Bool.eq_iff_iff, decide_eq_true_iff]
    exact isNone_reasonAt?_normalize_iff agent (List.mem_zipIdx_iff_getElem?.1 hp)
  rw [Normalized.retained, List.filter_congr hkept]
  conv_rhs => rw [← List.zipIdx_map_fst 0 batch, List.filter_map]
  rfl

theorem filter_acceptable_of_ok {agent : String} {r : RawFinding ν} {f : Finding ν}
    (h : one agent r = .ok f) (rest : List (RawFinding ν)) :
    (r :: rest).filter (·.IsAcceptable) = r :: rest.filter (·.IsAcceptable) := by
  have hr : r.IsAcceptable := (isOk_one_iff agent).1 (by rw [h]; rfl)
  exact List.filter_cons_of_pos (p := fun r : RawFinding ν => decide r.IsAcceptable)
    (decide_eq_true hr)

theorem filter_acceptable_of_error {agent : String} {r : RawFinding ν} {reason : RejectReason}
    (h : one agent r = .error reason) (rest : List (RawFinding ν)) :
    (r :: rest).filter (·.IsAcceptable) = rest.filter (·.IsAcceptable) := by
  have hr : ¬r.IsAcceptable := by
    rw [← isOk_one_iff agent, h]
    exact Bool.false_ne_true
  exact List.filter_cons_of_neg (p := fun r : RawFinding ν => decide r.IsAcceptable)
    (fun hacc => hr (of_decide_eq_true hacc))

theorem accepted_map_filter (agent : String) (batch : List (RawFinding ν)) :
    accepted ((batch.filter (·.IsAcceptable)).map (one agent)) =
      accepted (batch.map (one agent)) := by
  induction batch with
  | nil => rfl
  | cons r rest ih =>
    cases hone : one agent r with
    | ok f =>
      rw [filter_acceptable_of_ok hone, List.map_cons, List.map_cons, hone, accepted, accepted, ih]
    | error reason =>
      rw [filter_acceptable_of_error hone, List.map_cons, hone, accepted, ih]

/-- **Without its rejected records, a batch gives the same findings.** -/
theorem findings_retained (agent : String) (batch : List (RawFinding ν)) :
    (normalize agent ((normalize agent batch).retained batch)).findings =
      (normalize agent batch).findings := by
  rw [retained_normalize]
  exact congrArg (numberIds []) (accepted_map_filter agent batch)

/-- The finding that a record gives, with some ordinal. -/
def IsFindingOf (agent : String) (r : RawFinding ν) (g : Finding ν) : Prop :=
  ∃ f n, one agent r = .ok f ∧ g = { f with id := ordinalId f.id n }

theorem forall₂_numberIds (agent : String) (batch : List (RawFinding ν)) (seen : List String) :
    List.Forall₂ (IsFindingOf agent) (batch.filter (·.IsAcceptable))
      (numberIds seen (accepted (batch.map (one agent)))) := by
  induction batch generalizing seen with
  | nil => exact .nil
  | cons r rest ih =>
    cases hone : one agent r with
    | ok f =>
      rw [filter_acceptable_of_ok hone, List.map_cons, hone, accepted, numberIds]
      exact .cons ⟨f, _, hone, rfl⟩ (ih _)
    | error reason =>
      rw [filter_acceptable_of_error hone, List.map_cons, hone, accepted]
      exact ih seen

/-! ## The account of a batch -/

/-- Two findings of an agent that differ at most in the ordinals of their ids. -/
def SameButOrdinal (agent : String) (f g : Finding ν) : Prop :=
  ∃ h m n, Reported agent h ∧ f = { h with id := ordinalId h.id m } ∧
    g = { h with id := ordinalId h.id n }

/-- Every record of a batch was either rejected or became a finding, the findings in the order of
their records. -/
structure IsAccountOf (agent : String) (batch : List (RawFinding Float)) (n : Normalized Float) :
    Prop where
  sizes : n.findings.length + n.rejected.length = batch.length
  rejected_iff : ∀ x, x ∈ n.rejected ↔
    x.agent = agent ∧ ∃ r, batch[x.index]? = some r ∧ one agent r = .error x.reason
  ascending : n.rejected.Pairwise (·.index < ·.index)
  findings : List.Forall₂ (IsFindingOf agent) (n.retained batch) n.findings
  acceptance : ∀ i r, batch[i]? = some r → ((n.reasonAt? i).isNone = true ↔ r.IsAcceptable)
  becomes : ∀ i r, batch[i]? = some r → r.IsAcceptable →
    ∃ g, n.findingAt? i = some g ∧ IsFindingOf agent r g
  lines : ∀ f ∈ n.findings, f.location.startLine ≤ f.location.endLine
  confidence : ∀ f ∈ n.findings, 0.0 ≤ f.confidence ∧ f.confidence ≤ 1.0

theorem isAccountOf_normalize (agent : String) (batch : List (RawFinding Float)) :
    IsAccountOf agent batch (normalize agent batch) where
  sizes := by
    have h := length_accepted_add_rejections agent 0 (batch.map (one agent))
    rw [List.length_map] at h
    simpa [normalize, length_numberIds] using h
  rejected_iff _ := mem_rejected_normalize
  ascending := pairwise_rejections ..
  findings := by
    rw [retained_normalize]
    exact forall₂_numberIds ..
  acceptance _ _ hr := isNone_reasonAt?_normalize_iff agent hr
  becomes i r hr hacc := by
    obtain ⟨n, hn⟩ := exists_findingAt?_normalize agent batch i
    obtain ⟨f, hone⟩ := exists_ok_of_isAcceptable agent hacc
    rw [hr, Option.bind_some, hone] at hn
    exact ⟨_, hn, f, n, hone, rfl⟩
  lines f hf := by
    obtain ⟨r, -, g, n, hone, rfl⟩ := exists_of_mem_normalize hf
    exact (reported_of_one hone).lines
  confidence f hf := by
    obtain ⟨r, -, g, n, hone, rfl⟩ := exists_of_mem_normalize hf
    have hmem := confidence_mem_of_one hone
    exact hmem

/-- What becomes of the same record in two batches. -/
theorem rel_findingAt? (agent : String) {batch batch' : List (RawFinding ν)} {i : Nat}
    (h : batch[i]? = batch'[i]?) :
    Option.Rel (SameButOrdinal agent) ((normalize agent batch).findingAt? i)
      ((normalize agent batch').findingAt? i) := by
  obtain ⟨m, hm⟩ := exists_findingAt?_normalize agent batch i
  obtain ⟨n, hn⟩ := exists_findingAt?_normalize agent batch' i
  rw [hm, hn, h]
  cases batch'[i]? with
  | none => exact .none
  | some r =>
    rw [Option.bind_some]
    cases hone : one agent r with
    | error reason => exact .none
    | ok f => exact .some ⟨f, m, n, reported_of_one hone, rfl, rfl⟩

/-- **One bad record does not affect the rest of its batch.** -/
theorem normalize_isolates (agent : String) (batch : List (RawFinding Float)) :
    IsAccountOf agent batch (normalize agent batch) ∧
    (normalize agent ((normalize agent batch).retained batch)).findings =
      (normalize agent batch).findings ∧
    ∀ i r j, j ≠ i →
      (normalize agent (batch.set i r)).reasonAt? j = (normalize agent batch).reasonAt? j ∧
      Option.Rel (SameButOrdinal agent) ((normalize agent (batch.set i r)).findingAt? j)
        ((normalize agent batch).findingAt? j) := by
  refine ⟨isAccountOf_normalize agent batch, findings_retained agent batch, fun i r j hj => ?_⟩
  have hsame : (batch.set i r)[j]? = batch[j]? := List.getElem?_set_ne (Ne.symm hj)
  refine ⟨?_, rel_findingAt? agent hsame⟩
  rw [reasonAt?_normalize, reasonAt?_normalize, hsame]

/-- A record that names its type and lies in line seven of one file. -/
def typedRecord (type : String) : RawFinding Float :=
  .record { findingType := some type, file := some "m.c", line := some 7 }

/-- Of two equal leaks the second carries an ordinal, which it loses if the first is broken. -/
theorem normalize_isolates_twoLeaks :
    2 ≠ 0 ∧
    (normalize "scan" [.undecodable "", .undecodable "", typedRecord "leak"]).reasonAt? 2 =
      (normalize "scan" [typedRecord "leak", .undecodable "", typedRecord "leak"]).reasonAt? 2 ∧
    Option.Rel (SameButOrdinal "scan")
      ((normalize "scan" [.undecodable "", .undecodable "", typedRecord "leak"]).findingAt? 2)
      ((normalize "scan" [typedRecord "leak", .undecodable "", typedRecord "leak"]).findingAt? 2) :=
  ⟨by decide, (normalize_isolates "scan" [typedRecord "leak", .undecodable "",
    typedRecord "leak"]).2.2 0 (.undecodable "") 2 (by decide)⟩

end Normalize

end Vigil
