import Vigil.Proofs.Normalize.Acceptance
import Vigil.Proofs.Text.SmallLetters

/-!
# Normalizing what has been normalized

The fields of an accepted finding are as normalization leaves them: trimmed, in small letters, with
the lines in order and the confidence between zero and one.  So a record that is made of them is
accepted, and describes the same finding.

* `Finding.toRecord` -- the record made of a finding;
* `one_toRecord` -- the finding of a record is that of the record made of it;
* `normalize_toRecord` -- **the main result**: alone, each finding of a batch comes back with its id
  less its ordinal; together, in their order, the findings come back as they are, and nothing is
  rejected.
-/

namespace Vigil

variable {ν : Type}

/-- The record that is made of the fields of a finding. -/
def Finding.toRecord (f : Finding ν) : RawFields ν where
  findingType := some f.findingType
  severity := some f.severity.name
  confidence := some f.confidence
  file := some f.location.file
  line := some f.location.startLine
  endLine := some f.location.endLine
  function := f.location.function
  description := some f.description

namespace Normalize

/-! ## The fields -/

theorem eq_trim_of_trimmed? {s : Option String} {t : String} (h : trimmed? s = some t) :
    ∃ u, t = Text.trim u ∧ t ≠ "" := by
  cases s with
  | none => cases h
  | some u =>
    rw [trimmed?_some] at h
    split at h
    · cases h
    · rename_i hne
      obtain rfl := Option.some.inj h
      exact ⟨u, rfl, hne⟩

/-- A text that is trimmed and not empty stays as it is. -/
theorem trimmed?_of_trim_eq {t : String} (htrim : Text.trim t = t) (hne : t ≠ "") :
    trimmed? (some t) = some t := by
  rw [trimmed?_some, htrim, if_neg hne]

theorem trimmed?_trimmed? (s : Option String) : trimmed? (trimmed? s) = trimmed? s := by
  cases h : trimmed? s with
  | none => rfl
  | some t =>
    obtain ⟨u, rfl, hne⟩ := eq_trim_of_trimmed? h
    exact trimmed?_of_trim_eq (Text.trim_trim u) hne

theorem trimmed?_of_requiredText {name : String} {s : Option String} {t : String}
    (h : requiredText name s = .ok t) : trimmed? s = some t := by
  rw [requiredText] at h
  split at h
  · rename_i u hu
    obtain rfl := Except.ok.inj h
    exact hu
  · cases h

theorem requiredText_of_trimmed? {name : String} {s : Option String} {t : String}
    (h : trimmed? s = some t) : requiredText name s = .ok t := by
  rw [requiredText, h]

/-- A file that was accepted is accepted as it is. -/
theorem requiredText_requiredText {name : String} {s : Option String} {t : String}
    (h : requiredText name s = .ok t) : requiredText name (some t) = .ok t := by
  have htrimmed := trimmed?_of_requiredText h
  refine requiredText_of_trimmed? ?_
  rw [← htrimmed, trimmed?_trimmed?]

/-- A type that was accepted is accepted in small letters. -/
theorem requiredText_lowercase {name : String} {s : Option String} {t : String}
    (h : requiredText name s = .ok t) :
    requiredText name (some (Text.lowercase t)) = .ok (Text.lowercase t) := by
  obtain ⟨u, rfl, hne⟩ := eq_trim_of_trimmed? (trimmed?_of_requiredText h)
  exact requiredText_of_trimmed?
    (trimmed?_of_trim_eq (Text.trim_lowercase_trim u) (Text.lowercase_ne_empty hne))

/-- The name of a severity names it. -/
theorem severityOf_name (s : Severity) : severityOf (some s.name) = .ok s := by
  cases s <;> decide +kernel

/-- A confidence that was accepted is accepted as it is. -/
theorem confidenceOf_confidenceOf {c : Option Float} {x : Float} (h : confidenceOf c = .ok x) :
    confidenceOf (some x) = .ok x := by
  obtain ⟨hzero, hone⟩ := confidenceOf_mem h
  have hfinite : Quantity.isFinite x = true := by
    cases c with
    | none =>
      obtain rfl := Except.ok.inj h
      decide
    | some y =>
      rw [confidenceOf] at h
      split at h
      · rename_i hy
        obtain rfl := Except.ok.inj h
        exact Double.isFinite_clampUnit hy
      · cases h
  rw [confidenceOf, if_pos hfinite, Double.clampUnit_of_mem hzero hone]

theorem between_of_le {file : String} {a b : UInt32} (h : a ≤ b) :
    Location.between file a b = ⟨file, a, b, none⟩ :=
  if_pos h

theorem file_locationOf (file : String) (line : UInt32) (endLine : Option UInt32)
    (function : Option String) : (locationOf file line endLine function).file = file := by
  rw [locationOf, Location.between]
  split <;> rfl

/-- A location stays as it is. -/
theorem locationOf_locationOf (file : String) (line : UInt32) (endLine : Option UInt32)
    (function : Option String) :
    let l := locationOf file line endLine function
    locationOf l.file l.startLine (some l.endLine) l.function = l := by
  intro l
  have hlines : l.startLine ≤ l.endLine := Location.between_ordered file line (endLine.getD line)
  have hfunction : trimmed? l.function = l.function := trimmed?_trimmed? function
  rw [locationOf, Option.getD_some, between_of_le hlines, hfunction]

/-! ## One record -/

/-- The finding of a record whose checks have succeeded. -/
theorem record_of_checks (agent : String) {r : RawFields ν} [Quantity ν] {type file : String}
    {line : UInt32} {severity : Severity} {confidence : ν}
    (htype : requiredText "type" r.findingType = .ok type)
    (hfile : requiredText "file" r.file = .ok file) (hline : lineOf r.line = .ok line)
    (hseverity : severityOf r.severity = .ok severity)
    (hconfidence : confidenceOf r.confidence = .ok confidence) :
    record agent r = .ok {
      id := baseId agent (Text.lowercase type) (locationOf file line r.endLine r.function)
      findingType := Text.lowercase type
      severity, confidence
      location := locationOf file line r.endLine r.function
      description := r.description.getD ""
      agents := OrderedSet.singleton agent
      status := .pending } := by
  rw [record, htype, hfile, hline, hseverity, hconfidence]
  rfl

/-- **The record made of the finding of a record describes it again.** -/
theorem one_toRecord {agent : String} {r : RawFinding Float} {f : Finding Float}
    (h : one agent r = .ok f) : one agent (.record f.toRecord) = .ok f := by
  cases r with
  | undecodable reason => cases h
  | record r =>
    obtain ⟨type, htype, h⟩ := exists_ok_of_bind h
    obtain ⟨file, hfile, h⟩ := exists_ok_of_bind h
    obtain ⟨line, -, h⟩ := exists_ok_of_bind h
    obtain ⟨severity, -, h⟩ := exists_ok_of_bind h
    obtain ⟨confidence, hconfidence, h⟩ := exists_ok_of_bind h
    have hf := (Except.ok.inj h).symm
    have htype' : requiredText "type" f.toRecord.findingType = .ok f.findingType := by
      rw [hf]
      exact requiredText_lowercase htype
    have hfile' : requiredText "file" f.toRecord.file = .ok f.location.file := by
      rw [hf]
      dsimp only [Finding.toRecord]
      rw [file_locationOf]
      exact requiredText_requiredText hfile
    have hconfidence' : confidenceOf f.toRecord.confidence = .ok f.confidence := by
      rw [hf]
      exact confidenceOf_confidenceOf hconfidence
    have hsmall : Text.lowercase f.findingType = f.findingType := by
      rw [hf]
      exact Text.lowercase_lowercase type
    have hlocation : locationOf f.location.file f.location.startLine f.toRecord.endLine
        f.toRecord.function = f.location := by
      rw [hf]
      exact locationOf_locationOf file line r.endLine r.function
    have hagain := record_of_checks agent htype' hfile' rfl (severityOf_name f.severity)
      hconfidence'
    rw [hlocation, hsmall] at hagain
    rw [one, hagain, hf]
    rfl

/-! ## A batch -/

theorem normalize_singleton {agent : String} [Quantity ν] {r : RawFinding ν} {f : Finding ν}
    (h : one agent r = .ok f) : normalize agent [r] = ⟨[f], []⟩ := by
  rw [normalize, List.map_singleton, h]
  rfl

/-- Records that are all accepted. -/
theorem normalize_of_accepted {agent : String} [Quantity ν] {batch : List (RawFinding ν)}
    {findings : List (Finding ν)} (h : batch.map (one agent) = findings.map .ok) :
    normalize agent batch = ⟨numberIds [] findings, []⟩ := by
  have haccepted (l : List (Finding ν)) : accepted (l.map .ok) = l := by
    induction l with
    | nil => rfl
    | cons f rest ih => rw [List.map_cons, accepted, ih]
  have hrejections (l : List (Finding ν)) (i : Nat) : rejections agent i (l.map .ok) = [] := by
    induction l generalizing i with
    | nil => rfl
    | cons f rest ih => rw [List.map_cons, rejections, ih]
  rw [normalize, h, haccepted, hrejections]

/-- A record says nothing of the ordinal. -/
theorem map_toRecord_numberIds (seen : List String) (l : List (Finding ν)) :
    (numberIds seen l).map (RawFinding.record ·.toRecord) =
      l.map (RawFinding.record ·.toRecord) := by
  induction l generalizing seen with
  | nil => rfl
  | cons f rest ih =>
    rw [numberIds, List.map_cons, List.map_cons, ih]
    rfl

/-- **Normalization is done once and for all.**  Whatever record is accepted, the record made of its
finding is accepted and describes that finding.  Of the findings of a batch each comes back alone,
with its id less its ordinal; and all together, in their order, come back as they are. -/
theorem normalize_toRecord (agent : String) :
    (∀ (r : RawFinding Float) (f : Finding Float), one agent r = .ok f →
      one agent (.record f.toRecord) = .ok f) ∧
    ∀ batch : List (RawFinding Float),
      let findings := (normalize agent batch).findings
      (∀ f ∈ findings, ∃ n, f.id = ordinalId (baseId agent f.findingType f.location) n ∧
        normalize agent [.record f.toRecord] =
          ⟨[{ f with id := baseId agent f.findingType f.location }], []⟩) ∧
      normalize agent (findings.map (.record ·.toRecord)) = ⟨findings, []⟩ := by
  refine ⟨fun r f => one_toRecord, fun batch => ?_⟩
  intro findings
  refine ⟨fun f hf => ?_, ?_⟩
  · obtain ⟨r, -, g, n, hg, rfl⟩ := exists_of_mem_normalize hf
    have hid := (reported_of_one hg).id
    refine ⟨n, congrArg (ordinalId · n) hid, ?_⟩
    have halone := normalize_singleton (one_toRecord hg)
    rw [← hid]
    exact halone
  · have haccepted : ∀ f ∈ accepted (batch.map (one agent)),
        one agent (.record f.toRecord) = .ok f := by
      intro f hf
      obtain ⟨r, -, hr⟩ := List.mem_map.1 (mem_accepted.1 hf)
      exact one_toRecord hr
    refine normalize_of_accepted ?_
    have hrecords : findings.map (RawFinding.record ·.toRecord) =
        (accepted (batch.map (one agent))).map (RawFinding.record ·.toRecord) :=
      map_toRecord_numberIds [] _
    rw [hrecords, List.map_map]
    exact List.map_congr_left haccepted

/-- A record in capitals, with blanks around them, and with its lines the wrong way round. -/
def loudRecord : RawFinding Float :=
  .record {
    findingType := some " ΧΑΟΣ "
    severity := some "\tWARNING"
    confidence := some 1.7
    file := some " m.c "
    line := some 9
    endLine := some 7
    function := some "  " }

theorem normalize_toRecord_loudRecord :
    let findings := (normalize "scan" [loudRecord, loudRecord]).findings
    (∃ f, one "scan" loudRecord = .ok f ∧ f.id = "scan:χαος:m.c:7-9" ∧
        one "scan" (.record f.toRecord) = .ok f) ∧
      findings.map (·.id) = ["scan:χαος:m.c:7-9", "scan:χαος:m.c:7-9#2"] ∧
      normalize "scan" (findings.map (.record ·.toRecord)) = ⟨findings, []⟩ := by
  have hid : (one "scan" loudRecord).toOption.map (·.id) = some "scan:χαος:m.c:7-9" := by
    decide +kernel
  cases haccepted : one "scan" loudRecord with
  | error rejection =>
    rw [haccepted] at hid
    cases hid
  | ok f =>
    rw [haccepted] at hid
    exact ⟨⟨f, rfl, Option.some.inj hid, (normalize_toRecord "scan").1 loudRecord f haccepted⟩,
      by decide +kernel, ((normalize_toRecord "scan").2 [loudRecord, loudRecord]).2⟩

end Normalize

end Vigil
