import Vigil.Proofs.Document.Record

/-!
# Findings are read as they were written

Severities and states are written by name, the functions of locations and what triage has not set
are left out, and a missing model is null.  Reading undoes all of this, whatever is present and
whatever is not, as long as the numbers are finite.

* `Location.decoder_toJson`, `Classification.decoder_toJson` -- the parts of a finding are read back
  unchanged;
* `Finding.isFieldwise_fields` -- a finding is read field by field, and what its location and its
  classification hold beyond their fields is not seen;
* `Finding.decoder_toJson_of_finite` -- **the main result**: a finding is read back unchanged, and
  further members in its object, its location or its classification never change what is read.
-/

namespace Vigil

open Document
open Json (lookup optionalMember orNull texts)

/-! ## Severities and states -/

theorem Severity.decoder_toJson (s : Severity) : decoder s.toJson = .ok s := by
  cases s <;> rfl

theorem Severity.nullable_toJson (s : Severity) : nullable decoder s.toJson = .ok (some s) := by
  cases s <;> rfl

theorem TriageStatus.decoder_toJson (s : TriageStatus) : decoder s.toJson = .ok s := by
  cases s <;> rfl

/-! ## Locations -/

namespace Location

theorem isFieldwise_fields : fields.IsFieldwise fun _ => Eq := by
  refine .seq (.seq (.seq (.map mk ?file) ?startLine) ?endLine) ?function
  case function => exact Record.isFieldwise_defaultedOptional fun _ _ => congrArg _
  all_goals exact Record.isFieldwise_required fun _ _ => congrArg _

/-- A location with further members in its object. -/
abbrev Extends : Json → Json → Prop := fields.Extends fun _ => Eq

theorem decoder_extends {v v' : Json} (h : Extends v v') : decoder v' = decoder v :=
  Record.decode_extends isFieldwise_fields "Location" h

theorem decoder_toJson (l : Location) : decoder l.toJson = .ok l := by
  obtain ⟨file, first, last, function⟩ := l
  refine Record.decode_object isFieldwise_fields (fun _ _ => rfl) _ ?keys ?fields
  case keys => cases function <;> simp [optionalMember]
  case fields =>
    refine .seq (.seq (.seq (.map mk (Record.builds_required (Json.text_text file) ?_))
      (Record.builds_required (Json.word32_word32 first) ?_))
      (Record.builds_required (Json.word32_word32 last) ?_))
      (Record.builds_defaultedOptional (o := function) (fun s _ => Json.nullable_text s) ?_)
    all_goals simp [lookup, lookup_append, Json.lookup_optionalMember]

end Location

/-! ## Classifications -/

namespace Classification

theorem isFieldwise_fields : fields.IsFieldwise fun _ => Eq := by
  refine .seq (.seq (.seq (.seq (.seq (.map mk ?truePositive) ?provider) ?model) ?confidence)
    ?rationale) ?cost
  case model => exact Record.isFieldwise_optional fun _ _ => congrArg _
  all_goals exact Record.isFieldwise_required fun _ _ => congrArg _

/-- A classification with further members in its object. -/
abbrev Extends : Json → Json → Prop := fields.Extends fun _ => Eq

theorem decoder_extends {v v' : Json} (h : Extends v v') : decoder v' = decoder v :=
  Record.decode_extends isFieldwise_fields "Classification" h

theorem decoder_toJson (c : Classification Float) (hconfidence : c.confidence.isFinite = true)
    (hcost : c.cost.isFinite = true) : decoder c.toJson = .ok c := by
  obtain ⟨truePositive, provider, model, confidence, rationale, cost⟩ := c
  refine Record.decode_object isFieldwise_fields (fun _ _ => rfl) _ (by simp) ?_
  exact .seq (.seq (.seq (.seq (.seq
    (.map mk (Record.builds_required (Json.bool_bool truePositive) rfl))
    (Record.builds_required (Json.text_text provider) rfl))
    (Record.builds_optional (Json.nullable_orNull_text model) rfl))
    (Record.builds_required (Json.real_float hconfidence) rfl))
    (Record.builds_required (Json.text_text rationale) rfl))
    (Record.builds_required (Json.real_float hcost) rfl)

theorem nullable_toJson (c : Classification Float)
    (h : c.confidence.isFinite = true ∧ c.cost.isFinite = true) :
    nullable decoder c.toJson = .ok (some c) := by
  show (decoder c.toJson).map some = _
  rw [c.decoder_toJson h.1 h.2]
  rfl

end Classification

/-! ## Findings -/

namespace Finding

/-- Values under one key that a finding is read from alike: locations and classifications may have
further members. -/
def Alike (key : String) (v v' : Json) : Prop :=
  v = v' ∨ key = "location" ∧ Location.Extends v v' ∨
    key = "classification" ∧ Classification.Extends v v'

theorem Alike.refl (key : String) (v : Json) : Alike key v v := .inl rfl

variable {v v' : Json}

theorem Alike.location (h : Alike "location" v v') : Location.Extends v v' := by
  rcases h with rfl | ⟨-, h⟩ | ⟨hkey, -⟩
  · exact .refl _
  · exact h
  · exact absurd hkey (by decide)

theorem Alike.classification (h : Alike "classification" v v') : Classification.Extends v v' := by
  rcases h with rfl | ⟨hkey, -⟩ | ⟨-, h⟩
  · exact .refl _
  · exact absurd hkey (by decide)
  · exact h

theorem Alike.eq {key : String} (h : Alike key v v')
    (hkey : ¬ (key = "location" ∨ key = "classification")) : v = v' :=
  h.resolve_right fun h => hkey (h.imp And.left And.left)

theorem isFieldwise_fields : fields.IsFieldwise Alike := by
  refine .seq (.seq (.seq (.seq (.seq (.seq (.seq (.seq (.seq (.map mk ?id) ?findingType) ?severity)
    ?confidence) ?location) ?description) ?agents) ?status) ?adjustedSeverity) ?classification
  case location =>
    exact Record.isFieldwise_required fun v v' h => (Location.decoder_extends h.location).symm
  case classification =>
    refine Record.isFieldwise_defaultedOptional fun v v' h => Record.nullable_congr ?_
      (Classification.decoder_extends h.classification).symm
    cases h.classification <;> rfl
  case adjustedSeverity =>
    exact Record.isFieldwise_defaultedOptional fun _ _ h => by rw [h.eq (by decide)]
  all_goals exact Record.isFieldwise_required fun _ _ h => by rw [h.eq (by decide)]

/-- A finding with further members in its object, its location or its classification. -/
abbrev Extends : Json → Json → Prop := fields.Extends Alike

theorem decoder_extends (h : Extends v v') : decoder v' = decoder v :=
  Record.decode_extends isFieldwise_fields "Finding" h

example : fields.names =
    ["id", "finding_type", "severity", "confidence", "location", "description", "agents",
      "triage_status", "adjusted_severity", "classification"] := rfl

/-- **A finding is read back as it was written**, and further members do not change what is read. -/
theorem decoder_toJson_of_finite (f : Finding Float) (hconfidence : f.confidence.isFinite = true)
    (hclassification : ∀ c ∈ f.classification,
      c.confidence.isFinite = true ∧ c.cost.isFinite = true) :
    decoder f.toJson = .ok f ∧ ∀ v v', Extends v v' → decoder v' = decoder v := by
  refine ⟨?_, fun _ _ => decoder_extends⟩
  obtain ⟨id, findingType, severity, confidence, location, description, agents, status,
    adjustedSeverity, classification⟩ := f
  refine Record.decode_object isFieldwise_fields Alike.refl _ ?keys ?fields
  case keys => cases adjustedSeverity <;> cases classification <;> simp [optionalMember]
  case fields =>
    refine .seq (.seq (.seq (.seq (.seq (.seq (.seq (.seq (.seq
      (.map mk (Record.builds_required (Json.text_text id) ?_))
      (Record.builds_required (Json.text_text findingType) ?_))
      (Record.builds_required severity.decoder_toJson ?_))
      (Record.builds_required (Json.real_float hconfidence) ?_))
      (Record.builds_required location.decoder_toJson ?_))
      (Record.builds_required (Json.text_text description) ?_))
      (Record.builds_required (Json.setOf_texts agents) ?_))
      (Record.builds_required status.decoder_toJson ?_))
      (Record.builds_defaultedOptional (fun s _ => s.nullable_toJson) ?_))
      (Record.builds_defaultedOptional (fun c hc => c.nullable_toJson (hclassification c hc)) ?_)
    all_goals simp [lookup, lookup_append, Json.lookup_optionalMember]

/-- A finding about which everything is known. -/
def reviewed : Finding Float where
  id := "f-1"
  findingType := "reentrancy"
  severity := .high
  confidence := 0.1
  location := ⟨"src/\"Vault\".sol", 10, 4294967295, some "withdraw"⟩
  description := "\x7b\"id\": null\x7d"
  agents := .ofList ["slither", "mythril"]
  status := .falsePositive
  adjustedSeverity := some .low
  classification := some ⟨false, "rules", none, 0.75, "guarded\n", 0.0⟩

/-- The object of that finding, with a note at each level. -/
def reviewedWithNotes : Json :=
  .object
    [("adjusted_severity", .text "low"), ("agents", texts ["mythril", "slither"]),
      ("classification", .object
        [("confidence", Json.float 0.75), ("cost", Json.float 0.0), ("model", .null),
          ("notes", .list []), ("provider", .text "rules"), ("rationale", .text "guarded\n"),
          ("true_positive", .bool false)]),
      ("confidence", Json.float 0.1), ("description", .text "\x7b\"id\": null\x7d"),
      ("finding_type", .text "reentrancy"), ("id", .text "f-1"),
      ("location", .object
        [("column", Json.nat 3), ("end_line", Json.word32 4294967295),
          ("file", .text "src/\"Vault\".sol"), ("function", .text "withdraw"),
          ("start_line", Json.word32 10)]),
      ("notes", .text "seen before"), ("severity", .text "high"),
      ("triage_status", .text "false_positive")]

theorem extends_reviewed : Extends reviewed.toJson reviewedWithNotes := by
  have hfinding : "notes" ∉ fields.names := by decide
  have hlocation : "column" ∉ Location.fields.names := by decide
  have hclassification : "notes" ∉ Classification.fields.names := by decide
  refine .object (.keep (.inl rfl) (.keep (.inl rfl) (.keep (.inr (.inr ⟨rfl, ?classification⟩))
    (.keep (.inl rfl) (.keep (.inl rfl) (.keep (.inl rfl) (.keep (.inl rfl)
    (.keep (.inr (.inl ⟨rfl, ?location⟩)) (.add hfinding _
    (.keep (.inl rfl) (.keep (.inl rfl) .nil)))))))))))
  case location =>
    exact .object (.add hlocation _ (.keep rfl (.keep rfl (.keep rfl (.keep rfl .nil)))))
  case classification =>
    exact .object (.keep rfl (.keep rfl (.keep rfl (.add hclassification _ (.keep rfl (.keep rfl
      (.keep rfl .nil)))))))

theorem decoder_toJson_of_finite_reviewed :
    reviewed.confidence.isFinite = true ∧
      (∀ c ∈ reviewed.classification, c.confidence.isFinite = true ∧ c.cost.isFinite = true) ∧
      decoder reviewed.toJson = .ok reviewed ∧ decoder reviewedWithNotes = .ok reviewed := by
  have hconfidence : reviewed.confidence.isFinite = true := by decide +kernel
  have hclassification (c : Classification Float) (hc : c ∈ reviewed.classification) :
      c.confidence.isFinite = true ∧ c.cost.isFinite = true := by
    cases hc
    decide +kernel
  obtain ⟨hread, hextends⟩ := decoder_toJson_of_finite reviewed hconfidence hclassification
  exact ⟨hconfidence, hclassification, hread, (hextends _ _ extends_reviewed).trans hread⟩

end Finding

end Vigil
