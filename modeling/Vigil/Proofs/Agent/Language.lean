import Vigil.Agent.Command
import Vigil.Agent.Registry
import Vigil.Proofs.Text.SmallLetters

/-!
# Agents for a language

The languages that an agent is built with are brought into small letters of every script, and so is
the language of a target; a language that the criteria of a run name is not.  All of them are
compared without regard to the case of the plain letters only.  So an agent is found by way of a
target in its language, however that is written, but by the name that it was built with only if this
has no capital letters but plain ones.

* `Reads` -- the languages that a descriptor was built with;
* `accepts_of_language` -- **the main result**, and `not_found_by_language` -- the input for which an
  agent is not found.
-/

namespace Vigil

/-! ## The languages of a descriptor -/

namespace AgentDescriptor

variable {d : AgentDescriptor} {languages : List String} {L : String}

/-- The descriptor was built with these languages. -/
def Reads (d : AgentDescriptor) (languages : List String) : Prop :=
  d.languages = languages.map Text.lowercase

theorem reads_nil (h : d.languages = []) : d.Reads [] :=
  h

theorem Reads.withLanguage (h : d.Reads languages) (L : String) :
    (d.withLanguage L).Reads (languages ++ [L]) := by
  rw [Reads, List.map_append, ← h]
  rfl

theorem Reads.withCapability (h : d.Reads languages) (c : Capability) :
    (d.withCapability c).Reads languages :=
  h

/-- Languages that are added one by one are read behind the others. -/
theorem Reads.foldl_withLanguage (h : d.Reads languages) (more : List String) :
    (more.foldl AgentDescriptor.withLanguage d).Reads (languages ++ more) := by
  induction more generalizing d languages with
  | nil => rwa [List.append_nil]
  | cons L more ih =>
    rw [List.append_cons]
    exact ih (h.withLanguage L)

theorem Reads.foldl_withCapability (h : d.Reads languages) (capabilities : List Capability) :
    (capabilities.foldl AgentDescriptor.withCapability d).Reads languages := by
  induction capabilities generalizing d with
  | nil => exact h
  | cons c capabilities ih => exact ih (h.withCapability c)

/-- The comparison finds what a descriptor was built with if this has no capital letters but plain
ones, and only then. -/
theorem Reads.supportsLanguage_iff (h : d.Reads languages) (hL : L ∈ languages) :
    d.supportsLanguage L = true ↔ Text.HasPlainCase L := by
  have hne : d.languages.isEmpty = false := by
    rw [h, List.isEmpty_map, List.isEmpty_eq_false_iff]
    exact List.ne_nil_of_mem hL
  rw [supportsLanguage, hne, Bool.false_or, h, List.any_map, List.any_eq_true]
  constructor
  · rintro ⟨M, -, hM⟩
    exact Text.hasPlainCase_of_eqPlainCase_lowercase hM
  · intro hplain
    exact ⟨L, hL, Text.eqPlainCase_lowercase_iff.2 hplain⟩

/-- In small letters it is always found. -/
theorem Reads.supportsLanguage_lowercase (h : d.Reads languages) (hL : L ∈ languages) :
    d.supportsLanguage (Text.lowercase L) = true := by
  rw [supportsLanguage, h, Bool.or_eq_true, List.any_eq_true]
  exact .inr ⟨_, List.mem_map_of_mem hL, Text.eqPlainCase_refl _⟩

end AgentDescriptor

/-- **An agent that is run by a command is built with the languages of its configuration.** -/
theorem CommandAgent.reads_descriptor (c : CommandAgent) : c.descriptor.Reads c.languages := by
  have hnew : AgentDescriptor.Reads { name := c.name, cost := c.cost, speed := c.speed } [] :=
    AgentDescriptor.reads_nil rfl
  exact (hnew.foldl_withCapability c.capabilities).foldl_withLanguage c.languages

/-! ## Finding agents by their language -/

/-- The language is a condition apart from the others. -/
theorem AgentFilter.accepts_iff_language (f : AgentFilter) (d : AgentDescriptor) :
    f.accepts d = true ↔
      { f with language := none }.accepts d = true ∧ f.language.all d.supportsLanguage = true := by
  simp only [accepts, Bool.and_eq_true, Option.all_none]
  grind

namespace SelectionCriteria

/-- **How an agent is found by a language that it was built with.**  By a target in that language it
always is, as far as the other conditions go; by name, itself or in the criteria of a run, exactly if
the name has no capital letters but plain ones. -/
theorem accepts_of_language {d : AgentDescriptor} {languages : List String} {L : String}
    (hd : d.Reads languages) (hL : L ∈ languages) (c : SelectionCriteria) (t : AnalysisTarget) :
    let others : AgentFilter := { c.filterFor t with language := none }
    (d.supportsLanguage L = true ↔ Text.HasPlainCase L) ∧
    (({ c with language := some L }.filterFor t).accepts d = true ↔
      others.accepts d = true ∧ Text.HasPlainCase L) ∧
    (({ c with language := none }.filterFor (t.withLanguage L)).accepts d = true ↔
      others.accepts d = true) := by
  refine ⟨hd.supportsLanguage_iff hL, ?_, ?_⟩
  · rw [AgentFilter.accepts_iff_language, ← hd.supportsLanguage_iff hL]
    rfl
  · rw [AgentFilter.accepts_iff_language]
    exact and_iff_left (hd.supportsLanguage_lowercase hL)

/-- A checker for two languages. -/
def checker : CommandAgent where
  name := "check"
  command := "check"
  languages := ["C", "Idris"]

theorem accepts_of_language_checker :
    checker.descriptor.supportsLanguage "Idris" = true ∧
      (({ language := some "Idris" } : SelectionCriteria).filterFor { path := "m.c" }).accepts
        checker.descriptor = true ∧
      (({} : SelectionCriteria).filterFor
        (AnalysisTarget.withLanguage { path := "m.c" } "Idris")).accepts
          checker.descriptor = true := by
  obtain ⟨hsupports, hcriteria, htarget⟩ :=
    accepts_of_language (L := "Idris") checker.reads_descriptor (by decide) {} { path := "m.c" }
  have hplain : Text.HasPlainCase "Idris" := by decide +kernel
  have hothers : AgentFilter.accepts {} checker.descriptor = true := by decide +kernel
  exact ⟨hsupports.2 hplain, hcriteria.2 ⟨hothers, hplain⟩, htarget.2 hothers⟩

/-- **Not every agent is found by the language that it was built with**: not by a name that begins
with a capital letter of another kind. -/
theorem not_found_by_language :
    ¬∀ (name L : String) (t : AnalysisTarget),
      let d := ({ name } : AgentDescriptor).withLanguage L
      d.supportsLanguage L = true ∧
        (({ language := some L } : SelectionCriteria).filterFor t).accepts d = true ∧
        (({} : SelectionCriteria).filterFor (t.withLanguage L)).accepts d = true := by
  intro hall
  have hsupports := (hall "check" "Émeraude" { path := "m.c" }).1
  exact absurd hsupports (by decide +kernel)

end SelectionCriteria

end Vigil
