import Vigil.Proofs.Double
import Vigil.Proofs.Normalize.Batch
import Vigil.Proofs.Normalize.FixedPoint
import Vigil.Proofs.Triage.Paths
import Vigil.Triage.Engine

/-!
# What a signature does

A classifier dismisses a finding by the first of its signatures that matches, or else because its
confidence is below the threshold.  So whoever adds signatures, in whatever places, or raises the
threshold, has more findings dismissed and no others; and whoever adds them behind the others does
not touch what the others have to say.  Patterns that cannot be read count for nothing in either
case.

* `firstMatch?_append` -- signatures that stand behind others are asked only if none of the others
  matches;
* `truePositive_classify_iff` -- a finding is believed exactly if no signature matches it and its
  confidence is not below the threshold;
* `rationale_classify_builtIn` -- **for which paths the built-in signatures give their reasons**;
* `classify_with_more_rules` -- **more signatures and a higher threshold**, and what this says of the
  signatures that come from a configuration;
* `classify_of_named_type` -- **what becomes of a finding that a signature for its type matches**,
  and `not_dismissed_of_named_type` -- the input for which it is not dismissed.
-/

namespace Vigil

theorem Double.lt_of_lt_of_le {x y z : Float} (hxy : x < y) (hyz : y ≤ z) : x < z := by
  rw [Double.lt_iff] at hxy ⊢
  rw [Double.le_iff] at hyz
  exact ⟨⟨hxy.1.1, hyz.1.2⟩, hxy.2.trans_le hyz.2⟩

namespace RuleClassifier

open FalsePositiveSignature

variable {ν : Type} {S T : List FalsePositiveSignature} {s : FalsePositiveSignature}
  {c : RuleClassifier ν} {f : Finding ν}

/-! ## The signatures that can be read -/

theorem compile_append (S T : List FalsePositiveSignature) :
    compile (S ++ T) = compile S ++ compile T :=
  List.filterMap_append

theorem compile_cons_of_parse? {p : Pattern} (h : Pattern.parse? s.pattern = some p)
    (S : List FalsePositiveSignature) : compile (s :: S) = (s, p) :: compile S :=
  List.filterMap_cons_some (by rw [h, Option.map_some])

theorem sublist_compile (h : S.Sublist T) : (compile S).Sublist (compile T) :=
  h.filterMap _

/-! ## The first one that matches -/

theorem firstMatch?_eq_none_iff {m : ν} :
    (of S m).firstMatch? f = none ↔ ∀ s ∈ compile S, signatureMatches s f = false := by
  simp [firstMatch?, of]

/-- The first signature that matches is one of the given ones. -/
theorem mem_of_firstMatch?_eq_some {m : ν} (h : (of S m).firstMatch? f = some s) : s ∈ S := by
  obtain ⟨⟨s', p⟩, hfound, rfl⟩ := Option.map_eq_some_iff.1 h
  obtain ⟨t, ht, hp⟩ := List.mem_filterMap.1 (List.mem_of_find?_eq_some hfound)
  obtain ⟨_, -, heq⟩ := Option.map_eq_some_iff.1 hp
  obtain ⟨rfl, -⟩ := Prod.mk.inj heq
  exact ht

/-- Fewer signatures match nothing that more of them do not match. -/
theorem firstMatch?_eq_none_of_sublist {m m' : ν} (h : S.Sublist T)
    (hT : (of T m').firstMatch? f = none) : (of S m).firstMatch? f = none := by
  rw [firstMatch?_eq_none_iff] at hT ⊢
  intro s hs
  exact hT s ((sublist_compile h).subset hs)

/-- **Signatures behind others are asked only if none of the others matches.** -/
theorem firstMatch?_append (m : ν) :
    (of (S ++ T) m).firstMatch? f = ((of S m).firstMatch? f).or ((of T m).firstMatch? f) := by
  simp only [firstMatch?, of, compile_append, List.find?_append]
  cases (compile S).find? (signatureMatches · f) <;> rfl

/-- A signature that can be read is asked before those behind it. -/
theorem firstMatch?_cons {p : Pattern} (hp : Pattern.parse? s.pattern = some p) (m : ν) :
    (of (s :: S) m).firstMatch? f =
      if signatureMatches (s, p) f then some s else (of S m).firstMatch? f := by
  simp only [firstMatch?, of, compile_cons_of_parse? hp, List.find?_cons]
  cases signatureMatches (s, p) f <;> rfl

/-- A signature for another type is as good as none. -/
theorem firstMatch?_cons_of_not_concerns (h : s.concerns f = false) (m : ν) :
    (of (s :: S) m).firstMatch? f = (of S m).firstMatch? f := by
  cases hp : Pattern.parse? s.pattern with
  | none =>
    have hcompile : compile (s :: S) = compile S :=
      List.filterMap_cons_none (by rw [hp, Option.map_none])
    rw [of, hcompile, of]
  | some p =>
    rw [firstMatch?_cons hp, signatureMatches, h, Bool.false_and]
    rfl

/-! ### The built-in signatures -/

theorem signatureMatches_file {p : Pattern} (htype : s.findingType = none)
    (hfield : s.field = .file) :
    signatureMatches (s, p) f = p.isMatch f.location.file := by
  simp [signatureMatches, concerns, htype, hfield, SignatureField.texts]

/-- **Which of the built-in signatures comes first.** -/
theorem firstMatch?_builtIn {m : ν} :
    (of builtIn m).firstMatch? f =
      if IsTestCode f.location.file.toList then some testCode
      else if IsThirdParty f.location.file.toList then some thirdParty
      else (of [reentrancyGuard, accessModifier] m).firstMatch? f := by
  rw [builtIn, firstMatch?_cons parse?_testCode, firstMatch?_cons parse?_thirdParty,
    signatureMatches_file rfl rfl, signatureMatches_file rfl rfl]
  simp only [isMatch_testPattern, isMatch_thirdPartyPattern]

/-! ## The verdict -/

variable [Quantity ν]

theorem classify_of_firstMatch?_eq_some (h : c.firstMatch? f = some s) :
    c.classify f = ⟨false, Quantity.decimal 7 1, s.reason⟩ := by
  rw [classify, h]

/-- The judgement depends on the signatures through the first that matches only. -/
theorem classify_congr {c c' : RuleClassifier ν} (h : c.firstMatch? f = c'.firstMatch? f)
    (hm : c.minConfidence = c'.minConfidence) : c.classify f = c'.classify f := by
  rw [classify, classify, h, hm]

/-- **When a finding is believed.** -/
theorem truePositive_classify_iff :
    (c.classify f).truePositive = true ↔
      c.firstMatch? f = none ∧ Quantity.below f.confidence c.minConfidence = false := by
  rw [classify]
  cases c.firstMatch? f with
  | some s => simp
  | none => cases Quantity.below f.confidence c.minConfidence <;> simp

/-- There is only one way to believe a finding. -/
theorem classify_of_truePositive (h : (c.classify f).truePositive = true) :
    c.classify f = ⟨true, f.confidence, "no known false-positive signature matched"⟩ := by
  obtain ⟨hnone, hbelow⟩ := truePositive_classify_iff.1 h
  rw [classify, hnone, hbelow]
  rfl

/-! ### The reasons of the built-in signatures -/

theorem lowConfidenceText_ne {x y : ν} {reason : String} (h : reason.toList.head? ≠ some 'c') :
    lowConfidenceText x y ≠ reason := by
  rintro rfl
  have hfirst : (toString "confidence ").toList.head? = some 'c' := by decide
  refine h ?_
  simp only [lowConfidenceText, String.toList_append, List.head?_append, hfirst, Option.some_or]

/-- A reason that is neither of those given without a signature is one of the first signature that
matches. -/
theorem rationale_classify_eq_iff {reason : String} (hlow : reason.toList.head? ≠ some 'c')
    (hnone : "no known false-positive signature matched" ≠ reason) :
    (c.classify f).rationale = reason ↔ ∃ s, c.firstMatch? f = some s ∧ s.reason = reason := by
  rw [classify]
  cases c.firstMatch? f with
  | some s => simp
  | none =>
    simp only [reduceCtorEq, false_and, exists_false, iff_false]
    split
    · exact lowConfidenceText_ne hlow
    · exact hnone

/-- **The built-in rules give their two reasons for the paths they are about**, and for no others:
the first for tests and mocks, the second for the code of others that is neither. -/
theorem rationale_classify_builtIn (f : Finding ν) (m : ν) :
    (((of builtIn m).classify f).rationale = "finding located in test or mock code" ↔
      IsTestCode f.location.file.toList) ∧
    (((of builtIn m).classify f).rationale = "finding located in third-party dependency" ↔
      ¬IsTestCode f.location.file.toList ∧ IsThirdParty f.location.file.toList) := by
  have hguards {reason : String}
      (h : reason ≠ reentrancyGuard.reason ∧ reason ≠ accessModifier.reason) :
      ¬∃ s, (of [reentrancyGuard, accessModifier] m).firstMatch? f = some s ∧ s.reason = reason := by
    rintro ⟨s, hs, rfl⟩
    rcases List.mem_pair.1 (mem_of_firstMatch?_eq_some hs) with rfl | rfl
    · exact h.1 rfl
    · exact h.2 rfl
  rw [rationale_classify_eq_iff (by decide) (by decide),
    rationale_classify_eq_iff (by decide) (by decide), firstMatch?_builtIn]
  by_cases htest : IsTestCode f.location.file.toList
  · simp [htest, testCode]
  · by_cases hthird : IsThirdParty f.location.file.toList
    · simp [htest, hthird, thirdParty]
    · simp only [htest, hthird, if_false, and_false, iff_false]
      exact ⟨hguards (by decide), hguards (by decide)⟩

end RuleClassifier

/-! ## Doubles as thresholds -/

namespace RuleClassifier

variable {S T : List FalsePositiveSignature} {f : Finding Float}

/-- What is not below a threshold is not below a lower one. -/
theorem below_eq_false_of_le {x m m' : Float} (hm : m ≤ m') (h : Quantity.below x m' = false) :
    Quantity.below x m = false := by
  have hnot : ¬x < m' := of_decide_eq_false h
  exact decide_eq_false fun hlt => hnot (Double.lt_of_lt_of_le hlt hm)

/-- **What more signatures and a higher threshold believe, fewer and a lower one believe too**, in
the same words. -/
theorem classify_of_sublist {m m' : Float} (h : S.Sublist T) (hm : m ≤ m')
    (hT : ((of T m').classify f).truePositive = true) :
    (of S m).classify f = (of T m').classify f := by
  obtain ⟨hnone, hbelow⟩ := truePositive_classify_iff.1 hT
  have hnone' : (of S m).firstMatch? f = none := firstMatch?_eq_none_of_sublist h hnone
  have hS : ((of S m).classify f).truePositive = true :=
    truePositive_classify_iff.2 ⟨hnone', below_eq_false_of_le hm hbelow⟩
  rw [classify_of_truePositive hS, classify_of_truePositive hT]

/-- **Signatures behind others leave the others' verdicts as they are**, whatever the threshold. -/
theorem classify_append_of_firstMatch?_eq_some {m m' : Float} {s : FalsePositiveSignature}
    (h : (of S m).firstMatch? f = some s) :
    (of (S ++ T) m').classify f = (of S m).classify f := by
  have hfirst : (of (S ++ T) m').firstMatch? f = some s := by
    have hS : (of S m').firstMatch? f = some s := h
    rw [firstMatch?_append, hS, Option.some_or]
  rw [classify_of_firstMatch?_eq_some hfirst, classify_of_firstMatch?_eq_some h]

/-- **More rules dismiss more, and for the old reasons first.**  If signatures are added, in
whatever places, and the threshold is not lowered, then what is still believed was believed before;
if they are added behind the others, then what one of the others dismisses is dismissed in the same
words, whatever becomes of the threshold.  So it is with the signatures of a configuration, which
stand behind the built-in ones. -/
theorem classify_with_more_rules {σ : Type} (f : Finding Float) :
    (∀ S T m m', S.Sublist T → m ≤ m' → ((of T m').classify f).truePositive = true →
      ((of S m).classify f).truePositive = true) ∧
    (∀ S T m m' s, (of S m).firstMatch? f = some s →
      ((of S m).classify f).truePositive = false ∧
        (of (S ++ T) m').classify f = (of S m).classify f) ∧
    ∀ config : TriageConfig Float,
      let builtIn := of FalsePositiveSignature.builtIn config.minRuleConfidence
      let rules := (TriageEngine.of config : TriageEngine σ Float).rules
      ((rules.classify f).truePositive = true → (builtIn.classify f).truePositive = true) ∧
        ((builtIn.firstMatch? f).isSome = true → rules.classify f = builtIn.classify f) := by
  refine ⟨fun S T m m' h hm hT => ?_, fun S T m m' s h => ⟨?_, ?_⟩, fun config => ⟨?_, ?_⟩⟩
  · rwa [classify_of_sublist h hm hT]
  · rw [classify_of_firstMatch?_eq_some h]
  · exact classify_append_of_firstMatch?_eq_some h
  · -- The threshold is the same, but need not be a number, so it is not compared with itself.
    intro hrules
    obtain ⟨hnone, hbelow⟩ := truePositive_classify_iff.1 hrules
    have hsub := List.sublist_append_left FalsePositiveSignature.builtIn config.signatures
    exact truePositive_classify_iff.2 ⟨firstMatch?_eq_none_of_sublist hsub hnone, hbelow⟩
  · intro hsome
    obtain ⟨s, hs⟩ := Option.isSome_iff_exists.1 hsome
    exact classify_append_of_firstMatch?_eq_some hs

/-- Generated code, by its path. -/
def generatedCode : FalsePositiveSignature where
  field := .file
  pattern := "^gen/"
  reason := "generated code"

/-- Examples, by their path. -/
def exampleCode : FalsePositiveSignature where
  field := .file
  pattern := "/samples/"
  reason := "code of an example"

/-- A signature whose pattern cannot be read. -/
def brokenSignature : FalsePositiveSignature where
  pattern := "([unclosed"
  reason := "never given"

/-- A finding in a file. -/
def leakIn (file : String) : Finding Float where
  id := "scan:leak:7-7"
  findingType := "leak"
  severity := .medium
  confidence := 0.5
  location := { file, startLine := 7, endLine := 7 }
  description := ""
  agents := OrderedSet.singleton "scan"
  status := .pending

theorem classify_with_more_rules_generatedCode :
    let more := [brokenSignature, generatedCode, exampleCode]
    let config : TriageConfig Float := { TriageConfig.standard with signatures := more }
    let builtIn := of FalsePositiveSignature.builtIn config.minRuleConfidence
    let rules := (TriageEngine.of config : TriageEngine Unit Float).rules
    (((of more 0.5).classify (leakIn "src/m.c")).truePositive = true ∧
      ((of [generatedCode] 0.25).classify (leakIn "src/m.c")).truePositive = true) ∧
    (((of [generatedCode] 0.25).classify (leakIn "gen/samples/m.c")).truePositive = false ∧
      (of [generatedCode, exampleCode] 0.75).classify (leakIn "gen/samples/m.c") =
        (of [generatedCode] 0.25).classify (leakIn "gen/samples/m.c")) ∧
    ((rules.classify (leakIn "src/m.c")).truePositive = true ∧
      (builtIn.classify (leakIn "src/m.c")).truePositive = true) ∧
    rules.classify (leakIn "gen/test/m.c") = builtIn.classify (leakIn "gen/test/m.c") := by
  intro more config builtIn rules
  have hsub : [generatedCode].Sublist more := .cons _ (.cons_cons _ (List.nil_sublist _))
  have hmore : ((of more 0.5).classify (leakIn "src/m.c")).truePositive = true := by
    decide +kernel
  have hgenerated : (of [generatedCode] (0.25 : Float)).firstMatch? (leakIn "gen/samples/m.c") =
      some generatedCode := by
    decide +kernel
  have hnone : rules.firstMatch? (leakIn "src/m.c") = none := by
    show (of (FalsePositiveSignature.builtIn ++ more) _).firstMatch? _ = none
    rw [firstMatch?_append, firstMatch?_builtIn, if_neg (by decide +kernel),
      if_neg (by decide +kernel), firstMatch?_cons_of_not_concerns (by decide +kernel),
      firstMatch?_cons_of_not_concerns (by decide +kernel)]
    decide +kernel
  have hrules : (rules.classify (leakIn "src/m.c")).truePositive = true :=
    truePositive_classify_iff.2 ⟨hnone, by decide +kernel⟩
  have htest : (builtIn.firstMatch? (leakIn "gen/test/m.c")).isSome = true := by
    rw [firstMatch?_builtIn, if_pos (by decide +kernel)]
    rfl
  refine ⟨⟨hmore, ?_⟩, ?_, ⟨hrules, ?_⟩, ?_⟩
  · exact (classify_with_more_rules (σ := Unit) (leakIn "src/m.c")).1 _ _ _ _ hsub
      (by decide +kernel) hmore
  · exact (classify_with_more_rules (σ := Unit) (leakIn "gen/samples/m.c")).2.1 [generatedCode]
      [exampleCode] 0.25 0.75 generatedCode hgenerated
  · exact ((classify_with_more_rules (leakIn "src/m.c")).2.2 config).1 hrules
  · exact ((classify_with_more_rules (leakIn "gen/test/m.c")).2.2 config).2 htest

end RuleClassifier

/-!
## Signatures for one type of findings

A signature may name the type of findings that it is about.  The type of a finding is that of its
record in small letters of every script, but it is compared with the name without regard to the case
of the plain letters only.  So a signature that names a type just as the record does is about that
record's finding unless the name has capital letters of other kinds.
-/

section TypeScope

variable {ν : Type}

namespace Normalize

variable [Quantity ν]

/-- The type of a finding is that of its record, trimmed and in small letters. -/
theorem findingType_of_one {agent T : String} {r : RawFields ν} {f : Finding ν}
    (h : one agent (.record r) = .ok f) (hT : r.findingType = some T) :
    f.findingType = Text.lowercase (Text.trim T) := by
  obtain ⟨type, htype, h⟩ := exists_ok_of_bind h
  obtain ⟨file, -, h⟩ := exists_ok_of_bind h
  obtain ⟨line, -, h⟩ := exists_ok_of_bind h
  obtain ⟨severity, -, h⟩ := exists_ok_of_bind h
  obtain ⟨confidence, -, h⟩ := exists_ok_of_bind h
  obtain rfl := Except.ok.inj h
  have htrimmed := trimmed?_of_requiredText htype
  rw [hT, trimmed?_some] at htrimmed
  split at htrimmed
  · cases htrimmed
  · exact congrArg Text.lowercase (Option.some.inj htrimmed).symm

/-- So it is in a batch. -/
theorem findingType_of_findingAt? {agent T : String} {batch : List (RawFinding ν)} {i : Nat}
    {r : RawFields ν} {f : Finding ν} (hr : batch[i]? = some (.record r))
    (hT : r.findingType = some T) (hf : (normalize agent batch).findingAt? i = some f) :
    f.findingType = Text.lowercase (Text.trim T) := by
  obtain ⟨n, hn⟩ := exists_findingAt?_normalize agent batch i
  rw [hf, hr, Option.bind_some] at hn
  obtain ⟨g, hg, rfl⟩ := Option.map_eq_some_iff.1 hn.symm
  cases hone : one agent (.record r) with
  | error reason =>
    rw [hone] at hg
    cases hg
  | ok g' =>
    rw [hone] at hg
    obtain rfl := Option.some.inj hg
    have htype := findingType_of_one hone hT
    exact htype

end Normalize

/-- **A signature is about the type that it names exactly if the name has no capital letters but
plain ones.** -/
theorem FalsePositiveSignature.concerns_iff_hasPlainCase {s : FalsePositiveSignature}
    {f : Finding ν} {T : String} (hs : s.findingType = some T)
    (hf : f.findingType = Text.lowercase T) : s.concerns f = true ↔ Text.HasPlainCase T := by
  rw [concerns, hs, Option.all_some, hf, Text.eqPlainCase_comm, Text.eqPlainCase_lowercase_iff]

namespace RuleClassifier

open Normalize

variable {agent T : String} {batch : List (RawFinding ν)} {i : Nat} {r : RawFields ν}
  {f : Finding ν} {m : ν} {before after : List FalsePositiveSignature}
  {s : FalsePositiveSignature} {p : Pattern}

/-- If no earlier signature matches, the next one is asked. -/
theorem firstMatch?_append_cons (hp : Pattern.parse? s.pattern = some p)
    (hbefore : (of before m).firstMatch? f = none) :
    (of (before ++ s :: after) m).firstMatch? f =
      if signatureMatches (s, p) f then some s else (of (before ++ after) m).firstMatch? f := by
  rw [firstMatch?_append, firstMatch?_append, hbefore, Option.none_or, Option.none_or,
    firstMatch?_cons hp]

variable [Quantity ν]

/-- **A signature that names the type of a record, and whose pattern matches**, dismisses the
finding of that record if the name has no capital letters but plain ones; otherwise it is as if
there were no such signature. -/
theorem classify_of_named_type (hr : batch[i]? = some (.record r)) (hT : r.findingType = some T)
    (htrim : Text.trim T = T) (hf : (normalize agent batch).findingAt? i = some f)
    (hs : s.findingType = some T) (hp : Pattern.parse? s.pattern = some p)
    (hmatch : (s.field.texts f).any p.isMatch = true)
    (hbefore : (of before m).firstMatch? f = none) :
    (Text.HasPlainCase T →
      (of (before ++ s :: after) m).classify f = ⟨false, Quantity.decimal 7 1, s.reason⟩) ∧
    (¬Text.HasPlainCase T →
      (of (before ++ s :: after) m).classify f = (of (before ++ after) m).classify f) := by
  have htype : f.findingType = Text.lowercase T := by
    rw [findingType_of_findingAt? hr hT hf, htrim]
  have hfirst : (of (before ++ s :: after) m).firstMatch? f =
      if Text.HasPlainCase T then some s else (of (before ++ after) m).firstMatch? f := by
    rw [firstMatch?_append_cons hp hbefore, signatureMatches, hmatch, Bool.and_true]
    simp only [FalsePositiveSignature.concerns_iff_hasPlainCase hs htype]
  constructor
  · intro hplain
    rw [if_pos hplain] at hfirst
    exact classify_of_firstMatch?_eq_some hfirst
  · intro hplain
    rw [if_neg hplain] at hfirst
    exact classify_congr hfirst rfl

/-- A record with nothing but a type and a place. -/
def recordOf (type : String) : RawFields Float where
  findingType := some type
  file := some "src/m.c"
  line := some 7

/-- Its finding, whose type is given in small letters. -/
def leakOf (type : String) : Finding Float :=
  { leakIn "src/m.c" with id := s!"scan:{type}:src/m.c:7-7", findingType := type }

/-- A signature for findings of one type in the sources. -/
def sourcesOf (type : String) : FalsePositiveSignature where
  findingType := some type
  field := .file
  pattern := "^src/"
  reason := "known in the sources"

theorem classify_of_named_type_naive :
    (normalize "scan" [.record (recordOf "Naïve-Leak")]).findingAt? 0 = some (leakOf "naïve-leak") ∧
      (of ([generatedCode] ++ sourcesOf "Naïve-Leak" :: []) 0.25).classify (leakOf "naïve-leak") =
        ⟨false, Quantity.decimal 7 1, "known in the sources"⟩ := by
  have hf : (normalize "scan" [.record (recordOf "Naïve-Leak")]).findingAt? 0 =
      some (leakOf "naïve-leak") := by
    decide +kernel
  have hp : Pattern.parse? (sourcesOf "Naïve-Leak").pattern =
      some (.sequence (.look .textStart) (.literal "src/".toList)) := by
    decide +kernel
  refine ⟨hf, (classify_of_named_type rfl rfl ?_ hf rfl hp ?_ ?_).1 ?_⟩ <;> decide +kernel

/-- **Not every signature is about the type that it names**: not if the name begins with a capital
letter of another kind. -/
theorem not_dismissed_of_named_type :
    ¬∀ (agent T : String) (batch : List (RawFinding Float)) (i : Nat) (r : RawFields Float)
      (f : Finding Float) (m : Float) (before after : List FalsePositiveSignature)
      (s : FalsePositiveSignature) (p : Pattern),
      T ≠ "" → Text.trim T = T → batch[i]? = some (.record r) → r.findingType = some T →
      (normalize agent batch).findingAt? i = some f → s.findingType = some T →
      Pattern.parse? s.pattern = some p → (s.field.texts f).any p.isMatch = true →
      (of before m).firstMatch? f = none →
      ((of (before ++ s :: after) m).classify f).truePositive = false := by
  intro hall
  have hdismissed := hall "scan" "Überlauf" [.record (recordOf "Überlauf")] 0 (recordOf "Überlauf")
    (leakOf "überlauf") 0.25 [] [] (sourcesOf "Überlauf")
    (.sequence (.look .textStart) (.literal "src/".toList)) (by decide) (by decide +kernel) rfl rfl
    (by decide +kernel) rfl (by decide +kernel) (by decide +kernel) rfl
  exact absurd hdismissed (by decide +kernel)

end RuleClassifier

end TypeScope

end Vigil
