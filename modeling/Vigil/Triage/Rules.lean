import Vigil.Finding.Basic
import Vigil.Pattern.Match
import Vigil.Pattern.Parser

/-!
# Rules

The rules judge a finding without any provider.  A signature describes a known kind of false
positive by a pattern for the file, the function or the description; the first signature that
matches dismisses the finding.  Without a match, a finding is dismissed only if its confidence is
below a threshold.
-/

namespace Vigil

variable {ν : Type}

/-- The part of a finding that a signature looks at. -/
inductive SignatureField where
  | file | function | description | any
deriving DecidableEq, Repr, Inhabited

namespace SignatureField

/-- All fields with their names. -/
def table : List (String × SignatureField) :=
  [("file", file), ("function", function), ("description", description), ("any", any)]

/-- The name of a field. -/
def name : SignatureField → String
  | file => "file"
  | function => "function"
  | description => "description"
  | any => "any"

end SignatureField

/-- A known kind of false positive. -/
structure FalsePositiveSignature where
  findingType : Option String := none
  field : SignatureField := .any
  pattern : String
  reason : String
deriving DecidableEq, Repr, Inhabited

namespace FalsePositiveSignature

/-- Findings in tests and mocks. -/
def testCode : FalsePositiveSignature where
  field := .file
  pattern := "(?i)(^|/)(test|tests|mock|mocks)/|\\.t\\.sol$|(^|/)mock[^/]*$"
  reason := "finding located in test or mock code"

/-- Findings in the code of others. -/
def thirdParty : FalsePositiveSignature where
  field := .file
  pattern := "(^|/)(node_modules|vendor|lib/openzeppelin-contracts)/"
  reason := "finding located in third-party dependency"

/-- Reentrancy where a guard is named. -/
def reentrancyGuard : FalsePositiveSignature where
  findingType := some "reentrancy"
  pattern := "\\bnonReentrant\\b"
  reason := "function is protected by a reentrancy guard"

/-- Access control where a modifier is named. -/
def accessModifier : FalsePositiveSignature where
  findingType := some "access-control"
  pattern := "\\bonly(Owner|Role|Admin)\\b"
  reason := "function is protected by an access-control modifier"

/-- The signatures that are always there, in order. -/
def builtIn : List FalsePositiveSignature :=
  [testCode, thirdParty, reentrancyGuard, accessModifier]

/-- Does the signature concern findings of this type?  Case does not matter for the 26 plain
letters. -/
def concerns (s : FalsePositiveSignature) (f : Finding ν) : Bool :=
  s.findingType.all fun t => Text.eqPlainCase t f.findingType

end FalsePositiveSignature

namespace SignatureField

/-- The texts of a finding that a field selects. -/
def texts (field : SignatureField) (f : Finding ν) : List String :=
  let function := f.location.function.getD ""
  match field with
  | file => [f.location.file]
  | .function => [function]
  | description => [f.description]
  | any => [f.location.file, function, f.description]

end SignatureField

/-- What the rules say about a finding. -/
structure RuleVerdict (ν : Type) where
  truePositive : Bool
  confidence : ν
  rationale : String
deriving DecidableEq, Repr

/-- The signatures whose patterns could be read, and the threshold of confidence. -/
structure RuleClassifier (ν : Type) where
  signatures : List (FalsePositiveSignature × Pattern)
  minConfidence : ν

namespace RuleClassifier

/-- Read the patterns of some signatures; a signature whose pattern is none is left out. -/
def compile (signatures : List FalsePositiveSignature) :
    List (FalsePositiveSignature × Pattern) :=
  signatures.filterMap fun s => (Pattern.parse? s.pattern).map fun p => (s, p)

/-- The classifier with these signatures and this threshold. -/
def of (signatures : List FalsePositiveSignature) (minConfidence : ν) : RuleClassifier ν :=
  ⟨compile signatures, minConfidence⟩

/-- Does a signature match a finding? -/
def signatureMatches (s : FalsePositiveSignature × Pattern) (f : Finding ν) : Bool :=
  s.1.concerns f && (s.1.field.texts f).any s.2.isMatch

/-- The first signature that matches a finding. -/
def firstMatch? (c : RuleClassifier ν) (f : Finding ν) : Option FalsePositiveSignature :=
  (c.signatures.find? fun s => signatureMatches s f).map (·.1)

variable [Quantity ν]

/-- The classifier with the built-in signatures and the usual threshold. -/
def standard : RuleClassifier ν :=
  of FalsePositiveSignature.builtIn (Quantity.decimal 2 1)

/-- The rationale for a finding of low confidence. -/
def lowConfidenceText (confidence threshold : ν) : String :=
  s!"confidence {Quantity.fixed 2 confidence} below threshold {Quantity.fixed 2 threshold}"

/-- Judge a finding. -/
def classify (c : RuleClassifier ν) (f : Finding ν) : RuleVerdict ν :=
  match c.firstMatch? f with
  | some s => ⟨false, Quantity.decimal 7 1, s.reason⟩
  | none =>
    if Quantity.below f.confidence c.minConfidence then
      ⟨false, Quantity.decimal 5 1, lowConfidenceText f.confidence c.minConfidence⟩
    else ⟨true, f.confidence, "no known false-positive signature matched"⟩

end RuleClassifier

end Vigil
