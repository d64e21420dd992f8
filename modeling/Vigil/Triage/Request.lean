import Vigil.Finding.Codec
import Vigil.Json.Printer
import Vigil.Text.Utf8

/-!
# Classification requests

A request asks a provider about one finding.  The prompt is always the same; the context is a JSON
text with what the provider may know of the finding.
-/

namespace Vigil

/-- A question to a provider.  The temperature is in single precision. -/
structure Request where
  prompt : String
  context : String
  maxTokens : UInt32
  temperature : Float
deriving DecidableEq, Repr, Inhabited

namespace Request

/-- What every provider is told. -/
def triagePrompt : String :=
  "You are a security triage assistant. Decide whether the finding below is a true positive " ++
  "or a false positive. Reply with ONLY one JSON object: \x7b\"verdict\": \"true_positive\" | " ++
  "\"false_positive\", \"severity\": \"critical|high|medium|low|informational\" (optional), " ++
  "\"confidence\": 0.0-1.0, \"rationale\": \"one sentence\"\x7d."

variable {ν : Type} [Quantity ν]

/-- What a provider may know of a finding. -/
def contextOf (f : Finding ν) : Json :=
  .object
    [("confidence", Json.float (Quantity.toDouble f.confidence)),
      ("description", .text f.description), ("file", .text f.location.file),
      ("function", Json.orNull (f.location.function.map Json.Tree.text)),
      ("lines", .list [Json.word32 f.location.startLine, Json.word32 f.location.endLine]),
      ("reported_by", Json.texts f.agents.toList), ("severity", f.severity.toJson),
      ("type", .text f.findingType)]

/-- The request about a finding. -/
def about (f : Finding ν) (maxTokens : UInt32) (temperature : Float) : Request where
  prompt := triagePrompt
  context := Json.print (contextOf f)
  maxTokens := maxTokens
  temperature := temperature

/-- An estimate of the tokens of a request and its answer: four bytes are about one token. -/
def tokens (r : Request) : Nat :=
  (Text.byteSize r.prompt + Text.byteSize r.context + 3) / 4 + r.maxTokens.toNat

/-! ## Form -/

/-- The request as an object. -/
def toJson (r : Request) : Json :=
  .object
    [("context", .text r.context), ("max_tokens", Json.word32 r.maxTokens),
      ("prompt", .text r.prompt), ("temperature", Json.float r.temperature)]

end Request

end Vigil
