import Vigil.Finding.Severity
import Vigil.Json.Parser
import Vigil.Quantity
import Vigil.Text.Scan

/-!
# Verdicts

A provider answers in free text that should hold one JSON object with its verdict.  The object may
stand in a code fence or between other words.  Without a readable object, the answer still counts
if it speaks of a true or of a false positive, but not of both.
-/

namespace Vigil

/-- What a provider decided. -/
structure Verdict (ν : Type) where
  truePositive : Bool
  severity : Option Severity
  confidence : Option ν
  rationale : String
deriving DecidableEq, Repr

namespace Verdict

/-! ## Finding the object -/

/-- The mark of a code fence. -/
def fence : List Char := ['\x60', '\x60', '\x60']

/-- A text without a leading part, if it starts with it. -/
def afterPrefix? (lead s : List Char) : Option (List Char) :=
  if lead.isPrefixOf s then some (s.drop lead.length) else none

/-- A text without a trailing part, if it ends with it. -/
def beforeSuffix? (tail s : List Char) : Option (List Char) :=
  if tail.isSuffixOf s then some (s.take (s.length - tail.length)) else none

/-- The text inside a code fence, without outer blanks; the whole text if there is no fence. -/
def unfenced (content : List Char) : List Char :=
  let trimmed := Text.trimChars content
  let opened := afterPrefix? (fence ++ ['j', 's', 'o', 'n']) trimmed <|> afterPrefix? fence trimmed
  ((opened.bind (beforeSuffix? fence)).map Text.trimChars).getD trimmed

/-- The text from the first opening to the last closing brace. -/
def objectText? (s : List Char) : Option (List Char) :=
  let tail := s.dropWhile (· != '\x7b')
  let inner := (tail.reverse.dropWhile (· != '\x7d')).reverse
  if inner.isEmpty then none else some inner

/-! ## Reading the object -/

/-- The members of an object that matter. -/
structure Fields where
  verdict : String
  severity : Option String
  confidence : Option Float
  rationale : Option String
deriving Repr

/-- The keys that matter; each may occur once. -/
def knownKeys : List String := ["verdict", "severity", "confidence", "rationale"]

/-- A member that matters is read as a value; any other is only passed over. -/
def memberValue (depth : Nat) (key : String) : Json.Scan (Option Json) := fun s =>
  if knownKeys.contains key then
    (Json.value Json.Reading.exact depth s).map fun (v, rest) => (some v, rest)
  else (Json.value Json.Reading.structural depth s).map fun (_, rest) => (none, rest)

/-- The members that matter of an object text, in order. -/
def knownMembers? (s : List Char) : Option (List (String × Json)) :=
  match s with
  | '\x7b' :: rest =>
    let members := Json.objectMembers Json.escape (memberValue s.length) (rest.length + 1) true rest
    match members with
    | .ok (ms, left) =>
      if (Json.skipSpaces left).isEmpty then
        some (ms.filterMap fun (k, v) => v.map fun v => (k, v))
      else none
    | .error _ => none
  | _ => none

/-- A text, or nothing for null; any other value is refused. -/
def textOrNull : Json → Option (Option String)
  | .text t => some (some t)
  | .null => some none
  | _ => none

/-- A number, or nothing for null; any other value is refused. -/
def numberOrNull : Json → Option (Option Float)
  | .number (.whole n) => some (some (Float.ofInt n))
  | .number (.real x) => some (some x)
  | .null => some none
  | _ => none

/-- The value of an optional member. -/
def optionalField {α : Type} (members : List (String × Json)) (key : String)
    (read : Json → Option (Option α)) : Option (Option α) :=
  match Json.lookup key members with
  | none => some none
  | some v => read v

/-- The fields of an object text, if it is acceptable. -/
def fields? (s : List Char) : Option Fields := do
  let members ← knownMembers? s
  if (members.map (·.1)).Nodup then
    let verdict ← (Json.lookup "verdict" members).bind textOrNull
    let severity ← optionalField members "severity" textOrNull
    let confidence ← optionalField members "confidence" numberOrNull
    let rationale ← optionalField members "rationale" textOrNull
    some { verdict := ← verdict, severity, confidence, rationale }
  else none

/-! ## Deciding -/

/-- A verdict word in the form in which it is looked up. -/
def wordForm (s : String) : String :=
  (Text.lowercase (Text.trim s)).map fun c => if c == ' ' || c == '-' then '_' else c

/-- What a verdict word means. -/
def ofWord? (word : String) : Option Bool :=
  if ["true_positive", "tp", "confirmed"].contains word then some true
  else if ["false_positive", "fp", "dismissed"].contains word then some false
  else none

variable {ν : Type} [Quantity ν]

/-- The verdict of an object; otherwise the reason why it is none. -/
def ofFields (f : Fields) : Except String (Verdict ν) :=
  match ofWord? (wordForm f.verdict) with
  | none => .error s!"unknown verdict '{wordForm f.verdict}'"
  | some truePositive => .ok {
      truePositive
      severity := f.severity.bind fun s => (Severity.parse s).toOption
      confidence := (f.confidence.filter Float.isFinite).map fun x =>
        Quantity.clampUnit (Quantity.ofDouble x)
      rationale := f.rationale.getD "" }

/-- Does a text speak of a positive of this kind? -/
def speaksOf (kind : String) (s : List Char) : Bool :=
  Text.occursIn (kind ++ " positive").toList s || Text.occursIn (kind ++ "_positive").toList s

/-- The verdict of an answer without an object; otherwise the beginning of the answer. -/
def ofProse (body : List Char) : Except String (Verdict ν) :=
  let lower := Text.lowerChars body
  let dismissing := speaksOf "false" lower
  let confirming := speaksOf "true" lower
  if confirming == dismissing then .error (String.ofList (body.take 120))
  else .ok {
    truePositive := confirming
    severity := none
    confidence := none
    rationale := String.ofList (body.take 200) }

/-- The verdict of an answer; otherwise the reason why it is none. -/
def parse (content : String) : Except String (Verdict ν) :=
  let body := unfenced content.toList
  match (objectText? body).bind fields? with
  | some f => ofFields f
  | none => ofProse body

end Verdict

end Vigil
