import Vigil.Json.Document
import Vigil.Json.Parser
import Vigil.Json.Tree
import Vigil.Triage.Config
import Vigil.Triage.Provider
import Vigil.Url.Basic

/-!
# Providers that use a service

A provider that uses a service sends it a request over a network and reads the reply.  The network
is a machine over the states of the world, which either brings a reply or does not reach the
service.

There are two kinds of services.  A local service generates a text at no cost; a service for
completions needs a key and bills the tokens it used.  What is configured for a provider determines
its handle in the chain.
-/

namespace Vigil

open Document

/-! ## Exchanges over a network -/

/-- A request to a service. -/
structure ServiceRequest where
  url : String
  /-- The key that the request is authorised by. -/
  key : Option String
  body : Json
deriving Repr

/-- What becomes of a request. -/
inductive Delivery where
  | reply (status : Nat) (body : String)
  | unreachable
  | timedOut
deriving DecidableEq, Repr

/-- A network over the states `σ` of the world. -/
abbrev Network (σ : Type) := ServiceRequest → σ → Delivery × σ

/-- A network on which nothing can be reached. -/
def Network.down {σ : Type} : Network σ :=
  fun _ w => (.unreachable, w)

namespace Delivery

/-- Does a status say that the request succeeded? -/
def isSuccess (status : Nat) : Bool :=
  200 ≤ status && status < 300

/-- The usual phrases for statuses. -/
def phrases : List (Nat × String) :=
  [(100, "Continue"), (101, "Switching Protocols"), (102, "Processing"), (200, "OK"),
    (201, "Created"), (202, "Accepted"), (203, "Non Authoritative Information"),
    (204, "No Content"), (205, "Reset Content"), (206, "Partial Content"), (207, "Multi-Status"),
    (208, "Already Reported"), (226, "IM Used"), (300, "Multiple Choices"),
    (301, "Moved Permanently"), (302, "Found"), (303, "See Other"), (304, "Not Modified"),
    (305, "Use Proxy"), (307, "Temporary Redirect"), (308, "Permanent Redirect"),
    (400, "Bad Request"), (401, "Unauthorized"), (402, "Payment Required"), (403, "Forbidden"),
    (404, "Not Found"), (405, "Method Not Allowed"), (406, "Not Acceptable"),
    (407, "Proxy Authentication Required"), (408, "Request Timeout"), (409, "Conflict"),
    (410, "Gone"), (411, "Length Required"), (412, "Precondition Failed"),
    (413, "Payload Too Large"), (414, "URI Too Long"), (415, "Unsupported Media Type"),
    (416, "Range Not Satisfiable"), (417, "Expectation Failed"), (418, "I'm a teapot"),
    (421, "Misdirected Request"), (422, "Unprocessable Entity"), (423, "Locked"),
    (424, "Failed Dependency"), (426, "Upgrade Required"), (428, "Precondition Required"),
    (429, "Too Many Requests"), (431, "Request Header Fields Too Large"),
    (451, "Unavailable For Legal Reasons"), (500, "Internal Server Error"),
    (501, "Not Implemented"), (502, "Bad Gateway"), (503, "Service Unavailable"),
    (504, "Gateway Timeout"), (505, "HTTP Version Not Supported"),
    (506, "Variant Also Negotiates"), (507, "Insufficient Storage"), (508, "Loop Detected"),
    (510, "Not Extended"), (511, "Network Authentication Required")]

/-- A status with its phrase. -/
def statusText (status : Nat) : String :=
  match phrases.find? (·.1 == status) with
  | some (_, phrase) => s!"{status} {phrase}"
  | none => s!"{status} <unknown status code>"

end Delivery

variable {σ ν : Type} [Quantity ν]

/-! ## A local service -/

/-- A provider that uses a local service. -/
structure LocalService where
  name : String
  model : String
  base : String
deriving DecidableEq, Repr

namespace LocalService

/-- Where the service is found unless it is configured otherwise. -/
def standardBase : String := "http://localhost:11434"

/-- The service at a base address; slashes at its end do not matter. -/
def at? (name model : String) (base : Option String) : LocalService where
  name := name
  model := model
  base := String.ofList
    (((base.getD standardBase).toList.reverse.dropWhile (· == '/')).reverse)

/-- The address that requests are sent to, as it is configured. -/
def url (s : LocalService) : String :=
  s.base ++ "/api/generate"

/-- The normal form of the address that requests are sent to. -/
def address (s : LocalService) : String :=
  ((Url.parse? s.url).map Url.text).getD s.url

/-- What is sent for a request. -/
def message (s : LocalService) (r : Request) : ServiceRequest where
  url := s.address
  key := none
  body := .object
    [("model", .text s.model),
      ("options", .object
        [("num_predict", Json.word32 r.maxTokens), ("temperature", Json.float r.temperature)]),
      ("prompt", .text r.context), ("stream", .bool false), ("system", .text r.prompt)]

/-- The text that a reply holds, if the reply can be read. -/
def generated? (body : String) : Option String :=
  match Json.parse body with
  | .error _ => none
  | .ok v =>
    ((Record.defaulted "response" Document.text "").decode "GenerateResponse" v).toOption

/-- What a delivery means. -/
def read (s : LocalService) : Delivery → Except (ProviderError ν) (Response ν)
  | .unreachable | .timedOut =>
    .error (.unavailable s!"{s.name} at {s.base}: error sending request for url ({s.address})")
  | .reply status body =>
    if Delivery.isSuccess status then
      match generated? body with
      | none => .error (.invalidResponse "error decoding response body")
      | some text =>
        if (Text.trim text).isEmpty then .error (.invalidResponse "empty response")
        else .ok ⟨text, Quantity.decimal 6 1, s.name, s.model, 0⟩
    else .error (.request s!"{s.name} returned status {Delivery.statusText status}")

/-- The provider that uses the service over a network.  Without a proper address nothing is sent. -/
def provider (s : LocalService) (network : Network σ) : Provider σ ν where
  name := s.name
  model := s.model
  estimate _ _ := 0
  classify r w :=
    match Url.parse? s.url with
    | none => (.error (.request "builder error"), w)
    | some _ =>
      let (delivery, w) := network (s.message r) w
      (s.read delivery, w)

end LocalService

/-! ## Completions -/

/-- A provider that uses a service for completions. -/
structure CompletionService (ν : Type) where
  name : String
  model : String
  base : String
  key : Option String
  costPerThousandTokens : ν
  timeoutMs : Nat
deriving DecidableEq, Repr

/-- What a reply of the service holds: the contents of its choices, and the tokens it used. -/
structure Completion where
  choices : List (Option String)
  usage : Option (UInt32 × UInt32)
deriving DecidableEq, Repr

namespace Completion

/-- The tokens that a prompt and its completion used. -/
def usageFields : Record Json (UInt32 × UInt32) :=
  Prod.mk
    <$> Record.required "prompt_tokens" Document.word32
    <*> Record.required "completion_tokens" Document.word32

/-- The content of a choice. -/
def choiceFields : Record Json (Option String) :=
  Record.required "message"
    ((Record.optional "content" Document.text).decode "ChatCompletionResponseMessage")

/-- The fields of a reply. -/
def fields : Record Json Completion :=
  Completion.mk
    <$> Record.required "choices" (listOf (choiceFields.decode "ChatChoice"))
    <*> Record.optional "usage" (usageFields.decode "CompletionUsage")

/-- The completion that the body of a reply holds. -/
def ofBody? (body : String) : Option Completion :=
  match Json.parse body with
  | .error _ => none
  | .ok v => (fields.decode "CreateChatCompletionResponse" v).toOption

/-- The tokens that were billed, if the reply says so. -/
def billedTokens? (c : Completion) : Option Nat :=
  c.usage.map fun (p, q) => p.toNat + q.toNat

end Completion

namespace CompletionService

/-- Where the service is found unless it is configured otherwise. -/
def standardBase : String := "https://api.openai.com/v1"

/-- The price of some tokens. -/
def price (s : CompletionService ν) (tokens : Nat) : ν :=
  Quantity.ofNat tokens / Quantity.ofNat 1000 * s.costPerThousandTokens

/-- What a request is expected to cost. -/
def estimate (s : CompletionService ν) (r : Request) : ν :=
  s.price r.tokens

/-- What is sent for a request. -/
def message (s : CompletionService ν) (r : Request) : ServiceRequest where
  url := s.base ++ "/chat/completions"
  key := s.key
  body := .object
    [("max_completion_tokens", Json.word32 r.maxTokens),
      ("messages", .list
        [.object [("content", .text r.prompt), ("role", .text "system")],
          .object [("content", .text r.context), ("role", .text "user")]]),
      ("model", .text s.model), ("temperature", Json.float r.temperature)]

/-- A time as a reader writes it. -/
def timeText (ms : Nat) : String :=
  if ms < 1000 then s!"{ms}ms"
  else if ms % 1000 = 0 then s!"{ms / 1000}s"
  else
    let fraction := Decimal.stripZeros ((Decimal.digits (1000 + ms % 1000)).drop 1)
    s!"{ms / 1000}.{String.ofList fraction}s"

/-- The response that a completion makes. -/
def response (s : CompletionService ν) (r : Request) (c : Completion) :
    Except (ProviderError ν) (Response ν) :=
  let cost := (c.billedTokens?.map s.price).getD (s.estimate r)
  match c.choices with
  | some content :: _ => .ok ⟨content, Quantity.decimal 7 1, s.name, s.model, cost⟩
  | _ => .error (.invalidResponse "empty completion")

/-- What a delivery means. -/
def read (s : CompletionService ν) (r : Request) : Delivery → Except (ProviderError ν) (Response ν)
  | .timedOut => .error (.unavailable s!"{s.name} timed out after {timeText s.timeoutMs}")
  | .unreachable => .error (.request "http error: error sending request")
  | .reply status body =>
    if Delivery.isSuccess status then
      match Completion.ofBody? body with
      | none => .error (.request "failed to deserialize api response")
      | some c => s.response r c
    else .error (.request s!"{s.name} returned status {Delivery.statusText status}")

/-- The provider that uses the service over a network.  Without a key nothing is sent. -/
def provider (s : CompletionService ν) (network : Network σ) : Provider σ ν where
  name := s.name
  model := s.model
  estimate r _ := s.estimate r
  classify r w :=
    match s.key with
    | none => (.error (.unavailable s!"{s.name}: API key not configured"), w)
    | some _ =>
      let (delivery, w) := network (s.message r) w
      (s.read r delivery, w)

end CompletionService

/-! ## Configured providers -/

namespace ProviderConfig

/-- The key of a provider: the value of its variable, if it is not empty. -/
def key? (c : ProviderConfig ν) (environment : String → Option String) : Option String :=
  (c.keyVariable.bind environment).filter (· != "")

/-- The provider that is configured. -/
def provider (c : ProviderConfig ν) (environment : String → Option String) (network : Network σ) :
    Provider σ ν :=
  match c.kind with
  | .ollama => (LocalService.at? c.name c.model c.baseUrl).provider network
  | .openai =>
    let s : CompletionService ν := {
      name := c.name
      model := c.model
      base := c.baseUrl.getD CompletionService.standardBase
      key := c.key? environment
      costPerThousandTokens := c.costPerThousandTokens
      timeoutMs := max c.timeoutSecs.toNat 1 * 1000 }
    s.provider network

/-- The handle that is configured. -/
def handle (c : ProviderConfig ν) (environment : String → Option String) (network : Network σ) :
    Handle σ ν where
  provider := c.provider environment network
  priority := c.priority
  maxCostPerCall := c.maxCostPerCall
  enabled := c.enabled

end ProviderConfig

end Vigil
