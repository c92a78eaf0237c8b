import PatchSearch.Generation.Generator
import PatchSearch.Json.Decode
import PatchSearch.Json.Writer

namespace PatchSearch

/-- The kinds of service, by the form of their requests. -/
inductive Service where
  | openai
  | ollama
deriving Repr, DecidableEq

namespace Service

def all : List Service := [.openai, .ollama]

def name : Service → String
  | .openai => "openai"
  | .ollama => "ollama"

/-- The service with exactly this name. -/
def ofName? (s : String) : Option Service :=
  all.find? fun service => service.name = s

def normalise (s : String) : String :=
  String.ofList (s.toList.map Char.toLower)

/-- The service with this name in capital or small letters. -/
def read? (s : String) : Option Service :=
  ofName? (normalise s)

def parse (s : String) : Except UnknownName Service :=
  (read? s).elim (.error ⟨"generation backend", normalise s⟩) .ok

def request : Service → String
  | .openai => "chat completion request"
  | .ollama => "ollama request"

/-- Where the service is unless it is said otherwise. -/
def standardUrl : Service → String
  | .openai => "https://api.openai.com/v1"
  | .ollama => "http://localhost:11434"

end Service

abbrev Environment := String → Option String

def keyVariable : String := "PATCHFORGE_LLM_API_KEY"

def endpointVariable : String := "PATCHFORGE_LLM_ENDPOINT"

def modelVariable : String := "PATCHFORGE_LLM_MODEL"

structure Client where
  service : Service
  url : String
  key : String
  model : String
  temperature : Decimal.Single
  maxTokens : Option Nat
  /-- Seconds that a request may take. -/
  timeout : Option UInt64
deriving Repr

namespace Client

/-- A path without slashes at its end. -/
def dropSlashes (url : String) : String :=
  String.ofList (url.toList.reverse.dropWhile (· = '/')).reverse

def standardModel : String := "gpt-4o-mini"

def of (service : Service) (url key model : String) : Client :=
  ⟨service, dropSlashes url, key, model, .ofFloat32 0.7, none, none⟩

/-- A client for a hosted service, which asks for a key. -/
def ofEnvironment (env : Environment) : Except Failure Client :=
  match env keyVariable with
  | none => .error (.ofText (keyVariable ++ " not set"))
  | some key =>
    .ok (of .openai ((env endpointVariable).getD Service.openai.standardUrl) key
      ((env modelVariable).getD standardModel))

/-- A client for a service of one's own, which may do without a key. -/
def ofEnvironmentAt (env : Environment) (url : String) : Client :=
  of .openai url ((env keyVariable).getD "") ((env modelVariable).getD standardModel)

/-- Asks the service for a text. There is no network to send the request through. -/
def backend {ω : Type} (c : Client) : Backend ω := fun _ =>
  return .error (.ofText (c.service.request ++ " failed: " ++ c.url ++ " cannot be reached"))

def isReachable (_ : Client) : Bool := false

end Client

/-- Settings for a service; what is left out has its standard value. -/
structure ServiceConfig where
  service : Service
  model : Option String
  endpoint : Option String
  timeout : Option UInt64
  temperature : Option Decimal.Single
deriving Repr

namespace ServiceConfig

def toJson (c : ServiceConfig) : Json :=
  Json.compactObject [("kind", some (.string c.service.name)), ("model", c.model.map .string),
    ("endpoint", c.endpoint.map .string),
    ("timeout_secs", c.timeout.map fun n => .natural n.toNat),
    ("temperature", c.temperature.map .single)]

def ofJson? (j : Json) : Option ServiceConfig := do
  let r ← j.record? ["kind", "model", "endpoint", "timeout_secs", "temperature"]
  return {
    service := ← r.required "kind" (Json.choice? Service.ofName?)
    model := ← r.defaulted "model" none (Json.option? Json.string?)
    endpoint := ← r.defaulted "endpoint" none (Json.option? Json.string?)
    timeout := ← r.defaulted "timeout_secs" none (Json.option? Json.word?)
    temperature := ← r.defaulted "temperature" none (Json.option? Json.single?) }

/-- The client that the settings and the environment describe. -/
def connect (c : ServiceConfig) (env : Environment) : Except Failure Client :=
  match c.service with
  | .openai => do
    let client ← match c.endpoint with
      | some url => pure (Client.ofEnvironmentAt env url)
      | none => Client.ofEnvironment env
    return { client with
      model := c.model.getD client.model
      temperature := c.temperature.getD client.temperature
      timeout := c.timeout }
  | .ollama =>
    match c.model with
    | none => .error (.ofText "the ollama backend needs a model name")
    | some model =>
      .ok { Client.of .ollama (c.endpoint.getD Service.ollama.standardUrl) "" model with
        timeout := c.timeout }

end ServiceConfig

end PatchSearch
