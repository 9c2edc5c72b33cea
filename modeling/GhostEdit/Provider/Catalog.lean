import GhostEdit.Provider.Stream
import GhostEdit.Settings.Basic

/-!
# The known providers

Three providers are known. Each is used with a key or a host from the environment; the one named
in the settings gets the configured model, and the first that is available stands in for it.

## Main definitions

* `Environment`, `Provider`, `Provider.catalog`
* `Provider.select`: the provider to use
* `Provider.request`, `Provider.stream`: a request to it, and what comes of that
-/

namespace GhostEdit

/-- The variables of the environment. -/
abbrev Environment := List (String × Text)

/-- The services that are known. -/
inductive Service where
  | xai
  | openai
  | ollama
deriving DecidableEq, Repr, Inhabited

namespace Service

/-- The name of a service. -/
def name : Service → String
  | .xai => "xai"
  | .openai => "openai"
  | .ollama => "ollama"

/-- The services in the order of preference. -/
def all : List Service := [.xai, .openai, .ollama]

/-- The variable that makes a service available. -/
def variableName : Service → String
  | .xai => "XAI_API_KEY"
  | .openai => "OPENAI_API_KEY"
  | .ollama => "OLLAMA_HOST"

/-- The model a service uses unless another is configured. -/
def defaultModel : Service → String
  | .xai => "grok-code-fast-1"
  | .openai => "gpt-4o-mini"
  | .ollama => "qwen2.5-coder"

/-- Whether the variable of a service is set and not empty. -/
def isAvailable (env : Environment) (s : Service) : Bool :=
  ((env.lookup s.variableName).map fun v => !v.isEmpty).getD false

/-- The address of the local server. -/
def localAddress (env : Environment) : Text :=
  let host := (env.lookup "OLLAMA_HOST").getD "http://localhost:11434".toList
  let full := if "http".toList.isPrefixOf host then host else "http://".toList ++ host
  Text.dropEndWhile (· = '/') full ++ "/v1".toList

/-- The address of a service, if it is not the usual one. -/
def address? (env : Environment) : Service → Option Text
  | .xai => some "https://api.x.ai/v1".toList
  | .openai => none
  | .ollama => some (localAddress env)

end Service

/-- A service with its parameters. -/
structure Provider where
  service : Service
  model : Value
  temperature : Value
  maxTokens : Value
  timeout : Value
  address : Option Text
  available : Bool
deriving Inhabited

namespace Provider

/-- The name of a provider. -/
def name (p : Provider) : String := p.service.name

/-- A service as the settings and the environment have it. -/
def ofService (s : Settings) (env : Environment) (service : Service) : Provider :=
  { service
    model :=
      if (s.value .provider).text? = some service.name.toList then s.value .model
      else .ofString service.defaultModel
    temperature := s.value .temperature
    maxTokens := s.value .maxTokens
    timeout := s.value .requestTimeout
    address := service.address? env
    available := service.isAvailable env }

/-- All providers. -/
def catalog (s : Settings) (env : Environment) : List Provider :=
  Service.all.map (ofService s env)

/-- The name that is wanted, if it is the name of an available provider. A value that cannot be a
name is refused. -/
def wantedName (wanted : Value) (available : String → Bool) : Except Failure (Option String) :=
  match wanted with
  | .arr _ => .error (.mismatch (.notName wanted.kind))
  | .obj _ => .error (.mismatch (.notName wanted.kind))
  | v => .ok ((v.text?.map String.ofList).filter available)

/-- The first available provider in the order of preference. -/
def standIn? (available : String → Bool) : Option String :=
  (Service.all.map Service.name).find? available

/-- The choice among named providers: the wanted one if it is available, else the first that is
in the order of preference. -/
def choose (wanted : Value) (available : String → Bool) : Except Failure String := do
  match ← wantedName wanted available, standIn? available with
  | some name, _ => pure name
  | none, some name => pure name
  | none, none => .error (.ofFault .providerConnection "No AI providers available" [])

/-- What is logged about a choice. -/
def chooseLog (wanted : Value) (available : String → Bool) : List Record :=
  match wantedName wanted available, standIn? available with
  | .ok none, some name =>
    let shown := String.ofList wanted.displayText
    [⟨.info, .provider, s!"Provider {shown} unavailable, using {name}"⟩]
  | _, _ => []

/-- Whether a provider with a name is available. -/
def isAvailable (providers : List Provider) (name : String) : Bool :=
  providers.any fun p => p.name = name && p.available

/-- The provider to use. -/
def select (s : Settings) (env : Environment) : Except Failure Provider := do
  let providers := catalog s env
  let chosen ← choose (s.value .provider) (isAvailable providers)
  match providers.find? (·.name = chosen) with
  | some p => pure p
  | none => .error (.ofFault .providerConnection "No AI providers available" [])

/-- What is logged when the provider is selected. -/
def selectLog (s : Settings) (env : Environment) : List Record :=
  chooseLog (s.value .provider) (isAvailable (catalog s env))

/-- One piece of a response: the contents of its choices, or a break. -/
inductive Piece where
  | choices (contents : List (Option Text))
  | breaks (e : Failure)

/-- The texts of pieces up to a break: only the first choice of each counts. -/
def textsOf : List Piece → List Text × Option Failure
  | [] => ([], none)
  | .breaks e :: _ => ([], some e)
  | .choices contents :: rest =>
    let (ts, e) := textsOf rest
    match contents with
    | some t :: _ => (t :: ts, e)
    | _ => (ts, e)

/-- The parameters of a request. -/
def request (p : Provider) (messages : Value) : List (String × Value) :=
  [("model", p.model), ("messages", messages), ("temperature", p.temperature),
   ("max_tokens", p.maxTokens), ("stream", .bool true), ("timeout", p.timeout)]

/-- The events of a request to a provider, with the requests that were sent. -/
def stream (p : Provider) (messages : Value) (refused : Option Failure) (pieces : List Piece) :
    List StreamEvent × List (List (String × Value)) :=
  let (texts, breaks) := match refused with
    | some e => ([], some e)
    | none => textsOf pieces
  (Stream.run p.name p.available texts breaks, if p.available then [p.request messages] else [])

end Provider

end GhostEdit
