import GhostEdit.Provider.Catalog
import GhostEdit.Url.Basic

/-!
# Connections to services

A service is reached with a key and below an address, both from the environment. The address is put
in normal form by whatever makes the connection, so that what does it is a parameter; the normal
form of `GhostEdit.Url` stands in for it.

## Main definitions

* `Provider.key`, `Provider.endpoint`
* `Provider.client`: the connection to a service
-/

namespace GhostEdit

/-- The normal form of the address of a directory, or what is wrong with the address. -/
def Url.normalForm (address : Text) : Except String Text :=
  (((Url.parse address).bind Url.asDirectory).map Url.render).mapError Url.Flaw.message

namespace Provider

/-- The key of the connection to a service. The local server takes any. -/
def key (env : Environment) (service : Service) : Except Failure Text :=
  match service, env.lookup service.variableName with
  | .ollama, _ => .ok "ollama".toList
  | _, some (c :: rest) => .ok (c :: rest)
  | _, _ => .error (.keyNotSet service.variableName)

/-- The address below which the requests of a service go. -/
def endpoint (normalForm : Text → Except String Text) (env : Environment) (service : Service) :
    Except Failure Text :=
  (normalForm ((service.address? env).getD "https://api.openai.com/v1".toList)).mapError .badAddress

/-- The address and the key of the connection to a service. -/
def client (env : Environment) (service : Service)
    (normalForm : Text → Except String Text := Url.normalForm) : Except Failure (Text × Text) := do
  let key ← key env service
  let address ← endpoint normalForm env service
  pure (address, key)

end Provider

end GhostEdit
