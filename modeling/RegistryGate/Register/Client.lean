/-
  The client that forwards requests to the register.

  A request is a document sent to the address of an endpoint, with an access token where the
  settings ask for one.  Redirects are not followed, and an answer counts only when its status is
  one of success and its body is a document within the size limit.
-/
import RegistryGate.Config.Resources
import RegistryGate.Register.AccessToken
import RegistryGate.Register.Identity

namespace RegistryGate.Register

open Proxy (RegisterError RegisterResult)

/-! ## Building -/

/-- Why there is no client. -/
inductive ClientError where
  /-- The certificate cannot be loaded. -/
  | identity (error : IdentityError)
  /-- The secret cannot be had. -/
  | secret (error : Config.ConfigError)
deriving DecidableEq

/-- The text of a client error. -/
def ClientError.message : ClientError → String
  | identity (.unreadable path fault) =>
    "upstream mtls identity error: " ++ path ++ ": " ++ fault.message
  | identity .malformed => "upstream mtls identity error: builder error"
  | identity .unusable => "upstream client error: builder error"
  | secret error => "upstream oauth error: " ++ error.message

/-- A client. -/
structure Client where
  /-- The certificate that it shows. -/
  identity : Option Identity
  /-- What it gets access tokens with. -/
  credentials : Option Credentials
  /-- The most bytes of an answer. -/
  maxResponseBytes : Nat
deriving DecidableEq

/-- The certificate that the settings ask for. -/
def loadIdentity (env : Environment) :
    Option Config.MtlsSettings → Except ClientError (Option Identity)
  | none => .ok none
  | some s =>
    match Identity.load env.files s with
    | .ok identity => .ok (some identity)
    | .error error => .error (.identity error)

/-- The credentials that the settings ask for. -/
def loadCredentials (env : Environment) :
    Option Config.OAuthSettings → Except ClientError (Option Credentials)
  | none => .ok none
  | some s =>
    match s.clientSecret env with
    | .ok secret => .ok (some ⟨s.tokenUrl, s.clientId, secret, s.scope⟩)
    | .error error => .error (.secret error)

/-- The client for the settings. -/
def Client.ofSettings (env : Environment) (s : Config.RegisterSettings) :
    Except ClientError Client := do
  let identity ← loadIdentity env s.mtls
  let credentials ← loadCredentials env s.oauth
  return ⟨identity, credentials, s.maxResponseBytes⟩

/-! ## Calling -/

/-- One call: what came of it, what was sent for it, and the token that is kept afterwards. -/
structure Call where
  /-- What came of it. -/
  result : RegisterResult
  /-- The requests that were sent, in order. -/
  sent : List Outgoing
  /-- The token that is kept. -/
  cache : TokenCache

/-- The authorization header for a token; a token with control characters has none. -/
def bearerHeader (token : String) : Except RegisterError String :=
  if token.toList.all Text.isHeaderChar then .ok ("Bearer " ++ token)
  else .error (.invalidResponse "invalid access token")

/-- The answer of the register, read. -/
def readAnswer (limit : Nat) (answer : Incoming) : RegisterResult := do
  let bytes ← answer.body.readLimited limit
  let body := document? bytes
  if !answer.isSuccess then throw (.status answer.status (body.getD .null))
  match body with
  | none => throw (.invalidResponse "upstream response is not valid JSON")
  | some body => return ⟨answer.status, answer.contentType.bind Text.ofVisibleBytes?, body⟩

namespace Client

/-- The request that carries a document. -/
def request (url : String) (payload : Json) (authorization : Option String) : Outgoing :=
  ⟨url, jsonMediaType, authorization, payload.render⟩

/-- Sends a request and reads what comes back. -/
def send (client : Client) (exchange : Exchange) (outgoing : Outgoing) : RegisterResult :=
  match exchange.deliver outgoing with
  | .error fault => .error fault.toRegisterError
  | .ok answer => readAnswer client.maxResponseBytes answer

/-- Forwards a document to an address. -/
def call (client : Client) (cache : TokenCache) (o : Occasion) (url : String) (payload : Json) :
    Call :=
  match client.credentials with
  | none =>
    let outgoing := request url payload none
    ⟨client.send o.exchange outgoing, [outgoing].filter Outgoing.isSendable, cache⟩
  | some credentials =>
    let use := credentials.use cache o
    let asked := if use.asked then [credentials.request].filter Outgoing.isSendable else []
    match use.token.bind bearerHeader with
    | .error error => ⟨.error error, asked, use.cache⟩
    | .ok header =>
      let outgoing := request url payload (some header)
      ⟨client.send o.exchange outgoing, asked ++ [outgoing].filter Outgoing.isSendable, use.cache⟩

end Client

end RegistryGate.Register
