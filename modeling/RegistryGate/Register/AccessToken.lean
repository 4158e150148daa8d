/-
  Access tokens for the register.

  The gateway shows its id and secret to a token endpoint and gets a token that is good for a while.
  The token is kept until shortly before it expires, and only a usable new one takes its place: an
  endpoint that fails leaves what is kept as it was.

  Times are counted in nanoseconds on a clock that never goes back.
-/
import RegistryGate.Json.Typed
import RegistryGate.Json.Written
import RegistryGate.Register.Exchange
import RegistryGate.Text.Blank
import RegistryGate.Text.FormEncoded

namespace RegistryGate.Register

open Proxy (RegisterError)

/-- What the gateway shows to the token endpoint. -/
structure Credentials where
  /-- The address of the token endpoint. -/
  tokenUrl : String
  /-- The id of the gateway. -/
  clientId : String
  /-- The secret of the gateway. -/
  clientSecret : String
  /-- The scope that is asked for. -/
  scope : Option String
deriving DecidableEq

/-- A token that is kept. -/
structure AccessToken where
  /-- The token. -/
  text : String
  /-- The time from which it is no longer used. -/
  refreshAt : Nat
deriving DecidableEq

/-- The token that is kept, if there is one. -/
abbrev TokenCache := Option AccessToken

/-! ## Lifetimes -/

/-- The nanoseconds of a second. -/
def second : Nat := 1000000000

/-- The seconds before a token expires in which it is no longer used. -/
def refreshMargin : Nat := 30

/-- The seconds that a token is good for when the endpoint does not say. -/
def defaultLifetime : Nat := 300

/-- The end of the clock. -/
def clockEnd : Nat := Nat.pow 2 63 * second

/-- The time from which a token is no longer used, given when it was got and for how many seconds it
is good.  A time after the end of the clock counts as the time at which the token was got. -/
def refreshTime (got lifetime : Nat) : Nat :=
  let time := got + (lifetime - refreshMargin) * second
  if time < clockEnd then time else got

/-! ## The token endpoint -/

/-- The most bytes of an answer of the token endpoint. -/
def maxTokenBytes : Nat := 64 * 1024

/-- The media type of forms. -/
def formMediaType : String := "application/x-www-form-urlencoded"

/-- The form that asks for a token. -/
def Credentials.form (c : Credentials) : List (String × String) :=
  [("grant_type", "client_credentials"), ("client_id", c.clientId),
    ("client_secret", c.clientSecret)] ++ (c.scope.map fun scope => ("scope", scope)).toList

/-- The request for a token. -/
def Credentials.request (c : Credentials) : Outgoing :=
  ⟨c.tokenUrl, formMediaType, none, Text.FormEncoded.encode c.form⟩

/-- A token as the endpoint grants it. -/
structure Grant where
  /-- The token. -/
  token : String
  /-- The seconds that it is good for. -/
  lifetime : Option Nat
deriving DecidableEq

namespace Grant

/-- Reads a grant: a record of the members `access_token` and possibly `expires_in`. -/
def parse? (bytes : ByteArray) : Option Grant := do
  let forms ← Json.Written.record? ["access_token", "expires_in"] 1 (.ofBytes bytes.toList)
  let ms ← Json.Written.members? (Json.maxDepth - 1) forms
  return ⟨← Json.required? Json.asString? "access_token" ms,
    ← Json.optional? Json.asNat? "expires_in" ms⟩

end Grant

/-- The grant in an answer of the token endpoint. -/
def readGrant (answer : Incoming) : Except RegisterError Grant := do
  let bytes ← answer.body.readLimited maxTokenBytes
  if !answer.isSuccess then
    throw (.transport ("token endpoint returned status " ++ toString answer.status))
  match Grant.parse? bytes with
  | none => throw (.invalidResponse "token endpoint response is not valid")
  | some grant =>
    if Text.isBlankText grant.token then
      throw (.invalidResponse "token endpoint returned no token")
    else return grant

/-! ## Using tokens -/

/-- What surrounds one use: the time before it, the time after the token endpoint has answered, and
what comes of requests. -/
structure Occasion where
  /-- The time at which the token is needed. -/
  start : Nat
  /-- The time at which the token endpoint has answered, if it is asked. -/
  got : Nat
  /-- What comes of requests. -/
  exchange : Exchange

/-- Gets a new token. -/
def Credentials.fetch (c : Credentials) (o : Occasion) : Except RegisterError AccessToken :=
  match o.exchange.deliver c.request with
  | .error fault => .error fault.toRegisterError
  | .ok answer =>
    match readGrant answer with
    | .error error => .error error
    | .ok grant =>
      .ok ⟨grant.token, refreshTime o.got (grant.lifetime.getD defaultLifetime)⟩

/-- The kept token, while it may be used. -/
def usable? (cache : TokenCache) (time : Nat) : Option AccessToken :=
  cache.filter fun token => decide (time < token.refreshAt)

/-- One use of a token. -/
structure TokenUse where
  /-- The token, or why there is none. -/
  token : Except RegisterError String
  /-- Set when the token endpoint was asked. -/
  asked : Bool
  /-- What is kept afterwards. -/
  cache : TokenCache

/-- Takes the kept token, or gets a new one and keeps it. -/
def Credentials.use (c : Credentials) (cache : TokenCache) (o : Occasion) : TokenUse :=
  match usable? cache o.start with
  | some token => ⟨.ok token.text, false, cache⟩
  | none =>
    match c.fetch o with
    | .error error => ⟨.error error, true, cache⟩
    | .ok token => ⟨.ok token.text, true, some token⟩

end RegistryGate.Register
