/-
  The settings of a gateway.

  A section that is left out, and a setting that is left out of its section, has a value of its own;
  only a few settings must be there.  Settings of unknown names do not count.  The names of a section's
  settings stand in the order in which a list of their values gives them.
-/
import RegistryGate.Config.Document

namespace RegistryGate.Config

/-! ## Sections -/

/-- How the gateway serves requests. -/
structure ServerSettings where
  /-- The address to listen on. -/
  bind : String := "127.0.0.1:8000"
  /-- The most bytes of a request body. -/
  maxBodyBytes : Nat := 1048576
  /-- What precedes the gateway's paths in the links of an answer. -/
  publicBaseUrl : String := ""
  /-- The language of problem documents. -/
  locale : String := "nl"
deriving DecidableEq

/-- How bearer tokens are verified. -/
structure AuthSettings where
  /-- The file of the key document. -/
  jwksPath : Option String := none
  /-- The key document itself. -/
  jwks : Option String := none
  /-- The party that must have issued a token. -/
  issuer : Option String := none
  /-- The party that a token must be for. -/
  audience : Option String := none
  /-- The signature algorithms that are accepted. -/
  algorithms : List String := ["RS256"]
  /-- The claim that names the caller. -/
  userClaim : String := "email"
  /-- The claim that lists the scopes. -/
  scopeClaim : String := "roles"
  /-- The seconds for which an expired token is still taken. -/
  leewaySecs : Nat := 30
deriving DecidableEq

/-- The certificate that the gateway shows to the register. -/
structure MtlsSettings where
  /-- The file of the certificate chain. -/
  certPath : String
  /-- The file of the private key. -/
  keyPath : String
deriving DecidableEq

/-- How the gateway gets access tokens for the register. -/
structure OAuthSettings where
  /-- The address of the token endpoint. -/
  tokenUrl : String
  /-- The id of the gateway. -/
  clientId : String
  /-- The scope that is asked for. -/
  scope : Option String := none
  /-- The environment variable of the secret. -/
  clientSecretEnv : String := "BRP_OAUTH_CLIENT_SECRET"
  /-- The file of the secret, which is taken instead of the variable. -/
  clientSecretPath : Option String := none
deriving DecidableEq

/-- How the register is reached. -/
structure RegisterSettings where
  /-- What the addresses of all services start with. -/
  baseUrl : String
  /-- The address of the service `personen`. -/
  personenUrl : Option String := none
  /-- The address of the service `bewoningen`. -/
  bewoningenUrl : Option String := none
  /-- The address of the service `verblijfplaatshistorie`. -/
  verblijfplaatshistorieUrl : Option String := none
  /-- The address of the service `reisdocumenten`. -/
  reisdocumentenUrl : Option String := none
  /-- The milliseconds in which a connection must be made. -/
  connectTimeoutMs : Nat := 2000
  /-- The milliseconds in which a request must be answered. -/
  requestTimeoutMs : Nat := 30000
  /-- The most bytes of an answer. -/
  maxResponseBytes : Nat := 10485760
  /-- Set when addresses need not be secure. -/
  allowHttp : Bool := false
  /-- The gateway's certificate. -/
  mtls : Option MtlsSettings := none
  /-- The gateway's access tokens. -/
  oauth : Option OAuthSettings := none
deriving DecidableEq

/-- Where the keys for identifiers come from. -/
structure TokenizationSettings where
  /-- The keys themselves. -/
  keys : List String := []
  /-- The environment variable of the keys. -/
  keysEnv : String := "BRP_GATE_ENCRYPTION_KEYS"
  /-- The file of the keys. -/
  keysPath : Option String := none
deriving DecidableEq

/-- Where audit records go. -/
structure AuditSettings where
  /-- Set when records are written at all. -/
  enabled : Bool := true
  /-- The file of the records; without it they go to the standard error stream. -/
  path : Option String := none
deriving DecidableEq

/-- The form of diagnostic output. -/
inductive LogFormat where
  /-- One JSON object per line. -/
  | json
  /-- Text for people. -/
  | pretty
deriving DecidableEq

/-- The name of a log format. -/
def LogFormat.name : LogFormat → String
  | json => "json"
  | pretty => "pretty"

/-- Diagnostic output. -/
structure LoggingSettings where
  /-- Its form. -/
  format : LogFormat := .json
  /-- What is put out. -/
  filter : String := "info"
deriving DecidableEq

/-- All settings. -/
structure Settings where
  /-- How requests are served. -/
  server : ServerSettings
  /-- How callers are known. -/
  auth : AuthSettings
  /-- How the register is reached. -/
  register : RegisterSettings
  /-- The keys for identifiers. -/
  tokenization : TokenizationSettings
  /-- The directory of the catalogs. -/
  catalogDir : String
  /-- The audit records. -/
  audit : AuditSettings
  /-- Diagnostic output. -/
  logging : LoggingSettings
deriving DecidableEq

/-! ## Reading -/

open Document

/-- The entries of a section. -/
abbrev Entries := List (String × Document)

/-- The settings of the section `server`. -/
def ServerSettings.names : List String := ["bind", "max_body_bytes", "public_base_url", "locale"]

/-- Reads the section `server`. -/
def ServerSettings.read? (es : Entries) : Option ServerSettings := do
  let d : ServerSettings := {}
  return {
    bind := ← withDefault? asText? d.bind "bind" es
    maxBodyBytes := ← withDefault? asCount? d.maxBodyBytes "max_body_bytes" es
    publicBaseUrl := ← withDefault? asText? d.publicBaseUrl "public_base_url" es
    locale := ← withDefault? asText? d.locale "locale" es }

/-- The settings of the section `auth`. -/
def AuthSettings.names : List String :=
  ["jwks_path", "jwks", "issuer", "audience", "algorithms", "user_claim", "scope_claim",
    "leeway_secs"]

/-- Reads the section `auth`. -/
def AuthSettings.read? (es : Entries) : Option AuthSettings := do
  let d : AuthSettings := {}
  return {
    jwksPath := ← optional? asText? "jwks_path" es
    jwks := ← optional? asText? "jwks" es
    issuer := ← optional? asText? "issuer" es
    audience := ← optional? asText? "audience" es
    algorithms := ← withDefault? asTexts? d.algorithms "algorithms" es
    userClaim := ← withDefault? asText? d.userClaim "user_claim" es
    scopeClaim := ← withDefault? asText? d.scopeClaim "scope_claim" es
    leewaySecs := ← withDefault? asCount? d.leewaySecs "leeway_secs" es }

/-- Reads the section on the certificate. -/
def MtlsSettings.read? (form : Form) (value : Document) : Option MtlsSettings := do
  let es ← asSection? form ["cert_path", "key_path"] value
  return ⟨← required? asText? "cert_path" es, ← required? asText? "key_path" es⟩

/-- The settings of the section on access tokens. -/
def OAuthSettings.names : List String :=
  ["token_url", "client_id", "scope", "client_secret_env", "client_secret_path"]

/-- Reads the section on access tokens. -/
def OAuthSettings.read? (form : Form) (value : Document) : Option OAuthSettings := do
  let es ← asSection? form OAuthSettings.names value
  let d : OAuthSettings := { tokenUrl := "", clientId := "" }
  return {
    tokenUrl := ← required? asText? "token_url" es
    clientId := ← required? asText? "client_id" es
    scope := ← optional? asText? "scope" es
    clientSecretEnv := ← withDefault? asText? d.clientSecretEnv "client_secret_env" es
    clientSecretPath := ← optional? asText? "client_secret_path" es }

/-- The settings of the section on the register. -/
def RegisterSettings.names : List String :=
  ["base_url", "personen_url", "bewoningen_url", "verblijfplaatshistorie_url",
    "reisdocumenten_url", "connect_timeout_ms", "request_timeout_ms", "max_response_bytes",
    "allow_http", "mtls", "oauth"]

/-- Reads the section on the register. -/
def RegisterSettings.read? (form : Form) (es : Entries) : Option RegisterSettings := do
  let baseUrl ← required? asText? "base_url" es
  let d : RegisterSettings := { baseUrl := baseUrl }
  return {
    baseUrl := baseUrl
    personenUrl := ← optional? asText? "personen_url" es
    bewoningenUrl := ← optional? asText? "bewoningen_url" es
    verblijfplaatshistorieUrl := ← optional? asText? "verblijfplaatshistorie_url" es
    reisdocumentenUrl := ← optional? asText? "reisdocumenten_url" es
    connectTimeoutMs := ← withDefault? asCount? d.connectTimeoutMs "connect_timeout_ms" es
    requestTimeoutMs := ← withDefault? asCount? d.requestTimeoutMs "request_timeout_ms" es
    maxResponseBytes := ← withDefault? asCount? d.maxResponseBytes "max_response_bytes" es
    allowHttp := ← withDefault? asFlag? d.allowHttp "allow_http" es
    mtls := ← optional? (MtlsSettings.read? form) "mtls" es
    oauth := ← optional? (OAuthSettings.read? form) "oauth" es }

/-- Reads the section `tokenization`. -/
def TokenizationSettings.read? (es : Entries) : Option TokenizationSettings := do
  let d : TokenizationSettings := {}
  return {
    keys := ← withDefault? asTexts? d.keys "keys" es
    keysEnv := ← withDefault? asText? d.keysEnv "keys_env" es
    keysPath := ← optional? asText? "keys_path" es }

/-- Reads the section `audit`. -/
def AuditSettings.read? (es : Entries) : Option AuditSettings := do
  let d : AuditSettings := {}
  return {
    enabled := ← withDefault? asFlag? d.enabled "enabled" es
    path := ← optional? asText? "path" es }

/-- Reads a log format. -/
def LogFormat.read? (form : Form) (value : Document) : Option LogFormat :=
  match asWord? form value with
  | some "json" => some json
  | some "pretty" => some pretty
  | _ => none

/-- Reads the section `logging`. -/
def LoggingSettings.read? (form : Form) (es : Entries) : Option LoggingSettings := do
  let d : LoggingSettings := {}
  return {
    format := ← withDefault? (LogFormat.read? form) d.format "format" es
    filter := ← withDefault? asText? d.filter "filter" es }

namespace Settings

/-- The directory of the catalogs that is meant when none is set. -/
def defaultCatalogDir : String := "config"

/-- The sections. -/
def names : List String :=
  ["server", "auth", "upstream", "tokenization", "catalog", "audit", "logging"]

/-- Reads all settings; none when a setting is of the wrong kind or one that must be there is
missing. -/
def ofDocument? (form : Form) (document : Document) : Option Settings := do
  let es ← asSection? form names document
  let entries := fun (name : String) (settings : List String) =>
    withDefault? (asSection? form settings) [] name es
  let catalog ← entries "catalog" ["dir"]
  return {
    server := ← ServerSettings.read? (← entries "server" ServerSettings.names)
    auth := ← AuthSettings.read? (← required? (asSection? form AuthSettings.names) "auth" es)
    register := ← RegisterSettings.read? form
      (← required? (asSection? form RegisterSettings.names) "upstream" es)
    tokenization := ← TokenizationSettings.read?
      (← entries "tokenization" ["keys", "keys_env", "keys_path"])
    catalogDir := ← withDefault? asText? defaultCatalogDir "dir" catalog
    audit := ← AuditSettings.read? (← entries "audit" ["enabled", "path"])
    logging := ← LoggingSettings.read? form (← entries "logging" ["format", "filter"]) }

end Settings

end RegistryGate.Config
