/-
  Which settings are acceptable.

  The sections are judged one after the other and each setting in its place, so that of several
  faulty settings it is always the same one that is reported.  Nothing outside of the settings is
  looked at here.
-/
import RegistryGate.Auth.Key
import RegistryGate.Config.Error
import RegistryGate.Config.Settings
import RegistryGate.Storage.Path

namespace RegistryGate.Config

/-! ## Limits -/

/-- The most bytes of a path. -/
def maxPathLength : Nat := 4096

/-- The most bytes of a part of a path. -/
def maxPathPartLength : Nat := 255

/-- The most bytes of a request body that may be configured. -/
def maxBodyBytesLimit : Nat := 16 * 1024 * 1024

/-- The most bytes of an answer that may be configured. -/
def maxResponseBytesLimit : Nat := 64 * 1024 * 1024

/-- The most keys for identifiers. -/
def maxTokenizationKeys : Nat := 16

/-- The most seconds for which an expired token may still be taken. -/
def maxLeewaySecs : Nat := 300

/-- The signature algorithms that may be configured: all that do without a shared secret. -/
def supportedAlgorithms : List String :=
  (Auth.Algorithm.all.filter fun a => a.family != .secret).map Auth.Algorithm.name

/-- The languages of problem documents. -/
def supportedLocales : List String := ["nl", "en"]

/-! ## Single settings -/

/-- Passes when a condition holds. -/
def require (holds : Bool) (fault : SettingFault) : Except SettingFault Unit :=
  if holds then .ok () else .error fault

/-- Passes for numbers from `low` to `high`. -/
def checkRange (setting : String) (low high n : Nat) : Except SettingFault Unit :=
  require (decide (low ≤ n) && decide (n ≤ high)) (.outOfRange setting low high)

/-- Passes for paths that are not blank and whose parts are not too long. -/
def checkPath (setting path : String) : Except SettingFault Unit :=
  let path := Text.trim path
  if path.isEmpty then .error (.empty setting)
  else if maxPathLength < path.utf8ByteSize then .error (.pathTooLong setting)
  else if maxPathPartLength < Path.longestComponent path then .error (.partTooLong setting)
  else .ok ()

/-- Passes for a path that may be left out. -/
def checkPath? (setting : String) : Option String → Except SettingFault Unit
  | none => .ok ()
  | some path => checkPath setting path

/-- Passes for secure web addresses, and for others where that is allowed. -/
def checkUrl (setting : String) (allowHttp : Bool) (value : String) : Except SettingFault Unit :=
  match Net.Url.schemeOf (Text.trim value) with
  | .error fault => .error (.url setting fault)
  | .ok "https" => .ok ()
  | .ok "http" => require allowHttp (.insecureUrl setting)
  | .ok scheme => .error (.urlScheme setting scheme)

/-- Passes for an address that may be left out. -/
def checkUrl? (setting : String) (allowHttp : Bool) : Option String → Except SettingFault Unit
  | none => .ok ()
  | some value => checkUrl setting allowHttp value

/-! ## Sections -/

/-- The address that the gateway listens on. -/
def ServerSettings.bindAddress (s : ServerSettings) : Except SettingFault Net.SocketAddress :=
  match Net.SocketAddress.parse? (Text.trim s.bind) with
  | some address => .ok address
  | none => .error (.bind s.bind)

/-- Passes for acceptable server settings. -/
def ServerSettings.validate (s : ServerSettings) : Except SettingFault Unit := do
  let _ ← s.bindAddress
  checkRange "server.max_body_bytes" 1 maxBodyBytesLimit s.maxBodyBytes
  let base := Text.trim s.publicBaseUrl
  if !base.isEmpty && !Text.startsWith "/" base then checkUrl "server.public_base_url" false base
  require (supportedLocales.contains s.locale) (.notOneOf "server.locale" supportedLocales)

/-- Passes for algorithms that may be configured. -/
def checkAlgorithms : List String → Except SettingFault Unit
  | [] => .ok ()
  | name :: rest =>
    if supportedAlgorithms.contains name then checkAlgorithms rest else .error (.algorithm name)

/-- Passes for acceptable settings of bearer tokens. -/
def AuthSettings.validate (s : AuthSettings) : Except SettingFault Unit := do
  require (s.jwks.isSome != s.jwksPath.isSome) .keySetSource
  checkPath? "auth.jwks_path" s.jwksPath
  require (!s.algorithms.isEmpty) (.empty "auth.algorithms")
  checkAlgorithms s.algorithms
  require (!Text.isBlankText s.userClaim && !Text.isBlankText s.scopeClaim) .emptyClaim
  require (decide (s.leewaySecs ≤ maxLeewaySecs)) (.tooGreat "auth.leeway_secs" maxLeewaySecs)

/-- Passes for an acceptable certificate. -/
def MtlsSettings.validate (s : MtlsSettings) : Except SettingFault Unit := do
  checkPath "upstream.mtls.cert_path" s.certPath
  checkPath "upstream.mtls.key_path" s.keyPath

/-- Passes for acceptable settings of access tokens. -/
def OAuthSettings.validate (allowHttp : Bool) (s : OAuthSettings) : Except SettingFault Unit := do
  checkUrl "upstream.oauth.token_url" allowHttp s.tokenUrl
  require (!Text.isBlankText s.clientId) .missingClientId
  checkPath? "upstream.oauth.client_secret_path" s.clientSecretPath

/-- Passes for acceptable settings of the register. -/
def RegisterSettings.validate (s : RegisterSettings) : Except SettingFault Unit := do
  checkUrl "upstream.base_url" s.allowHttp s.baseUrl
  checkUrl? "upstream.personen_url" s.allowHttp s.personenUrl
  checkUrl? "upstream.bewoningen_url" s.allowHttp s.bewoningenUrl
  checkUrl? "upstream.verblijfplaatshistorie_url" s.allowHttp s.verblijfplaatshistorieUrl
  checkUrl? "upstream.reisdocumenten_url" s.allowHttp s.reisdocumentenUrl
  checkRange "upstream.connect_timeout_ms" 100 30000 s.connectTimeoutMs
  checkRange "upstream.request_timeout_ms" 500 120000 s.requestTimeoutMs
  checkRange "upstream.max_response_bytes" 1 maxResponseBytesLimit s.maxResponseBytes
  match s.mtls with
  | some mtls => mtls.validate
  | none => pure ()
  match s.oauth with
  | some oauth => oauth.validate s.allowHttp
  | none => pure ()

/-- Passes for acceptable sources of the keys for identifiers. -/
def TokenizationSettings.validate (s : TokenizationSettings) : Except SettingFault Unit := do
  require (decide (s.keys.length ≤ maxTokenizationKeys)) (.tooManyKeys maxTokenizationKeys)
  require (s.keys.isEmpty || s.keysPath.isNone) .twoKeySources
  require (!Text.isBlankText s.keysEnv) (.empty "tokenization.keys_env")
  checkPath? "tokenization.keys_path" s.keysPath

/-- Passes for acceptable settings, section by section. -/
def Settings.checkSections (s : Settings) : Except SettingFault Unit := do
  s.server.validate
  s.auth.validate
  s.register.validate
  s.tokenization.validate
  checkPath "catalog.dir" s.catalogDir
  checkPath? "audit.path" s.audit.path

/-- A verdict on a setting as a verdict on the configuration. -/
def judged {α : Type} : Except SettingFault α → Except ConfigError α
  | .ok a => .ok a
  | .error fault => .error (.invalid fault)

/-- Passes for acceptable settings. -/
def Settings.validate (s : Settings) : Except ConfigError Unit := judged s.checkSections

end RegistryGate.Config
