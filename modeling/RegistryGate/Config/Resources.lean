/-
  What the settings name: key documents, secrets, and the keys for identifiers.

  Secrets come from small files, from environment variables or from the settings themselves.
-/
import RegistryGate.Config.Validation

namespace RegistryGate.Config

/-- The most bytes of a secret file. -/
def maxSecretBytes : Nat := 64 * 1024

/-- The text of a secret file. -/
def readSecret (env : Environment) (path : String) : Except ConfigError String :=
  match env.files.readText maxSecretBytes path with
  | .ok text => .ok text
  | .error (.unreadable fault) => .error (.secretFile path fault)
  | .error .tooLarge => .error (.invalid (.secretTooLarge path))
  | .error .notUtf8 => .error (.invalid (.secretNotUtf8 path))

/-- The value of an environment variable that must be set. -/
def readVariable (env : Environment) (name : String) : Except ConfigError String :=
  match env.valueOf? name with
  | some value => .ok value
  | none => .error (.invalid (.variableNotSet name))

/-- The key document that bearer tokens are verified against. -/
def AuthSettings.keyDocument (s : AuthSettings) (env : Environment) : Except ConfigError String :=
  match s.jwks, s.jwksPath with
  | some document, none => .ok document
  | none, some path => readSecret env path
  | _, _ => .error (.invalid .keySetSource)

/-- The secret that the gateway shows to the token endpoint. -/
def OAuthSettings.clientSecret (s : OAuthSettings) (env : Environment) :
    Except ConfigError String := do
  let text ← match s.clientSecretPath with
    | some path => readSecret env path
    | none => readVariable env s.clientSecretEnv
  let secret := Text.trim text
  if secret.isEmpty then throw (.invalid .emptySecret) else return secret

/-- The keys of a text with commas between them; blank ones do not count. -/
def splitKeys (text : String) : List String :=
  ((Text.splitOn ',' text).map Text.trim).filter fun key => !key.isEmpty

/-- The texts of the keys for identifiers: those of the settings, else those of the file, else those
of the environment variable. -/
def TokenizationSettings.keyTexts (s : TokenizationSettings) (env : Environment) :
    Except ConfigError (List String) := do
  let keys ←
    if !s.keys.isEmpty then pure s.keys
    else match s.keysPath with
      | some path => splitKeys <$> readSecret env path
      | none => splitKeys <$> readVariable env s.keysEnv
  if keys.isEmpty then throw (.invalid .noKeys)
  else if maxTokenizationKeys < keys.length then throw (.invalid (.tooManyKeys maxTokenizationKeys))
  else return keys

/-- The cipher for identifiers. -/
def TokenizationSettings.cipher (s : TokenizationSettings) (env : Environment) :
    Except ConfigError Token.Cipher := do
  let keys ← s.keyTexts env
  match Token.Cipher.ofTexts Digest.hmacSha256 keys with
  | .ok cipher => return cipher
  | .error error => throw (.invalid (.keys error))

/-- The address of a service: its own, or one behind the common start of all addresses. -/
def RegisterSettings.serviceUrl (s : RegisterSettings) (service : String) : String :=
  let own := match service with
    | "personen" => s.personenUrl
    | "bewoningen" => s.bewoningenUrl
    | "verblijfplaatshistorie" => s.verblijfplaatshistorieUrl
    | "reisdocumenten" => s.reisdocumentenUrl
    | _ => none
  let path := if service = "bewoningen" then "bewoning/bewoningen" else service
  own.getD (Text.trimEnd '/' s.baseUrl ++ "/" ++ path)

end RegistryGate.Config
