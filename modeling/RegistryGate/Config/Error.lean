/-
  What can be wrong with settings and with what they name.

  Every fault is a case of its own; the texts, which operators read, are in the `message` functions.
-/
import RegistryGate.Field.Catalog
import RegistryGate.Net.Url
import RegistryGate.Shape
import RegistryGate.Storage.Basic
import RegistryGate.Token.Cipher

namespace RegistryGate.Config

/-! ## Settings -/

/-- A setting or a resource it names that is not acceptable. -/
inductive SettingFault where
  /-- The settings file is too large. -/
  | fileTooLarge
  /-- The settings file is not UTF-8. -/
  | fileNotUtf8
  /-- The path of the settings file is too long. -/
  | filePathTooLong
  /-- A part of the path of the settings file is too long. -/
  | filePartTooLong
  /-- The listen address is no address. -/
  | bind (value : String)
  /-- A number is out of its range. -/
  | outOfRange (setting : String) (low high : Nat)
  /-- A number is above its bound. -/
  | tooGreat (setting : String) (high : Nat)
  /-- A text is none of those that are supported. -/
  | notOneOf (setting : String) (supported : List String)
  /-- The keys for tokens come from no place, or from two. -/
  | keySetSource
  /-- A setting is blank or empty. -/
  | empty (setting : String)
  /-- A path is too long. -/
  | pathTooLong (setting : String)
  /-- A part of a path is too long. -/
  | partTooLong (setting : String)
  /-- A signature algorithm is not supported. -/
  | algorithm (name : String)
  /-- The name of a claim is blank. -/
  | emptyClaim
  /-- An address is not well formed. -/
  | url (setting : String) (fault : Net.Url.UrlFault)
  /-- An address is not secure, and need not be so. -/
  | insecureUrl (setting : String)
  /-- An address is no web address. -/
  | urlScheme (setting scheme : String)
  /-- The client id is blank. -/
  | missingClientId
  /-- There are more keys for identifiers than are supported. -/
  | tooManyKeys (most : Nat)
  /-- The keys for identifiers are listed and also named as a file. -/
  | twoKeySources
  /-- There are no keys for identifiers. -/
  | noKeys
  /-- A key for identifiers is at fault. -/
  | keys (error : Token.TokenError)
  /-- An environment variable is not set. -/
  | variableNotSet (name : String)
  /-- The client secret is blank. -/
  | emptySecret
  /-- A secret file is too large. -/
  | secretTooLarge (path : String)
  /-- A secret file is not UTF-8. -/
  | secretNotUtf8 (path : String)
deriving DecidableEq

/-- The text of a setting fault. -/
def SettingFault.message : SettingFault → String
  | fileTooLarge => "config file exceeds size limit"
  | fileNotUtf8 => "config file must be utf-8"
  | filePathTooLong => "config path exceeds max length"
  | filePartTooLong => "config path component too long"
  | bind value => "invalid server.bind: " ++ value
  | outOfRange setting low high =>
    setting ++ " must be between " ++ toString low ++ " and " ++ toString high
  | tooGreat setting high => setting ++ " must be at most " ++ toString high
  | notOneOf setting supported => setting ++ " must be one of: " ++ Text.joinWith ", " supported
  | keySetSource => "exactly one of auth.jwks or auth.jwks_path must be set"
  | empty setting => setting ++ " must be non-empty"
  | pathTooLong setting => setting ++ " exceeds max length"
  | partTooLong setting => setting ++ " path component too long"
  | algorithm name => "unsupported auth algorithm: " ++ name
  | emptyClaim => "auth claim names must be non-empty"
  | url setting fault => setting ++ " is not a valid url: " ++ fault.message
  | insecureUrl setting => setting ++ " uses http:// without allow_http"
  | urlScheme setting scheme => setting ++ " has unsupported scheme " ++ scheme
  | missingClientId => "upstream.oauth.client_id must be set"
  | tooManyKeys most => "at most " ++ toString most ++ " tokenization keys are supported"
  | twoKeySources => "tokenization.keys and tokenization.keys_path are mutually exclusive"
  | noKeys => "no tokenization keys configured"
  | keys error => "tokenization keys: " ++ error.message
  | variableNotSet name => name ++ " is not set"
  | emptySecret => "upstream oauth client secret is empty"
  | secretTooLarge path => path ++ " exceeds size limit"
  | secretNotUtf8 path => path ++ " must be utf-8"

/-! ## Catalog files -/

/-- What is wrong with one file or directory of a catalog. -/
inductive CatalogFileFault where
  /-- Its content is not usable as text. -/
  | content (fault : ContentFault)
  /-- It is no JSON document. -/
  | notJson
  /-- Its document is no record. -/
  | shape (fault : ShapeFault)
  /-- Its list of fields is at fault. -/
  | fields (fault : CatalogFault)
deriving DecidableEq

/-- The text of a fault of one catalog file. -/
def CatalogFileFault.message : CatalogFileFault → String
  | content (.unreadable fault) => fault.message
  | content .tooLarge => "exceeds size limit"
  | content .notUtf8 => "must be utf-8"
  | notJson => "<json error>"
  | shape fault => fault.message
  | fields fault => fault.message

/-- What is wrong with the catalogs of the endpoints. -/
inductive CatalogError where
  /-- A file or a directory is at fault. -/
  | file (path : String) (fault : CatalogFileFault)
  /-- The datasets of a service are at fault. -/
  | datasets (service : String) (fault : CatalogFault)
  /-- A service has no dataset. -/
  | noDatasets (service : String)
  /-- An endpoint needs what the catalog does not have. -/
  | endpoint (fault : CatalogFault)
deriving DecidableEq

/-- The text of a catalog error. -/
def CatalogError.message : CatalogError → String
  | file path fault => path ++ ": " ++ fault.message
  | datasets service fault => service ++ ": " ++ fault.message
  | noDatasets service => service ++ ": no dataset field groups"
  | endpoint fault => fault.message

/-! ## All of it -/

/-- Why a gateway cannot be configured. -/
inductive ConfigError where
  /-- The settings file cannot be read. -/
  | settingsFile (fault : IoFault)
  /-- A secret file cannot be read. -/
  | secretFile (path : String) (fault : IoFault)
  /-- The settings file is not well formed, or a setting is of the wrong kind. -/
  | parse
  /-- A setting is not acceptable. -/
  | invalid (fault : SettingFault)
  /-- A catalog is not acceptable. -/
  | catalog (error : CatalogError)
deriving DecidableEq

/-- The text of a configuration error. -/
def ConfigError.message : ConfigError → String
  | settingsFile fault => "config io error: " ++ fault.message
  | secretFile path fault => "config io error: " ++ path ++ ": " ++ fault.message
  | parse => "config parse error:"
  | invalid fault => "invalid config: " ++ fault.message
  | catalog error => "invalid catalog: " ++ error.message

end RegistryGate.Config
