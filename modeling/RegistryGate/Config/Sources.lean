/-
  What a start reads.

  Settings name files and directories of the machine.  Their list is what must be looked at before a
  start can be computed.
-/
import RegistryGate.Config.Catalogs

namespace RegistryGate.Config

/-- The files and directories that settings name. -/
structure Sources where
  /-- The files that are read. -/
  files : List String
  /-- The directories that are listed, and all of whose files are read. -/
  directories : List String
  /-- The file that is appended to. -/
  log : Option String
deriving DecidableEq

/-- The services whose endpoints need a catalog. -/
def catalogServices : List String := [Services.personen, Services.reisdocumenten]

/-- The example records of the catalogs. -/
def shapeFiles (directory : String) : List String :=
  catalogServices.map fun service =>
    Path.join (Path.join directory shapeDirectory) (service ++ ".json")

/-- The directories of field lists. -/
def fieldListDirectories (directory : String) : List String :=
  catalogServices.flatMap fun service =>
    [Path.join (Path.join directory datasetDirectory) service,
      Path.join (Path.join directory recordDirectory) service]

/-- The files of secrets and certificates. -/
def Settings.secretFiles (s : Settings) : List String :=
  s.auth.jwksPath.toList ++ s.tokenization.keysPath.toList ++
    s.register.mtls.toList.flatMap (fun mtls => [mtls.certPath, mtls.keyPath]) ++
    (s.register.oauth.bind OAuthSettings.clientSecretPath).toList

/-- What a start with these settings reads. -/
def Settings.sources (s : Settings) : Sources where
  files := s.secretFiles ++ shapeFiles s.catalogDir
  directories := fieldListDirectories s.catalogDir
  log := if s.audit.enabled then s.audit.path else none

end RegistryGate.Config
