/-
  Loading the settings of a gateway.

  The settings file is the one that was asked for, else the one that an environment variable names,
  else one of a fixed name.  A relative catalog directory is meant to lie beside the settings file.
-/
import RegistryGate.Config.Validation
import RegistryGate.Toml.Reader

namespace RegistryGate.Config

/-- The settings file that is meant when none is named. -/
def defaultFile : String := "brp-gate.toml"

/-- The environment variable that names the settings file. -/
def fileVariable : String := "BRP_GATE_CONFIG"

/-- The most bytes of a settings file. -/
def maxFileBytes : Nat := 1024 * 1024

/-- The path of the settings file. -/
def settingsPath (env : Environment) (asked : Option String) : Except SettingFault String :=
  match asked with
  | some path => .ok path
  | none =>
    match env.valueOf? fileVariable with
    | some path => if maxPathLength < path.utf8ByteSize then .error .filePathTooLong else .ok path
    | none => .ok defaultFile

/-- Passes for paths that are not too long. -/
def checkFilePath (path : String) : Except SettingFault Unit :=
  if maxPathLength < path.utf8ByteSize then .error .filePathTooLong
  else if maxPathPartLength < Path.longestComponent path then .error .filePartTooLong
  else .ok ()

/-- The settings with a relative catalog directory put beside the settings file. -/
def Settings.locate (path : String) (s : Settings) : Settings :=
  if Path.isAbsolute s.catalogDir then s
  else
    match Path.parent? path with
    | some directory => { s with catalogDir := Path.join directory s.catalogDir }
    | none => s

/-- The settings of a file, whether acceptable or not. -/
def Settings.readFile (env : Environment) (path : String) : Except ConfigError Settings :=
  match env.files.readText maxFileBytes path with
  | .error (.unreadable fault) => .error (.settingsFile fault)
  | .error .tooLarge => .error (.invalid .fileTooLarge)
  | .error .notUtf8 => .error (.invalid .fileNotUtf8)
  | .ok text =>
    match (Toml.parse? text).bind (Settings.ofDocument? .toml) with
    | none => .error .parse
    | some settings => .ok (settings.locate path)

/-- Loads the settings of a gateway. -/
def Settings.load (env : Environment) (asked : Option String) : Except ConfigError Settings := do
  let path ← judged (settingsPath env asked)
  judged (checkFilePath path)
  let settings ← Settings.readFile env path
  settings.validate
  return settings

end RegistryGate.Config
