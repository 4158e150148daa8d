/-
  The program.

  Before anything is decided, what the settings name is looked at; the call itself is the function
  `Command.run` on what was found.  Then its lines are written.
-/
import RegistryGate.Command.Run
import RegistryGate.Config.Sources
import RegistryGate.Storage.Snapshot

namespace RegistryGate.Main

open Storage (Snapshot)

/-! ## Looking at the machine -/

/-- The cause of a failure. -/
def faultOf : IO.Error → IoFault
  | .noFileOrDirectory .. => .notFound
  | .permissionDenied .. => .notPermitted
  | .inappropriateType _ code text | .invalidArgument _ code text | .otherError code text =>
    match code.toNat with
    | 20 => .notDirectory
    | 21 => .isDirectory
    | 36 => .nameTooLong
    | n => .other (text ++ " (os error " ++ toString n ++ ")")
  | error => .other (toString error)

/-- Does something that may fail. -/
def attempt {α : Type} (act : IO α) : IO (Except IoFault α) := do
  match ← act.toBaseIO with
  | .ok a => return .ok a
  | .error error => return .error (faultOf error)

/-- The environment variables of this process. -/
def environmentValues : IO (List (String × String)) := do
  let bytes ← attempt (IO.FS.readBinFile "/proc/self/environ")
  let text := (bytes.toOption.bind String.fromUTF8?).getD ""
  return (Text.splitOn (Char.ofNat 0) text).filterMap (Text.splitFirst? '=')

/-- The content of a file. -/
def look (path : String) : IO (String × Except IoFault ByteArray) := do
  return (path, ← attempt (IO.FS.readBinFile path))

/-- The names in a directory. -/
def listing (path : String) : IO (String × Except IoFault (List String)) := do
  let entries ← attempt do (← IO.FS.realPath path).readDir
  return (path, entries.map fun entries => (entries.map (·.fileName)).toList)

/-- Opens a file for appending. -/
def openLog (path : String) : IO (String × Except IoFault Unit) := do
  return (path, ← attempt (IO.FS.withFile path .append fun _ => pure ()))

/-- Looks at what settings name.  The log is opened only for serving, since that may create it. -/
def gather (found : Snapshot) (sources : Config.Sources) (serving : Bool) : IO Snapshot := do
  let listings ← sources.directories.mapM listing
  let inside := listings.flatMap fun (directory, names) =>
    (names.toOption.getD []).map (Path.join directory)
  let contents ← (sources.files ++ inside).mapM look
  let logs ← if serving then sources.log.toList.mapM openLog else pure []
  return ⟨found.values, found.contents ++ contents, listings, logs⟩

/-- Looks at what the arguments are about. -/
def observe (arguments : List String) : IO Snapshot := do
  let bare : Snapshot := ⟨← environmentValues, [], [], []⟩
  match Command.settingsFile? arguments with
  | none => return bare
  | some asked =>
    match Config.settingsPath bare.environment asked with
    | .error _ => return bare
    | .ok path =>
      let found : Snapshot := { bare with contents := [← look path] }
      match Config.Settings.load found.environment asked with
      | .error _ => return found
      | .ok s => gather found s.sources (Command.isServing arguments)

/-! ## Answering -/

/-- A key that chance gives. -/
def chanceKey : IO Token.Key := do
  let bytes := (← IO.getRandomBytes Token.keyLength.toUSize).toList
  if h : bytes.length = Token.keyLength then return ⟨bytes, h⟩
  else throw (IO.userError "no random bytes")

/-- The text of a failure to write. -/
def writeFault : IO.Error → String
  | .resourceVanished .. => "Broken pipe (os error 32)"
  | error => (faultOf error).message

/-- Writes lines; says why when that fails. -/
def writeLines (lines : List String) : IO (Option String) := do
  let output ← IO.getStdout
  match ← (do lines.forM output.putStrLn; output.flush : IO Unit).toBaseIO with
  | .ok () => return none
  | .error error => return some (writeFault error)

/-- No network is opened: a server that is ready to serve reports that it cannot listen. -/
def cannotListen (_ : Gateway.Server) : Gateway.StartError :=
  .listen "Operation not supported (os error 95)"

/-- Calls the program and writes what it answers. -/
def call (arguments : List String) : IO UInt32 := do
  let found ← observe arguments
  let keys ← (List.range Command.maxGeneratedKeys).mapM fun _ => chanceKey
  let spare ← chanceKey
  let machine : Command.Machine := ⟨found.environment, fun i => keys[i]?.getD spare, cannotListen⟩
  let report := Command.run machine arguments
  let report := match ← writeLines report.lines with
    | none => report
    | some fault => report.onFault fault
  if let some error := report.error then IO.eprintln error
  return report.code.toUInt32

end RegistryGate.Main

/-- Runs the program. -/
def main (arguments : List String) : IO UInt32 := RegistryGate.Main.call arguments
