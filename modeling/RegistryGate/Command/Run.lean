/-
  What a call of the program does.

  A call is a function of its arguments and of the machine: what files and variables hold, which
  keys chance gives, and which addresses can be listened on.  It answers with an exit code, lines for
  the output stream and possibly one for the error stream.
-/
import RegistryGate.Command.Help
import RegistryGate.Command.Validation
import RegistryGate.Gateway.LogFilter

namespace RegistryGate.Command

open Config (ConfigError Settings)
open Gateway (Server StartError)

/-- The machine that the program runs on. -/
structure Machine where
  /-- Its files and variables. -/
  env : Environment
  /-- The keys that chance gives, by their number. -/
  chance : Nat → Token.Key
  /-- Serves until that fails, and says why. -/
  serve : Server → StartError

/-! ## Reports -/

/-- What a call comes to. -/
structure Report where
  /-- The exit code. -/
  code : Nat
  /-- The lines for the output stream. -/
  lines : List String
  /-- The line for the error stream. -/
  error : Option String
  /-- The language in which a failure to write is reported; none when it is passed over. -/
  language : Option Locale
deriving DecidableEq

namespace Report

/-- A call that did what it was for. -/
def done (locale : Locale) (lines : List String) : Report := ⟨0, lines, none, some locale⟩

/-- A call that failed. -/
def failed (message : String) : Report := ⟨1, [], some message, none⟩

/-- A call whose arguments are refused. -/
def refused : Report := ⟨2, [], some "error: invalid arguments; try '--help'", none⟩

/-- The report on failing to write to the output stream. -/
def unwritten (locale : Locale) (fault : String) : Report :=
  failed (say locale "output.write_failed"
    [("stream", say locale "output.stream.stdout" []), ("error", fault)])

/-- What a report comes to when the output stream fails. -/
def onFault (report : Report) (fault : String) : Report :=
  if report.lines.isEmpty then report
  else
    match report.language with
    | some locale => unwritten locale fault
    | none => { report with lines := [] }

end Report

/-! ## Languages -/

/-- The environment variable that chooses the language. -/
def languageVariable : String := "BRP_GATE_LANG"

/-- The language of a call: the one that was chosen, else the one of the environment, else
English. -/
def resolveLanguage (env : Environment) (chosen : Option Locale) : Except String Locale :=
  match chosen, env.valueOf? languageVariable with
  | some locale, _ => .ok locale
  | none, none => .ok .en
  | none, some value =>
    match Locale.parse? value with
    | some locale => .ok locale
    | none =>
      .error (say .en "i18n.lang.invalid_env" [("env", languageVariable), ("value", value)])

/-! ## Actions -/

/-- The version of the program. -/
def version : String := "0.1.0"

/-- The most keys that are made at once. -/
def maxGeneratedKeys : Nat := 16

/-- Makes keys. -/
def generateKeys (machine : Machine) (locale : Locale) (count : Nat) : Report :=
  if count = 0 ∨ maxGeneratedKeys < count then
    .failed (say locale "keys.count_invalid" [("max", toString maxGeneratedKeys)])
  else .done locale ((List.range count).map fun i => (machine.chance i).encode)

/-- Judges settings. -/
def validate (machine : Machine) (locale : Locale) (path : Option String) : Report :=
  match judge machine.env path with
  | .ok summary => .done locale (summary.lines locale)
  | .error complaint => .failed (complaint.text locale)

/-- The text about a filter of diagnostic output that is not well formed. -/
def invalidFilter : String := "invalid log filter:"

/-- Starts a gateway and serves. -/
def serve (machine : Machine) (locale : Locale) (path : Option String) : Report :=
  let failed := fun key error => Report.failed (say locale key [("error", error)])
  match Settings.load machine.env path with
  | .error error => failed "serve.config.load_failed" error.message
  | .ok s =>
    if !Gateway.LogFilter.isUsable machine.env s.logging.filter then
      failed "serve.logging_failed" invalidFilter
    else
      match Server.ofSettings machine.env s with
      | .error error => failed "serve.init_failed" error.message
      | .ok server => failed "serve.failed" (machine.serve server).message

/-- Does what is asked for. -/
def perform (machine : Machine) (locale : Locale) : Action → Report
  | .serve config => serve machine locale config
  | .validate config => validate machine locale config
  | .generateKeys count => generateKeys machine locale count

/-- Answers an invocation. -/
def answer (machine : Machine) (invocation : Invocation) : Report :=
  match resolveLanguage machine.env invocation.language with
  | .error message => .failed message
  | .ok locale =>
    if invocation.version then .done locale [say locale "main.version" [("version", version)]]
    else
      match invocation.action with
      | none => .done locale (helpPage [] program false ++ [""])
      | some action => perform machine locale action

/-! ## Runs -/

/-- The invocation that arguments make. -/
def invocation? (arguments : List String) : Option Invocation :=
  match read [] ⟨program, []⟩ arguments with
  | .run levels => some (Invocation.ofLevels levels)
  | .refused | .help .. => none

/-- The settings file that the arguments are about; it may be the one that is meant when none is
named. -/
def settingsFile? (arguments : List String) : Option (Option String) :=
  match (invocation? arguments).bind Invocation.action with
  | some (.serve config) | some (.validate config) => some config
  | some (.generateKeys _) | none => none

/-- Holds of arguments that ask for serving. -/
def isServing (arguments : List String) : Bool :=
  match (invocation? arguments).bind Invocation.action with
  | some (.serve _) => true
  | _ => false

/-- Runs the program. -/
def run (machine : Machine) (arguments : List String) : Report :=
  match read [] ⟨program, []⟩ arguments with
  | .refused => .refused
  | .help path long => ⟨0, helpPageOf path long, none, none⟩
  | .run levels => answer machine (Invocation.ofLevels levels)

end RegistryGate.Command
