/-
  The commands of the program.

  A command is described once, by its flags and the commands below it.  Both the reading of
  arguments and the help pages follow the description.
-/
import RegistryGate.Message.Catalog

namespace RegistryGate.Command

/-! ## Descriptions -/

/-- The value of a flag. -/
structure FlagValue where
  /-- What stands for the value in help pages. -/
  placeholder : String
  /-- The values to choose from, with what they mean; none when the value is free. -/
  choices : List (String × String)
  /-- The value of a flag that is left out. -/
  fallback : Option String
  /-- Holds of the values that are accepted. -/
  accepts : String → Bool

/-- A flag. -/
structure Flag where
  /-- The name, without its dashes. -/
  name : String
  /-- What it is for. -/
  about : String
  /-- Its value; a flag without one is just there or not. -/
  value : Option FlagValue

/-- The flags that were given, with their values. -/
abbrev Given := List (String × String)

/-- What the program is asked to do. -/
inductive Action where
  /-- Serve, with the settings of a file. -/
  | serve (config : Option String)
  /-- Judge the settings of a file and all that they name. -/
  | validate (config : Option String)
  /-- Make new keys for identifiers. -/
  | generateKeys (count : Nat)
deriving DecidableEq

/-- The description of a command. -/
inductive Description where
  /-- A command that does something. -/
  | leaf (name about : String) (flags : List Flag) (action : Given → Action)
  /-- A command with others below it, one of which may have to be named. -/
  | group (name about : String) (commands : List Description) (needsCommand : Bool)

namespace Description

/-- The name of a command. -/
def name : Description → String
  | leaf name _ _ _ | group name _ _ _ => name

/-- What a command is for. -/
def about : Description → String
  | leaf _ about _ _ | group _ about _ _ => about

/-- The flags that only this command has. -/
def ownFlags : Description → List Flag
  | leaf _ _ flags _ => flags
  | group .. => []

/-- The commands below a command. -/
def commands : Description → List Description
  | leaf .. => []
  | group _ _ commands _ => commands

end Description

/-! ## The program -/

/-- The natural number below 2⁶⁴ that a text writes, possibly behind a plus sign. -/
def readCount? (text : String) : Option Nat :=
  let cs := text.toList
  let digits := if cs.head? = some '+' then cs.drop 1 else cs
  let n := digits.foldl (fun n c => 10 * n + (c.toNat - 48)) 0
  if !digits.isEmpty && digits.all Text.isDigit && n < Nat.pow 2 64 then some n else none

/-- The flag that asks for the version. -/
def versionFlag : Flag := ⟨"version", "Print version information and exit", none⟩

/-- The flag that chooses the language. -/
def languageFlag : Flag :=
  let choices := [("en", "English"), ("nl", "Dutch")]
  ⟨"lang", "Preferred output language (overrides \x60BRP_GATE_LANG\x60)",
    some ⟨"LANG", choices, none, fun text => (choices.map Prod.fst).contains text⟩⟩

/-- The flags that every command has. -/
def commonFlags : List Flag := [versionFlag, languageFlag]

/-- The flag that names the settings file. -/
def configFlag : Flag :=
  ⟨"config", "Config file path (defaults to \x60BRP_GATE_CONFIG\x60 or \x60brp-gate.toml\x60)",
    some ⟨"PATH", [], none, fun text => !text.isEmpty⟩⟩

/-- The flag for the number of keys. -/
def countFlag : Flag :=
  ⟨"count", "Number of keys to print", some ⟨"N", [], some "1", fun text => (readCount? text).isSome⟩⟩

/-- The value of a flag that was given. -/
def valueOf? (flag : Flag) (given : Given) : Option String := Members.get? flag.name given

/-- The settings file that was given. -/
def configOf (given : Given) : Option String := valueOf? configFlag given

/-- The number of keys that was given; it is one when none was. -/
def countOf (given : Given) : Nat := ((valueOf? countFlag given).bind readCount?).getD 1

/-- The program with all its commands. -/
def program : Description :=
  .group "brp-gate" "Top-level CLI definition"
    [.leaf "serve" "Start the BRP gateway" [configFlag] fun given => .serve (configOf given),
     .group "config" "Configuration utilities"
       [.leaf "validate" "Load and check a config file without starting the gateway" [configFlag]
         fun given => .validate (configOf given)] true,
     .group "keys" "Tokenization key utilities"
       [.leaf "generate" "Print new random tokenization keys" [countFlag]
         fun given => .generateKeys (countOf given)] true]
    false

end RegistryGate.Command
