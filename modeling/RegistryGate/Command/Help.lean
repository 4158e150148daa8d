/-
  Help pages.

  A page says what a command is for, how it is called, which commands are below it and which flags
  it has.  The short page has a line for every flag; the long one has a paragraph, and says what the
  values to choose from mean.
-/
import RegistryGate.Command.Arguments

namespace RegistryGate.Command

/-- A text with blanks behind it, up to a width. -/
def padded (width : Nat) (text : String) : String :=
  text ++ String.ofList (List.replicate (width - text.length) ' ')

/-- Two columns, with two blanks between them. -/
def columns (rows : List (String × String)) : List String :=
  let width := (rows.map fun row => row.1.length).foldl max 0
  rows.map fun row => "  " ++ padded width row.1 ++ "  " ++ row.2

/-! ## Commands -/

/-- The line that says how a command is called. -/
def usage (path : List Description) (command : Description) : String :=
  let names := Text.joinWith " " ((path ++ [command]).map Description.name)
  let below := match command with
    | .leaf .. => ""
    | .group _ _ _ needsCommand => if needsCommand then " <COMMAND>" else " [COMMAND]"
  "Usage: " ++ names ++ " [OPTIONS]" ++ below

/-- The part of a page about the commands below. -/
def commandLines (command : Description) : List String :=
  match command.commands.map fun c => (c.name, c.about) with
  | [] => []
  | rows => "Commands:" :: columns rows ++ [""]

/-! ## Flags -/

/-- A flag as it is typed. -/
def Flag.label (flag : Flag) : String :=
  "    --" ++ flag.name ++ flag.value.elim "" fun v => " <" ++ v.placeholder ++ ">"

/-- The flag for help as it is typed. -/
def helpLabel : String := "-h, --help"

/-- What a short page adds about the value of a flag. -/
def Flag.remark (flag : Flag) : String :=
  match flag.value with
  | none => ""
  | some v =>
    (v.fallback.elim "" fun value => " [default: " ++ value ++ "]") ++
      if v.choices.isEmpty then ""
      else " [possible values: " ++ Text.joinWith ", " (v.choices.map Prod.fst) ++ "]"

/-- The flags of a command on a short page. -/
def shortFlagLines (flags : List Flag) : List String :=
  columns ((flags.map fun flag => (flag.label, flag.about ++ flag.remark)) ++
    [(helpLabel, "Print help (see more with '--help')")])

/-- The blanks in front of the text of a paragraph. -/
def indent : String := "          "

/-- What a long page adds about the value of a flag. -/
def Flag.notes (flag : Flag) : List String :=
  match flag.value with
  | none => []
  | some v =>
    (v.fallback.elim [] fun value => [indent, indent ++ "[default: " ++ value ++ "]"]) ++
      if v.choices.isEmpty then []
      else "" :: (indent ++ "Possible values:") ::
        v.choices.map fun choice => indent ++ "- " ++ choice.1 ++ ": " ++ choice.2

/-- The flags of a command on a long page. -/
def longFlagLines (flags : List Flag) : List String :=
  (flags.flatMap fun flag =>
    ["  " ++ flag.label, indent ++ flag.about] ++ flag.notes ++ [""]) ++
    ["  " ++ helpLabel, indent ++ "Print help (see a summary with '-h')"]

/-! ## Pages -/

/-- The help page of a command, given the commands that lead to it. -/
def helpPage (path : List Description) (command : Description) (long : Bool) : List String :=
  let flags := command.ownFlags ++ commonFlags
  [command.about, "", usage path command, ""] ++ commandLines command ++
    "Options:" :: if long then longFlagLines flags else shortFlagLines flags

/-- The help page of the last command of a path. -/
def helpPageOf (path : List Description) (long : Bool) : List String :=
  match path.getLast? with
  | none => []
  | some command => helpPage path.dropLast command long

end RegistryGate.Command
