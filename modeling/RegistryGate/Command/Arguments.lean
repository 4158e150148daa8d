/-
  Reading the arguments of the program.

  Arguments are read from left to right.  The name of a command leads to that command, and the flags
  that follow are its own.  A request for help is answered as soon as it is met; anything that the
  commands do not describe is refused.
-/
import RegistryGate.Command.Grammar

namespace RegistryGate.Command

/-! ## Single arguments -/

/-- The form of an argument. -/
inductive Word where
  /-- A flag by its name, possibly with its value. -/
  | long (name : String) (value : Option String)
  /-- Flags by their letters. -/
  | short (letters : List Char)
  /-- Two dashes, behind which nothing is a flag. -/
  | separator
  /-- Anything else. -/
  | plain (text : String)
deriving DecidableEq

/-- The form of an argument. -/
def Word.ofText (text : String) : Word :=
  match text.toList with
  | ['-', '-'] => .separator
  | '-' :: '-' :: rest =>
    match rest.span (· != '=') with
    | (name, []) => .long (String.ofList name) none
    | (name, _ :: value) => .long (String.ofList name) (some (String.ofList value))
  | '-' :: c :: rest => .short (c :: rest)
  | _ => .plain text

/-- Holds of arguments that may be the value of the flag before them. -/
def isValue (text : String) : Bool :=
  match Word.ofText text with
  | .plain _ => true
  | _ => false

/-! ## All arguments -/

/-- A command that was named, and the flags that were given for it. -/
structure Level where
  /-- The command. -/
  command : Description
  /-- The flags. -/
  given : Given

/-- The level with one more flag. -/
def Level.add (level : Level) (name value : String) : Level :=
  { level with given := level.given ++ [(name, value)] }

/-- What the arguments ask for. -/
inductive Reading where
  /-- To run a command; the levels lead to it, outermost first. -/
  | run (levels : List Level)
  /-- A help page of a command; the path leads to it, and it may be the long one. -/
  | help (path : List Description) (long : Bool)
  /-- Nothing that can be done. -/
  | refused

/-- The flag of a name. -/
def Description.flag? (command : Description) (name : String) : Option Flag :=
  (command.ownFlags ++ commonFlags).find? fun flag => flag.name == name

/-- The command of a name below another one. -/
def Description.find? (command : Description) (name : String) : Option Description :=
  command.commands.find? fun c => c.name == name

/-- Holds of commands that cannot run by themselves. -/
def Description.isIncomplete : Description → Bool
  | leaf .. => false
  | group _ _ _ needsCommand => needsCommand

/-- The name of the flag that shows a help page. -/
def helpName : String := "help"

/-- The reading of arguments that have come to an end. -/
def finish (outer : List Level) (here : Level) : Reading :=
  if here.command.isIncomplete then .refused else .run (outer ++ [here])

/-- Reads arguments at a level. -/
def read (outer : List Level) (here : Level) : List String → Reading
  | [] => finish outer here
  | argument :: rest =>
    let path := outer.map Level.command
    match Word.ofText argument with
    -- nothing may stand behind the separator
    | .separator => if rest.isEmpty then finish outer here else .refused
    | .short letters =>
      if letters.head? = some 'h' then .help (path ++ [here.command]) false else .refused
    | .plain name =>
      match here.command.find? name with
      | some command => read (outer ++ [here]) ⟨command, []⟩ rest
      | none => .refused
    | .long name value =>
      if name = helpName then
        if value.isNone then .help (path ++ [here.command]) true else .refused
      else if (Members.get? name here.given).isSome then .refused
      else
        -- a value stands behind an equals sign or in the next argument
        match (here.command.flag? name).map Flag.value, value, rest with
        | some none, none, rest => read outer (here.add name "") rest
        | some (some v), some text, rest =>
          if v.accepts text then read outer (here.add name text) rest else .refused
        | some (some v), none, text :: rest =>
          if isValue text && v.accepts text then read outer (here.add name text) rest else .refused
        | _, _, _ => .refused

/-! ## Invocations -/

/-- What the program was called for. -/
structure Invocation where
  /-- Set when the version is asked for. -/
  version : Bool
  /-- The language that was chosen. -/
  language : Option Locale
  /-- What is to be done. -/
  action : Option Action
deriving DecidableEq

/-- The action of a level. -/
def Level.action? (level : Level) : Option Action :=
  match level.command with
  | .leaf _ _ _ action => some (action level.given)
  | .group .. => none

/-- The invocation that the levels make; of several languages the innermost counts. -/
def Invocation.ofLevels (levels : List Level) : Invocation where
  version := levels.any fun level => (valueOf? versionFlag level.given).isSome
  language := ((levels.filterMap fun level => valueOf? languageFlag level.given).getLast?).bind
    Locale.parse?
  action := levels.getLast?.bind Level.action?

end RegistryGate.Command
