/-
  Settings as they are written.

  Settings come as a document of sections and values.  Whatever it is written in, a setting needs to
  know only this much of a value: whether it is a text, a whole number, a truth value, a list or a
  section.  A fraction is of no setting's kind, and a date is a section without settings.  The two
  written forms differ in a few places only, where the form is asked for.
-/
import RegistryGate.Json.Basic

namespace RegistryGate.Config

/-- The written forms of settings. -/
inductive Form where
  /-- Lines of keys and values under headers. -/
  | toml
  /-- A JSON value. -/
  | json
deriving DecidableEq

/-- A value of a settings document. -/
inductive Document where
  /-- The absent value. -/
  | absent
  /-- A text. -/
  | text (value : String)
  /-- A whole number. -/
  | whole (value : Int)
  /-- A truth value. -/
  | flag (value : Bool)
  /-- A list. -/
  | list (items : List Document)
  /-- Named values; of two with one name the first one counts. -/
  | table (entries : List (String × Document))
  /-- A number that is not whole. -/
  | fraction
  /-- A date, a time or both. -/
  | moment

namespace Document

/-! ## Documents written as JSON -/

mutual

/-- The settings document that a JSON value is. -/
def ofJson : Json → Document
  | .null => absent
  | .bool b => flag b
  | .number (.integer n) => whole n
  | .number (.real _) => fraction
  | .string s => text s
  | .array items => list (ofJsonItems items)
  | .object members => table (ofJsonMembers members)

/-- The documents of a list. -/
def ofJsonItems : List Json → List Document
  | [] => []
  | item :: items => ofJson item :: ofJsonItems items

/-- The documents of an object. -/
def ofJsonMembers : List (String × Json) → List (String × Document)
  | [] => []
  | (name, value) :: members => (name, ofJson value) :: ofJsonMembers members

end

/-! ## Kinds of settings -/

/-- A text. -/
def asText? : Document → Option String
  | text value => some value
  | _ => none

/-- A list of texts. -/
def asTexts? : Document → Option (List String)
  | list items => items.mapM asText?
  | _ => none

/-- A number from zero to below 2⁶⁴. -/
def asCount? : Document → Option Nat
  | whole n => if 0 ≤ n ∧ n < Nat.pow 2 64 then some n.toNat else none
  | _ => none

/-- A truth value. -/
def asFlag? : Document → Option Bool
  | flag value => some value
  | _ => none

/-- A section, whose settings have these names.  It may also be a list of the first settings' values
in their order; in TOML more values than settings do no harm. -/
def asSection? (form : Form) (names : List String) : Document → Option (List (String × Document))
  | table entries => some entries
  | moment => some []
  | list items =>
    if form == .json && names.length < items.length then none else some (names.zip items)
  | _ => none

/-- One of some words.  It may also be the only name of a section, with nothing as its value. -/
def asWord? (form : Form) : Document → Option String
  | text value => some value
  | table [(word, value)] =>
    match form, value with
    | .json, absent | .toml, table [] | .toml, list [] => some word
    | _, _ => none
  | _ => none

/-! ## Settings of a section -/

/-- A setting that must be there. -/
def required? {α : Type} (read : Document → Option α) (name : String)
    (entries : List (String × Document)) : Option α :=
  (Members.get? name entries).bind read

/-- A setting that may be left out or absent. -/
def optional? {α : Type} (read : Document → Option α) (name : String)
    (entries : List (String × Document)) : Option (Option α) :=
  match Members.get? name entries with
  | none | some absent => some none
  | some value => (read value).map some

/-- A setting that has a value of its own when it is left out. -/
def withDefault? {α : Type} (read : Document → Option α) (fallback : α) (name : String)
    (entries : List (String × Document)) : Option α :=
  match Members.get? name entries with
  | none => some fallback
  | some value => read value

end Document

end RegistryGate.Config
