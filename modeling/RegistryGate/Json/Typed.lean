/-
  Members of a known kind.

  A document of a fixed form has members that may be left out or absent, and members that must be
  there.  Each reader here answers `none` when the member is of another kind than the form says.
-/
import RegistryGate.Json.Basic

namespace RegistryGate.Json

/-- The texts of a list of texts. -/
def asTexts? (value : Json) : Option (List String) := value.asArray?.bind fun xs =>
  xs.mapM asString?

/-- The natural number below 2⁶⁴ that a value is. -/
def asNat? : Json → Option Nat
  | .number (.integer n) => if n < 0 then none else some n.toNat
  | _ => none

/-- One of some words.  It may also be the only name in an object, with nothing as its value. -/
def asWord? (isNothing : Json → Bool) : Json → Option String
  | .string word => some word
  | .object [(word, value)] => if isNothing value then some word else none
  | _ => none

/-- A member that may be left out or absent. -/
def optional? {α : Type} (read : Json → Option α) (name : String) (ms : Members Json) :
    Option (Option α) :=
  match Members.get? name ms with
  | none | some .null => some none
  | some value => (read value).map some

/-- A member that must be there. -/
def required? {α : Type} (read : Json → Option α) (name : String) (ms : Members Json) :
    Option α :=
  (Members.get? name ms).bind read

/-- A member that may be left out, but is of its kind where it is there. -/
def withDefault? {α : Type} (read : Json → Option α) (fallback : α) (name : String)
    (ms : Members Json) : Option α :=
  match Members.get? name ms with
  | none => some fallback
  | some value => read value

end RegistryGate.Json
