/-
  Policies on the values of one request parameter.

  A policy is a table from exact values to requirement sets, with an optional requirement set for
  all other values.  A policy on field paths may also resolve `parent.child` through the entry
  `parent.*`.  A value that no rule covers is not supported; nothing is allowed implicitly.

  A parameter carries one scalar or a list of them.  A scalar is looked up by its text, whatever kind
  it is of; the absent value and containers have no such text and are never supported.
-/
import RegistryGate.Policy.Requirement
import RegistryGate.Json.Printer

namespace RegistryGate

namespace Json

/-- The text under which a scalar is looked up in a policy. -/
def scalarText? : Json → Option String
  | .string s => some s
  | .bool b => some (if b then "true" else "false")
  | .number n => some n.text
  | .null | .array _ | .object _ => none

/-- The text of any value in an error: the scalar's text, or the compact JSON text. -/
def displayText (value : Json) : String := value.scalarText?.getD value.render

/-- The values that a parameter carries: the items of a list, or the value itself. -/
def elements : Json → List Json
  | .array items => items
  | value => [value]

end Json

/-- The rules on the values of one parameter. -/
structure ParameterPolicy where
  /-- The requirements on exact values. -/
  values : Table Requirements
  /-- The requirements on every other value; without them other values are not supported. -/
  fallback : Option Requirements
  /-- Set when `parent.child` may be resolved by the entry `parent.*`. -/
  fieldWildcards : Bool
deriving DecidableEq

namespace ParameterPolicy

/-- The policy that supports no value. -/
def empty : ParameterPolicy := ⟨.empty, none, false⟩

/-- The policy that supports every value and requires nothing. -/
def allowAll : ParameterPolicy := ⟨.empty, some .empty, false⟩

/-- The policy that requires one scope for every value. -/
def forAllValues (scope : String) : ParameterPolicy :=
  ⟨.empty, some (Requirements.ofScope scope), false⟩

/-- Adds a value with its requirements. -/
def withRequirements (p : ParameterPolicy) (value : String) (needed : Requirements) :
    ParameterPolicy :=
  { p with values := p.values.insert value needed }

/-- Adds a value that requires one scope. -/
def withValue (p : ParameterPolicy) (value scope : String) : ParameterPolicy :=
  p.withRequirements value (Requirements.ofScope scope)

/-- Adds a value that requires nothing. -/
def allowValue (p : ParameterPolicy) (value : String) : ParameterPolicy :=
  p.withRequirements value .empty

/-- Sets the requirements on values that are not listed. -/
def withFallback (p : ParameterPolicy) (needed : Requirements) : ParameterPolicy :=
  { p with fallback := some needed }

/-- Lets `parent.child` be resolved by `parent.*`. -/
def withFieldWildcards (p : ParameterPolicy) : ParameterPolicy := { p with fieldWildcards := true }

/-- The requirements that the entry `parent.*` of a dotted value sets. -/
def wildcardRequirements? (p : ParameterPolicy) (value : String) : Option Requirements :=
  if p.fieldWildcards then
    (Text.splitLast? '.' value).bind fun split => p.values.get? (split.1 ++ ".*")
  else none

/-- The requirements on a value: those of its own entry, else those of the wildcard entry above it,
else those on all other values; `none` when the value is not supported. -/
def requirementsFor? (p : ParameterPolicy) (value : String) : Option Requirements :=
  ((p.values.get? value).or (p.wildcardRequirements? value)).or p.fallback

/-- The requirements on one element of a parameter. -/
def requirementsOn? (p : ParameterPolicy) (element : Json) : Option Requirements :=
  element.scalarText?.bind p.requirementsFor?

/-- The texts of the elements that are not supported, in the order of the request. -/
def rejected (p : ParameterPolicy) (value : Json) : List String :=
  (value.elements.filter fun e => (p.requirementsOn? e).isNone).map Json.displayText

/-- The requirements on all supported elements together. -/
def required (p : ParameterPolicy) (value : Json) : Requirements :=
  value.elements.foldl (fun acc e => acc.union ((p.requirementsOn? e).getD .empty)) .empty

end ParameterPolicy

end RegistryGate
