/-
  Positions in a document.

  A position leads into a value, step by step from the outside in: to a member by its name, to an
  item by its number.  What a document has at every position says all about it that a caller can
  see, and two documents are compared position by position (`nested?`).

  Changing or dropping one member of an object changes what is found behind that member only
  (`nested?_insert_self`, `nested?_insert_of_ne`, `nested?_erase_of_ne`), and changing every item of a
  list changes what is found behind each (`nested?_map`).
-/
import RegistryGate.Proofs.Ordered.Lookup
import RegistryGate.Json.Basic

namespace RegistryGate

/-- One step into a value. -/
inductive Step where
  /-- To the member of a name. -/
  | member (name : String)
  /-- To the item of a number, counted from zero. -/
  | item (index : Nat)
deriving DecidableEq

/-- The name of a member that a step leads to. -/
def Step.name? : Step → Option String
  | member name => some name
  | item _ => none

/-- A way into a value, from the outside in. -/
abbrev Position := List Step

/-- The names along a position; the numbers of items do not count. -/
def Position.names (position : Position) : List String := position.filterMap Step.name?

namespace Json

/-- What a value has one step further in. -/
def step? (value : Json) : Step → Option Json
  | .member name => value.get? name
  | .item index => value.asArray?.bind fun items => items[index]?

/-- What a value has at a position. -/
def nested? (value : Json) : Position → Option Json
  | [] => some value
  | step :: rest => (value.step? step).bind fun inner => inner.nested? rest

theorem nested?_cons (value : Json) (step : Step) (rest : Position) :
    value.nested? (step :: rest) = (value.step? step).bind fun inner => inner.nested? rest := rfl

/-- What is found in two stages is found in one. -/
theorem nested?_append (value : Json) (front rest : Position) :
    value.nested? (front ++ rest) = (value.nested? front).bind fun inner => inner.nested? rest := by
  -- on the steps of the front part, whatever the value is that they lead into
  induction front generalizing value with
  | nil => rfl
  | cons step front ih =>
    rw [List.cons_append, nested?_cons, nested?_cons, Option.bind_assoc]
    congr 1
    funext inner
    exact ih inner

/-! ## Objects -/

/-- Behind a member its value is found. -/
theorem nested?_of_get? {name : String} {value : Json} {members : Members Json}
    (h : Members.get? name members = some value) (rest : Position) :
    (Json.object members).nested? (.member name :: rest) = value.nested? rest := by
  show (Members.get? name members).bind _ = _
  rw [h]
  rfl

/-- Behind a member that was dropped, nothing is found. -/
theorem nested?_erase_self (name : String) (members : Members Json) (rest : Position) :
    (Json.object (Members.erase name members)).nested? (.member name :: rest) = none := by
  show (Members.get? name (Members.erase name members)).bind _ = _
  rw [Members.get?_erase_self]
  rfl

/-- Behind any other step the object is as it was. -/
theorem nested?_erase_of_ne {name : String} {step : Step} (h : step ≠ .member name)
    (members : Members Json) (rest : Position) :
    (Json.object (Members.erase name members)).nested? (step :: rest)
      = (Json.object members).nested? (step :: rest) := by
  cases step with
  | item index => rfl
  | member other =>
    have hother : other ≠ name := fun heq => h (congrArg Step.member heq)
    show (Members.get? other (Members.erase name members)).bind _
      = (Members.get? other members).bind _
    rw [Members.get?_erase_of_ne hother]

/-- Behind a member that was put in, that value is found. -/
theorem nested?_insert_self (name : String) (value : Json) (members : Members Json)
    (rest : Position) :
    (Json.object (Members.insert name value members)).nested? (.member name :: rest)
      = value.nested? rest :=
  nested?_of_get? (Members.get?_insert_self name value members) rest

/-- Behind any other step the object is as it was. -/
theorem nested?_insert_of_ne {name : String} {step : Step} (h : step ≠ .member name)
    (value : Json) (members : Members Json) (rest : Position) :
    (Json.object (Members.insert name value members)).nested? (step :: rest)
      = (Json.object members).nested? (step :: rest) := by
  cases step with
  | item index => rfl
  | member other =>
    have hother : other ≠ name := fun heq => h (congrArg Step.member heq)
    show (Members.get? other (Members.insert name value members)).bind _
      = (Members.get? other members).bind _
    rw [Members.get?_insert_of_ne hother]

/-! ## Lists -/

theorem nested?_array_item (items : List Json) (index : Nat) (rest : Position) :
    (Json.array items).nested? (.item index :: rest)
      = items[index]?.bind fun item => item.nested? rest := rfl

/-- Behind an item of a list whose items were changed, the changed item is found. -/
theorem nested?_map (change : Json → Json) (items : List Json) (index : Nat) (rest : Position) :
    (Json.array (items.map change)).nested? (.item index :: rest)
      = items[index]?.bind fun item => (change item).nested? rest := by
  rw [nested?_array_item, List.getElem?_map, Option.bind_map]
  rfl

end Json

end RegistryGate
