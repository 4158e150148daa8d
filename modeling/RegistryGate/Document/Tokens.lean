/-
  Replacing the texts of named members.

  Every text under one of the given names, at any depth, is replaced; the members of an object are
  visited in their order.  A replacement may fail; the first failure ends the walk.
-/
import RegistryGate.Json.Basic

namespace RegistryGate.Document

variable {m : Type → Type} [Monad m]

mutual

/-- Replaces the texts of the named members inside a value. -/
def replaceTexts (fields : List String) (replacement : String → m String) : Json → m Json
  | .array items => do
    let items ← replaceTextsIn fields replacement items
    return .array items
  | .object members => do
    let members ← replaceTextsOf fields replacement members
    return .object members
  | .null => return .null
  | .bool b => return .bool b
  | .number n => return .number n
  | .string s => return .string s

/-- Replaces the texts of the named members inside the listed values. -/
def replaceTextsIn (fields : List String) (replacement : String → m String) :
    List Json → m (List Json)
  | [] => return []
  | item :: rest => do
    let item ← replaceTexts fields replacement item
    let rest ← replaceTextsIn fields replacement rest
    return item :: rest

/-- Replaces the texts of the named ones among the listed members. -/
def replaceTextsOf (fields : List String) (replacement : String → m String) :
    List (String × Json) → m (List (String × Json))
  | [] => return []
  | (name, .string text) :: rest => do
    let text ← if fields.contains name then replacement text else pure text
    let rest ← replaceTextsOf fields replacement rest
    return (name, .string text) :: rest
  | (name, value) :: rest => do
    let value ← replaceTexts fields replacement value
    let rest ← replaceTextsOf fields replacement rest
    return (name, value) :: rest

end

end RegistryGate.Document
