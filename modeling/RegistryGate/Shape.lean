/-
  Response shapes: which fields a record has.

  A shape is read off an example record in which every field is present.  A list takes the shape of
  its first item.  Asking for the fields of a list means asking for those of its items, at any depth
  of nested lists.
-/
import RegistryGate.Json.Basic
import RegistryGate.Field.Path

namespace RegistryGate

/-- The outline of one field. -/
inductive Shape where
  /-- Neither an object nor a list. -/
  | scalar
  /-- An object with its fields, in ascending order of their names. -/
  | object (fields : List (String × Shape))
  /-- A list of items of one outline. -/
  | list (item : Shape)

namespace Shape

mutual

/-- The outline of an example value. -/
def ofJson : Json → Shape
  | .object members => .object (ofMembers members)
  | .array items => .list (ofFirst items)
  | .null | .bool _ | .number _ | .string _ => .scalar

/-- The outline of the first item of a list; an empty list tells nothing. -/
def ofFirst : List Json → Shape
  | [] => .scalar
  | item :: _ => ofJson item

/-- The outlines of an object's members. -/
def ofMembers : List (String × Json) → List (String × Shape)
  | [] => []
  | (name, value) :: rest => (name, ofJson value) :: ofMembers rest

end

/-- The fields of an object, or of the items of a list. -/
def fields? : Shape → Option (Members Shape)
  | scalar => none
  | object fields => some fields
  | list item => item.fields?

/-- The outline of a named field. -/
def field? (shape : Shape) (name : String) : Option Shape :=
  shape.fields?.bind (Members.get? name)

/-- The outline at the end of a path, given by the names along it. -/
def resolveSegments (shape : Shape) : List String → Option Shape
  | [] => some shape
  | name :: rest => (shape.field? name).bind fun child => child.resolveSegments rest

/-- The outline at the end of a dotted path. -/
def resolve? (shape : Shape) (path : String) : Option Shape :=
  shape.resolveSegments (Field.segments path)

/-- The value that stands for an absent field: an empty list for a list, else the absent value. -/
def emptyValue : Shape → Json
  | list _ => .array []
  | scalar | object _ => .null

mutual

/-- The paths below an outline at the path `parent`. -/
def pathsBelow (parent : String) : Shape → List String
  | scalar => []
  | list item => pathsBelow parent item
  | object fields => pathsOfFields parent fields

/-- The paths of the listed fields; one that has fields itself comes with its wildcard. -/
def pathsOfFields (parent : String) : List (String × Shape) → List String
  | [] => []
  | (name, child) :: rest =>
    let path := Field.below parent name
    (if child.fields?.isSome then [path ++ ".*"] else [])
      ++ path :: pathsBelow path child ++ pathsOfFields parent rest

end

end Shape

/-- The shape of a response record, which is an object. -/
structure ResponseShape where
  /-- The fields of the record. -/
  fields : Members Shape

/-- Why an example yields no response shape. -/
inductive ShapeFault where
  /-- The example is not an object. -/
  | notAnObject
deriving DecidableEq

/-- The text of a shape fault. -/
def ShapeFault.message : ShapeFault → String
  | notAnObject => "response shape must be a JSON object"

namespace ResponseShape

/-- The shape of an example record. -/
def ofJson : Json → Except ShapeFault ResponseShape
  | .object members => .ok ⟨Shape.ofMembers members⟩
  | _ => .error .notAnObject

/-- The outline of the record itself. -/
def root (shape : ResponseShape) : Shape := .object shape.fields

/-- The outline at the end of a dotted path. -/
def resolve? (shape : ResponseShape) (path : String) : Option Shape := shape.root.resolve? path

/-- Holds when the path, without its wildcard, leads to a field. -/
def knows (shape : ResponseShape) (path : String) : Bool :=
  (shape.resolve? (Field.wildcardBase path)).isSome

/-- Every path that leads to a field, and `x.*` before each `x` that has fields. -/
def knownPaths (shape : ResponseShape) : List String := Shape.pathsBelow "" shape.root

end ResponseShape

end RegistryGate
