/-
  Completing records.

  A caller who asks for the full result gets every requested field, also where the register leaves
  it out.  An absent field that the shape knows gets its empty value; an absent object of which
  particular fields were requested gets those.  What is present is never changed, except that
  completion goes on inside it.

  The recursion runs over the shape: each known field is looked up among the requested names, and
  lists of objects, nested to any depth, are completed item by item.
-/
import RegistryGate.Document.Records
import RegistryGate.Field.Tree
import RegistryGate.Shape

namespace RegistryGate.Document

/-! ## What is requested -/

/-- The requested name that stands for every field. -/
def everyField : String := "*"

/-- The request for every field, and for everything inside of each. -/
def wholeRecord : FieldTree := FieldTree.ofPaths [everyField]

/-- What is requested inside of a known field; `none` when the field is not requested.  The star
stands for every known field that is not requested by its own name, and never for itself. -/
def requestedIn? (requested : FieldTree) (name : String) : Option FieldTree :=
  if name = everyField then none
  else
    match requested.get? name with
    | some inner => some inner
    | none => if (requested.get? everyField).isSome then some .leaf else none

/-- What is requested inside of a present field: of a field requested as a whole, everything. -/
def insideOf (inner : FieldTree) : FieldTree := if inner.isLeaf then wholeRecord else inner

/-! ## Completion -/

mutual

/-- Changes the objects that a value is or lists, at any depth of nested lists. -/
def mapObjects (change : Members Json → Members Json) : Json → Json
  | .object members => .object (change members)
  | .array items => .array (mapObjectsOf change items)
  | .null => .null
  | .bool b => .bool b
  | .number n => .number n
  | .string s => .string s

/-- Changes the objects that the listed values are or list. -/
def mapObjectsOf (change : Members Json → Members Json) : List Json → List Json
  | [] => []
  | item :: rest => mapObjects change item :: mapObjectsOf change rest

end

mutual

/-- Completes the members of an object of the given shape. -/
def completeMembers (requested : FieldTree) : Shape → Members Json → Members Json
  | .scalar, members => members
  | .list item, members => completeMembers requested item members
  | .object fields, members => completeFields requested fields members

/-- Completes the listed fields of an object. -/
def completeFields (requested : FieldTree) :
    List (String × Shape) → Members Json → Members Json
  | [], members => members
  | (name, shape) :: rest, members =>
    let members :=
      match requestedIn? requested name with
      | none => members
      | some inner =>
        match Members.get? name members with
        | none => Members.insert name (absentField inner shape) members
        | some value =>
          let value := mapObjects (completeMembers (insideOf inner) shape) value
          Members.insert name value members
    completeFields requested rest members

/-- The value of a requested field that is absent. -/
def absentField (inner : FieldTree) : Shape → Json
  | .object fields =>
    -- a request that ends here asks for no field in particular
    if inner.isLeaf then (Shape.object fields).emptyValue
    else .object (completeFields inner fields [])
  | .list item => (Shape.list item).emptyValue
  | .scalar => Shape.scalar.emptyValue

end

/-- Completes one record; a record that is no object is left as it is. -/
def completeRecord (requested : FieldTree) (shape : Shape) : Json → Json
  | .object members => .object (completeMembers requested shape members)
  | record => record

/-- Completes every record of a document. -/
def completeRecords (recordsKey : String) (requested : FieldTree) (shape : Shape)
    (document : Json) : Json :=
  mapRecords recordsKey (completeRecord requested shape) document

end RegistryGate.Document
