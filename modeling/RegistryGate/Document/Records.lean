/-
  The records of an answer: hiding, stripping and naming them.

  The records are the items of one list member of the answer.  An answer without that list is left
  as it is by every function here.
-/
import RegistryGate.Json.Basic
import RegistryGate.Field.Path

namespace RegistryGate.Document

/-! ## Reaching the records -/

/-- Changes the record list of a document. -/
def modifyRecords (recordsKey : String) (change : List Json → List Json) : Json → Json
  | .object members =>
    match Members.get? recordsKey members with
    | some (.array records) => .object (Members.insert recordsKey (.array (change records)) members)
    | _ => .object members
  | document => document

/-- Changes every record of a document. -/
def mapRecords (recordsKey : String) (change : Json → Json) (document : Json) : Json :=
  modifyRecords recordsKey (List.map change) document

/-- The records of a document. -/
def records (recordsKey : String) (document : Json) : List Json :=
  ((document.get? recordsKey).bind Json.asArray?).getD []

/-! ## Confidential records -/

/-- Holds of a marker that is set: `true`, a number other than zero, a text other than the empty
one and `0`. -/
def isSet : Json → Bool
  | .bool b => b
  | .number n => !n.isZero
  | .string s => !s.isEmpty && s != "0"
  | .null | .array _ | .object _ => false

/-- Holds of a record whose marker is set. -/
def isConfidential (markerField : String) (record : Json) : Bool :=
  (record.get? markerField).any isSet

/-- The document without its confidential records. -/
def hideConfidential (recordsKey markerField : String) (document : Json) : Json :=
  modifyRecords recordsKey (List.filter fun r => !isConfidential markerField r) document

/-- The number of confidential records of a document. -/
def confidentialCount (recordsKey markerField : String) (document : Json) : Nat :=
  (records recordsKey document).countP (isConfidential markerField)

/-- Takes the confidential records out of a document, and counts them. -/
def filterConfidential (recordsKey markerField : String) (document : Json) : Json × Nat :=
  (hideConfidential recordsKey markerField document,
    confidentialCount recordsKey markerField document)

/-! ## Stripping fields -/

/-- Removes the field at the end of a path, given by the names along it; the objects on the way
stay. -/
def removeSegments : List String → Members Json → Members Json
  | [], members => members
  | [name], members => Members.erase name members
  | name :: rest, members =>
    match Members.get? name members with
    | some (.object inner) => Members.insert name (.object (removeSegments rest inner)) members
    | _ => members

/-- Removes fields from a record. -/
def stripRecord (fields : List String) : Json → Json
  | .object members =>
    .object (fields.foldl (fun ms field => removeSegments (Field.segments field) ms) members)
  | record => record

/-- Removes fields from every record. -/
def stripFields (recordsKey : String) (fields : List String) (document : Json) : Json :=
  if fields.isEmpty then document else mapRecords recordsKey (stripRecord fields) document

/-! ## Naming records -/

/-- What is recorded for an identifier that a record does not have. -/
def absentIdentifier : String := "?"

/-- The value at the end of a path inside objects. -/
def valueAt? (value : Json) : List String → Option Json
  | [] => some value
  | name :: rest => (value.get? name).bind fun inner => valueAt? inner rest

/-- The text of an identifier: that of a text or a number. -/
def identifierText? : Json → Option String
  | .string s => some s
  | .number n => some n.text
  | .null | .bool _ | .array _ | .object _ => none

/-- The text of a record's identifier, or the mark of an absent one. -/
def identifierOf (record : Json) (field : String) : String :=
  ((valueAt? record (Field.segments field)).bind identifierText?).getD absentIdentifier

/-- The identifiers of one record, under the names of their fields. -/
def identifiersOf (fields : List String) (record : Json) : Members String :=
  Members.ofList (fields.map fun field => (field, identifierOf record field))

/-- The identifiers of every record, in the order of the records. -/
def captureIdentifiers (recordsKey : String) (fields : List String) (document : Json) :
    List (Members String) :=
  if fields.isEmpty then [] else (records recordsKey document).map (identifiersOf fields)

end RegistryGate.Document
