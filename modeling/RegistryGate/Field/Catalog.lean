/-
  Field lists and the catalog of datasets.

  A dataset is a scope that grants a list of field paths.  The catalog answers two questions: which
  fields a caller gets who asks for none in particular, and which scopes each field requires.
-/
import RegistryGate.Field.Path
import RegistryGate.Policy.Parameter
import RegistryGate.Text.Blank

namespace RegistryGate

/-- Why a catalog is refused. -/
inductive CatalogFault where
  /-- A field path is not well formed. -/
  | invalidPath (path : String)
  /-- A dataset lists no field. -/
  | emptyGroup (dataset : String)
  /-- A dataset is listed twice. -/
  | duplicateGroup (dataset : String)
  /-- A field is not part of the response shape. -/
  | unknownField (path : String)
  /-- An endpoint needs the fields of a record type that are not there. -/
  | missingRecordType (name : String)
  /-- An endpoint needs a response shape that is not there. -/
  | missingShape (service : String)
deriving DecidableEq

/-- The text of a catalog fault. -/
def CatalogFault.message : CatalogFault → String
  | invalidPath path => "invalid field path: " ++ path
  | emptyGroup dataset => "empty field group: " ++ dataset
  | duplicateGroup dataset => "duplicate field group: " ++ dataset
  | unknownField path => "unknown field path: " ++ path
  | missingRecordType name => "missing record type field list: " ++ name
  | missingShape service => "missing response shape: " ++ service

/-! ## Field lists -/

/-- A set of well-formed field paths. -/
structure FieldList where
  /-- The paths, ascending. -/
  entries : NameSet
  /-- Every path is well formed. -/
  valid : ∀ path ∈ entries.toList, Field.isPath path = true

namespace FieldList

theorem ext {a b : FieldList} (h : a.entries = b.entries) : a = b := by
  cases a; cases b; simp_all

instance : DecidableEq FieldList := fun a b =>
  if h : a.entries = b.entries then isTrue (ext h) else isFalse fun e => h (e ▸ rfl)

/-- The list of the given paths; the first one that is not well formed is reported. -/
def ofPaths (paths : List String) : Except CatalogFault FieldList :=
  match h : paths.find? fun path => !Field.isPath path with
  | some path => .error (.invalidPath path)
  | none => .ok ⟨SortedSet.ofList paths, fun path hp => by
      have := List.find?_eq_none.1 h path (SortedSet.mem_ofList.1 hp)
      simpa using this⟩

/-- The lines of a text that hold a path: trimmed, without empty lines and `#` comments. -/
def pathLines (text : String) : List String :=
  ((Text.splitOn '\n' text).map Text.trim).filter fun line =>
    !line.isEmpty && !Text.startsWith "#" line

/-- Reads a field-list text, one path per line. -/
def parse (text : String) : Except CatalogFault FieldList := ofPaths (pathLines text)

/-- Holds when some entry covers the path. -/
def covers (fields : FieldList) (path : String) : Bool :=
  fields.entries.toList.any fun entry => Field.covers entry path

/-- Holds when the path itself is an entry. -/
def contains (fields : FieldList) (path : String) : Bool := fields.entries.contains path

/-- Holds when the list has no entry. -/
def isEmpty (fields : FieldList) : Bool := fields.entries.isEmpty

end FieldList

/-! ## The catalog -/

/-- The field lists that datasets grant. -/
structure FieldCatalog where
  /-- The field lists under the names of their datasets. -/
  groups : Table FieldList
deriving DecidableEq

namespace FieldCatalog

/-- The catalog without datasets. -/
def empty : FieldCatalog := ⟨.empty⟩

/-- Adds a dataset, which must have fields and be new. -/
def insertGroup (catalog : FieldCatalog) (dataset : String) (fields : FieldList) :
    Except CatalogFault FieldCatalog :=
  if fields.isEmpty then .error (.emptyGroup dataset)
  else if catalog.groups.contains dataset then .error (.duplicateGroup dataset)
  else .ok ⟨catalog.groups.insert dataset fields⟩

/-- The field list of a dataset. -/
def group? (catalog : FieldCatalog) (dataset : String) : Option FieldList :=
  catalog.groups.get? dataset

/-- The names of the datasets, ascending. -/
def datasets (catalog : FieldCatalog) : List String := catalog.groups.names

/-- The datasets that grant a path. -/
def grantingDatasets (catalog : FieldCatalog) (path : String) : NameSet :=
  SortedSet.ofList ((catalog.groups.entries.filter fun g => g.2.covers path).map Prod.fst)

/-- The fields that one granted entry contributes to the defaults: its path without wildcard where
the allowed list covers it, else the allowed paths that it covers. -/
def defaultsOf (allowed : Option FieldList) (entry : String) : List String :=
  let base := Field.wildcardBase entry
  match allowed with
  | none => [base]
  | some list =>
    if list.covers base then [base]
    else (list.entries.toList.map Field.wildcardBase).filter (Field.covers base)

/-- The fields of a caller who asks for none in particular: what the granted datasets grant, as far
as it is allowed, without the paths that another one covers. -/
def defaultFields (catalog : FieldCatalog) (granted : NameSet) (allowed : Option FieldList) :
    List String :=
  let held := catalog.groups.entries.filter fun g => granted.contains g.1
  let fields := held.flatMap fun g => g.2.entries.toList.flatMap (defaultsOf allowed)
  Field.minimize (SortedSet.ofList fields)

/-- What a field requires: one of the datasets that grant it; nothing helps outside the allowed
list. -/
def requirementOn (catalog : FieldCatalog) (allowed : Option FieldList) (path : String) :
    Requirement :=
  if allowed.all fun list => list.covers (Field.wildcardBase path) then
    .ofNames (catalog.grantingDatasets path)
  else .unattainable

/-- The paths that have a rule: those that the response knows, and every entry of a dataset. -/
def ruledPaths (catalog : FieldCatalog) (known : List String) : NameSet :=
  SortedSet.ofList (known ++ catalog.groups.entries.flatMap fun g => g.2.entries.toList)

/-- The policy on the `fields` parameter. -/
def fieldPolicy (catalog : FieldCatalog) (known : List String) (allowed : Option FieldList) :
    ParameterPolicy :=
  (catalog.ruledPaths known).toList.foldl
    (fun policy path =>
      policy.withRequirements path (SortedSet.singleton (catalog.requirementOn allowed path)))
    ParameterPolicy.empty.withFieldWildcards

end FieldCatalog

end RegistryGate
