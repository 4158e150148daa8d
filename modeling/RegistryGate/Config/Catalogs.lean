/-
  Loading the catalogs of the endpoints.

  The catalog directory holds, per service, an example record, the field lists of the datasets and
  possibly those of the record types.  A field list is a file with one path per line; its name
  without `.txt` is the name of the dataset or record type.  A catalog is loaded as a whole or not
  at all: one faulty file is enough to refuse it.
-/
import RegistryGate.Config.Resources
import RegistryGate.Endpoint.Services
import RegistryGate.Json.Reader

namespace RegistryGate.Config

/-- The most bytes of a catalog file. -/
def maxCatalogBytes : Nat := 1024 * 1024

/-- The ending of the names of field-list files. -/
def fieldListEnding : String := "txt"

/-- The directory of the example records. -/
def shapeDirectory : String := "schemas"

/-- The directory of the field lists of datasets. -/
def datasetDirectory : String := "dataset_fields"

/-- The directory of the field lists of record types. -/
def recordDirectory : String := "fields"

/-! ## Files -/

/-- The text of a catalog file. -/
def readCatalogFile (files : FileSystem) (path : String) : Except CatalogFileFault String :=
  match files.readText maxCatalogBytes path with
  | .ok text => .ok text
  | .error fault => .error (.content fault)

/-- The shape that an example record gives. -/
def readShape (files : FileSystem) (path : String) : Except CatalogFileFault ResponseShape := do
  let text ← readCatalogFile files path
  match Json.parse? text with
  | none => throw .notJson
  | some example' =>
    match ResponseShape.ofJson example' with
    | .ok shape => return shape
    | .error fault => throw (.shape fault)

/-- The field list of a file, all of whose fields the shape must know. -/
def readFieldList (files : FileSystem) (shape : ResponseShape) (path : String) :
    Except CatalogFileFault FieldList := do
  let text ← readCatalogFile files path
  match FieldList.parse text with
  | .error fault => throw (.fields fault)
  | .ok list =>
    match list.entries.toList.find? fun field => !shape.knows field with
    | some field => throw (.fields (.unknownField field))
    | none => return list

/-- A verdict on a file as a verdict on the catalog. -/
def inFile {α : Type} (path : String) : Except CatalogFileFault α → Except CatalogError α
  | .ok a => .ok a
  | .error fault => .error (.file path fault)

/-! ## Directories -/

/-- The field list of a directory entry, with its name; none for entries of other names. -/
def readEntry (files : FileSystem) (shape : ResponseShape) (directory name : String) :
    Except CatalogError (Option (String × FieldList)) :=
  match Path.stem? fieldListEnding name with
  | none => .ok none
  | some stem =>
    let path := Path.join directory name
    (inFile path (readFieldList files shape path)).map fun list => some (stem, list)

/-- The field lists of a directory, by their names. -/
def readFieldLists (files : FileSystem) (shape : ResponseShape) (directory : String) :
    Except CatalogError (Table FieldList) :=
  match files.list directory with
  | .error fault => .error (.file directory (.content (.unreadable fault)))
  | .ok names => do
    let lists ← names.mapM (readEntry files shape directory)
    return Table.ofList (lists.filterMap id)

/-- The catalog of datasets that named field lists make. -/
def datasetsOf (service : String) (lists : Table FieldList) : Except CatalogError FieldCatalog :=
  let add := fun (catalog : FieldCatalog) (entry : String × FieldList) =>
    catalog.insertGroup entry.1 entry.2
  match lists.entries.foldlM add FieldCatalog.empty with
  | .error fault => .error (.datasets service fault)
  | .ok catalog => if catalog.datasets.isEmpty then .error (.noDatasets service) else .ok catalog

/-- The catalog of one service. -/
def loadCatalog (files : FileSystem) (directory service : String) :
    Except CatalogError EndpointCatalog := do
  let shapePath := Path.join (Path.join directory shapeDirectory) (service ++ ".json")
  let shape ← inFile shapePath (readShape files shapePath)
  let lists ← readFieldLists files shape (Path.join (Path.join directory datasetDirectory) service)
  let datasets ← datasetsOf service lists
  let records := Path.join (Path.join directory recordDirectory) service
  let recordTypes ←
    if files.isDirectory records then readFieldLists files shape records else pure .empty
  return ⟨datasets, some shape, recordTypes⟩

/-! ## Endpoints -/

/-- What an endpoint takes from the settings. -/
def Settings.forService (s : Settings) (service : String) : Services.Settings :=
  ⟨s.register.serviceUrl service, s.server.publicBaseUrl⟩

/-- An endpoint that needs a catalog. -/
def catalogEndpoint (env : Environment) (s : Settings) (service : String)
    (build : Services.Settings → EndpointCatalog → Except CatalogFault Endpoint) :
    Except CatalogError Endpoint := do
  let catalog ← loadCatalog env.files s.catalogDir service
  match build (s.forService service) catalog with
  | .ok endpoint => return endpoint
  | .error fault => throw (.endpoint fault)

/-- The endpoints of the gateway. -/
def Settings.buildEndpoints (s : Settings) (env : Environment) :
    Except CatalogError (List Endpoint) := do
  let personen ← catalogEndpoint env s Services.personen Services.personenEndpoint
  let reisdocumenten ←
    catalogEndpoint env s Services.reisdocumenten Services.reisdocumentenEndpoint
  return [personen,
    Services.bewoningenEndpoint (s.forService Services.bewoningen),
    Services.verblijfplaatshistorieEndpoint (s.forService Services.verblijfplaatshistorie),
    reisdocumenten]

/-- The endpoints of the gateway, or why it cannot be configured. -/
def Settings.endpoints (s : Settings) (env : Environment) : Except ConfigError (List Endpoint) :=
  match s.buildEndpoints env with
  | .ok endpoints => .ok endpoints
  | .error error => .error (.catalog error)

end RegistryGate.Config
