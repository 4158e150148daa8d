/-
  Snapshots of a machine.

  Files are read, directories listed and logs opened before a call of the program is computed; the
  call then sees what was found.  What was not looked at does not exist.
-/
import RegistryGate.Storage.Basic

namespace RegistryGate.Storage

/-- What was found on a machine. -/
structure Snapshot where
  /-- The environment variables that are set. -/
  values : List (String × String)
  /-- The contents of files. -/
  contents : List (String × Except IoFault ByteArray)
  /-- The names in directories. -/
  listings : List (String × Except IoFault (List String))
  /-- The files that were opened for appending. -/
  logs : List (String × Except IoFault Unit)

namespace Snapshot

/-- What was found under a path. -/
def found {α : Type} (path : String) (findings : List (String × Except IoFault α)) :
    Except IoFault α :=
  (findings.lookup path).getD (.error .notFound)

/-- The file operations on what was found. -/
def fileSystem (s : Snapshot) : FileSystem where
  read := fun path => found path s.contents
  list := fun path => found path s.listings
  isDirectory := fun path =>
    match found path s.listings with
    | .ok _ => true
    | .error _ => false
  appendable := fun path => found path s.logs

/-- The environment that was found. -/
def environment (s : Snapshot) : Environment := ⟨s.fileSystem, fun name => s.values.lookup name⟩

end Snapshot

end RegistryGate.Storage
