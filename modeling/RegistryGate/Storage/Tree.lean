/-
  A file tree in memory.

  A tree of directories and files, and the rules by which a path finds its place in it: names are
  looked up one after the other, each in a directory that is there; `.` and the empty name stay
  where they are, `..` goes back to the directory above.  `Tree.fileSystem` answers every file
  operation on a tree.
-/
import RegistryGate.Ordered.Members
import RegistryGate.Storage.Basic
import RegistryGate.Storage.Path

namespace RegistryGate.Storage

/-- A file or a directory. -/
inductive Tree where
  /-- A file with its content. -/
  | file (content : ByteArray)
  /-- A directory with its entries. -/
  | directory (entries : List (String × Tree))

namespace Tree

/-- The directory without entries. -/
def empty : Tree := .directory []

/-- The most bytes of a name. -/
def maxNameLength : Nat := 255

/-- The most bytes of a path. -/
def maxPathLength : Nat := 4095

/-! ## Building -/

/-- Puts something at the place that a list of names leads to; directories on the way are made. -/
def put (leaf : Tree) : List String → Tree → Tree
  | [], _ => leaf
  | name :: names, tree =>
    let entries := match tree with
      | .directory entries => entries
      | .file _ => []
    let child := (Members.get? name entries).getD empty
    .directory (Members.insert name (put leaf names child) entries)

/-! ## Looking up -/

/-- The place of a path: the node, and the directories above it, nearest first. -/
structure Place where
  /-- What is there. -/
  node : Tree
  /-- The directories above. -/
  above : List Tree

/-- One step of a look-up. -/
def step (place : Place) (name : String) : Except IoFault Place :=
  match place.node with
  | .file _ => .error .notDirectory
  | .directory entries =>
    if name.isEmpty || name == "." then .ok place
    else if name == ".." then
      match place.above with
      -- there is nothing above the root
      | [] => .ok place
      | node :: above => .ok ⟨node, above⟩
    else if maxNameLength < name.utf8ByteSize then .error .nameTooLong
    else
      match Members.get? name entries with
      | none => .error .notFound
      | some node => .ok ⟨node, place.node :: place.above⟩

/-- Passes when a path may be looked up at all. -/
def checkPath (path : String) : Except IoFault Unit :=
  if path.toList.contains (Char.ofNat 0) then .error .nulInPath
  else if path.isEmpty then .error .notFound
  else if maxPathLength < path.utf8ByteSize then .error .nameTooLong
  else .ok ()

/-- The place of a path, seen from a working directory, which is an absolute path. -/
def find (root : Tree) (working path : String) : Except IoFault Place := do
  checkPath path
  (Path.components (Path.join working path)).foldlM step ⟨root, []⟩

/-! ## Operations -/

/-- The content of a file. -/
def read (root : Tree) (working path : String) : Except IoFault ByteArray := do
  match (← find root working path).node with
  | .file content => return content
  | .directory _ => throw .isDirectory

/-- The names in a directory. -/
def list (root : Tree) (working path : String) : Except IoFault (List String) := do
  match (← find root working path).node with
  | .file _ => throw .notDirectory
  | .directory entries => return Members.names entries

/-- Holds of paths of directories. -/
def isDirectory (root : Tree) (working path : String) : Bool :=
  match find root working path with
  | .ok ⟨.directory _, _⟩ => true
  | _ => false

/-- Passes when a file can be opened for appending.  The last name may be missing from its
directory, but it must be a name. -/
def appendable (root : Tree) (working path : String) : Except IoFault Unit := do
  checkPath path
  let names := Path.components (Path.join working path)
  let place ← names.dropLast.foldlM step ⟨root, []⟩
  match names.getLast? with
  | none | some "" => throw .isDirectory
  | some name =>
    match step place name with
    | .ok ⟨.directory _, _⟩ => throw .isDirectory
    | .ok ⟨.file _, _⟩ | .error .notFound => return ()
    | .error fault => throw fault

/-- The names that lead to a path without any way back. -/
def route (names : List String) : List String :=
  (names.foldl (fun route name =>
    if name.isEmpty || name == "." then route
    else if name == ".." then route.drop 1
    else name :: route) []).reverse

/-- Gives the file at a path a content. -/
def write (working path : String) (content : ByteArray) (root : Tree) : Tree :=
  put (.file content) (route (Path.components (Path.join working path))) root

/-- The file operations on a tree. -/
def fileSystem (root : Tree) (working : String) : FileSystem where
  read := read root working
  list := list root working
  isDirectory := isDirectory root working
  appendable := appendable root working

end Tree

end RegistryGate.Storage
