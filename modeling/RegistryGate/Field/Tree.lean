/-
  Field paths grouped by their first names.

  A list of dotted paths becomes a tree whose branches are the names along the paths; order,
  repetitions and empty names leave no trace in it.  `flatten` lists every node again, parents
  before their children.
-/
import RegistryGate.Ordered.Members
import RegistryGate.Field.Path

namespace RegistryGate

/-- A tree of names; a leaf has no children. -/
inductive FieldTree where
  /-- A node with its named children, in ascending order of their names. -/
  | node (children : List (String × FieldTree))

namespace FieldTree

/-- The node without children. -/
def leaf : FieldTree := .node []

instance : Inhabited FieldTree := ⟨leaf⟩

/-- The named children. -/
def children : FieldTree → Members FieldTree
  | .node cs => cs

/-- The child of a name. -/
def get? (name : String) (tree : FieldTree) : Option FieldTree := Members.get? name tree.children

/-- Holds of a node without children. -/
def isLeaf (tree : FieldTree) : Bool := tree.children.isEmpty

/-- Adds a path, given by the names along it. -/
def insertSegments : List String → FieldTree → FieldTree
  | [], tree => tree
  | name :: rest, .node cs =>
    .node (Members.insert name (insertSegments rest ((Members.get? name cs).getD leaf)) cs)

/-- Adds a dotted path; empty names in it do not count. -/
def insertPath (path : String) (tree : FieldTree) : FieldTree :=
  insertSegments ((Field.segments path).filter fun s => !s.isEmpty) tree

/-- The tree of a list of dotted paths. -/
def ofPaths (paths : List String) : FieldTree :=
  paths.foldl (fun tree path => tree.insertPath path) leaf

mutual

/-- The paths of all nodes below a node, which is at the path `parent`. -/
def pathsBelow (parent : String) : FieldTree → List String
  | .node cs => pathsOfChildren parent cs

/-- The paths of the listed children and of all nodes below them. -/
def pathsOfChildren (parent : String) : List (String × FieldTree) → List String
  | [] => []
  | (name, child) :: rest =>
    let path := Field.below parent name
    path :: pathsBelow path child ++ pathsOfChildren parent rest

end

/-- The dotted paths of all nodes, parents before their children. -/
def flatten (tree : FieldTree) : List String := pathsBelow "" tree

end FieldTree

end RegistryGate
