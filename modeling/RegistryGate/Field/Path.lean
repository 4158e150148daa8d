/-
  Dotted field paths.

  A path names a field of a record, with dots between the names of nested fields; `x.*` stands for
  everything below `x`.  An entry of a field list covers its own path and every path below it, where
  "below" goes by whole names: `naam` covers `naam.voornamen`, and not `naamgebruik`.
-/
import RegistryGate.Ordered.SortedSet
import RegistryGate.Text.Split

namespace RegistryGate.Field

/-- The most bytes that a path may have. -/
def maxPathLength : Nat := 256

/-- The names along a path. -/
def segments (path : String) : List String := Text.splitOn '.' path

/-- Holds of a plain name: one or more ASCII letters and digits. -/
def isName (segment : String) : Bool := !segment.isEmpty && segment.toList.all Char.isAlphanum

/-- Holds of a path's names: plain ones, of which the last may be a star unless it is the first. -/
def validSegments : List String → Bool
  | [] => false
  | [name] => isName name
  | name :: rest => isName name && (rest == ["*"] || validSegments rest)

/-- Holds of a well-formed path. -/
def isPath (path : String) : Bool :=
  decide (path.utf8ByteSize ≤ maxPathLength) && validSegments (segments path)

/-- The path without the wildcard at its end. -/
def wildcardBase (path : String) : String := (Text.stripSuffix? ".*" path).getD path

/-- Holds when `entry` covers `path`: both without their wildcards are equal, or the path goes on
with a dot where the entry ends. -/
def covers (entry path : String) : Bool :=
  let base := wildcardBase entry
  let target := wildcardBase path
  target == base || Text.startsWith (base ++ ".") target

/-- The paths that no other path of the set covers, ascending. -/
def minimize (paths : NameSet) : List String :=
  paths.toList.filter fun path =>
    !paths.toList.any fun other => other != path && covers other path

/-- The path of a field below another path; the root is the empty path. -/
def below (parent name : String) : String :=
  if parent.isEmpty then name else parent ++ "." ++ name

end RegistryGate.Field
