/-
  Paths, as texts.

  A path is a text of names with slashes between them.  It is absolute when it starts with a slash.
  Nothing here looks at a file: `join` and `parent` are operations on the text, and the length
  limits are judged before a path is used.
-/
import RegistryGate.Text.Split

namespace RegistryGate.Path

/-- Holds of paths that do not depend on the working directory. -/
def isAbsolute (path : String) : Bool := Text.startsWith "/" path

/-- A path inside a directory; an absolute path stands for itself. -/
def join (directory path : String) : String :=
  if isAbsolute path || directory.isEmpty then path
  else if Text.endsWith "/" directory then directory ++ path
  else directory ++ "/" ++ path

/-- The parts between the slashes. -/
def components (path : String) : List String := Text.splitOn '/' path

/-- The bytes of the longest part. -/
def longestComponent (path : String) : Nat :=
  ((components path).map String.utf8ByteSize).foldl max 0

/-- A reversed path without slashes and single dots at its end; the root keeps its slash. -/
def dropTrailing : List Char → List Char
  | '.' :: '/' :: c :: rest => dropTrailing (c :: rest)
  | '.' :: '/' :: [] => ['/']
  | '/' :: c :: rest => dropTrailing (c :: rest)
  | cs => cs

/-- The directory that a path lies in: what precedes the last slash.  It is empty for a mere name,
and there is none for the empty path. -/
def parent? (path : String) : Option String :=
  if path.isEmpty then none
  else
    match path.toList.reverse.dropWhile (· != '/') with
    | [] => some ""
    | ['/'] => some "/"
    | _ :: rest => some (String.ofList (dropTrailing rest).reverse)

/-- The stem of a file name with the given extension: what precedes the last dot, which is not the
first character. -/
def stem? (extension name : String) : Option String :=
  match Text.splitLast? '.' name with
  | some (stem, ending) => if ending = extension ∧ !stem.isEmpty then some stem else none
  | none => none

end RegistryGate.Path
