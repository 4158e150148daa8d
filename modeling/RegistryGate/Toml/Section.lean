/-
  The sections of a TOML document.

  Headers and dotted keys open sections inside sections, and each section may be written only once
  and in one way.  `Node` remembers how a section came about, and each operation here answers `none`
  where a document would write a section or a value again.
-/
import RegistryGate.Config.Document

namespace RegistryGate.Toml

open Config (Document)

/-- How a section came about. -/
inductive Origin where
  /-- It has a header of its own. -/
  | header
  /-- It is a part of a dotted key. -/
  | dotted
  /-- It is a part of a header of another section. -/
  | implied
deriving DecidableEq

/-- What stands under a name. -/
inductive Node where
  /-- A value, which is complete. -/
  | value (document : Document)
  /-- A section, which may still grow. -/
  | area (origin : Origin) (entries : List (String × Node))
  /-- The sections of a repeated header, the latest one first. -/
  | areas (items : List (List (String × Node)))

namespace Node

/-- The document before its first line. -/
def root : Node := .area .header []

/-- Follows names to a section and changes it there.  Sections on the way are made; a dotted key does
not go through one that has a header. -/
def descend (dotted : Bool) (change : Node → Option Node) : List String → Node → Option Node
  | [], node => change node
  | name :: names, .area origin entries =>
    let put := fun (node : Node) => Node.area origin (Members.insert name node entries)
    match Members.get? name entries with
    | none =>
      (descend dotted change names (.area (if dotted then .dotted else .implied) [])).map put
    | some (.area .header inner) =>
      if dotted then none else (descend dotted change names (.area .header inner)).map put
    | some (.area o inner) => (descend dotted change names (.area o inner)).map put
    -- a header goes on in the latest of the repeated sections
    | some (.areas (latest :: earlier)) =>
      if dotted then none
      else
        match descend dotted change names (.area .header latest) with
        | some (.area _ latest) => some (put (.areas (latest :: earlier)))
        | _ => none
    | some (.areas []) | some (.value _) => none
  | _ :: _, _ => none

/-- Opens the section of a header, which may have been implied before. -/
def openArea (name : String) : Node → Option Node
  | .area origin entries =>
    match Members.get? name entries with
    | none => some (.area origin (Members.insert name (.area .header []) entries))
    | some (.area .implied inner) =>
      some (.area origin (Members.insert name (.area .header inner) entries))
    | some _ => none
  | _ => none

/-- Opens one more section of a repeated header. -/
def openItem (name : String) : Node → Option Node
  | .area origin entries =>
    match Members.get? name entries with
    | none => some (.area origin (Members.insert name (.areas [[]]) entries))
    | some (.areas items) =>
      some (.area origin (Members.insert name (.areas ([] :: items)) entries))
    | some _ => none
  | _ => none

/-- Gives a value to a name that has none; `plain` tells that the key has no dot. -/
def assignHere (plain : Bool) (name : String) (document : Document) : Node → Option Node
  | .area origin entries =>
    if (origin == .dotted) == plain || Members.contains name entries then none
    else some (.area origin (Members.insert name (.value document) entries))
  | _ => none

/-- Gives a value to a key, seen from a section. -/
def assign (keys : List String) (document : Document) (node : Node) : Option Node :=
  match keys.getLast? with
  | none => none
  | some name =>
    let way := keys.dropLast
    descend true (assignHere way.isEmpty name document) way node

/-- Opens the section of a header. -/
def openHeader (repeated : Bool) (keys : List String) (node : Node) : Option Node :=
  match keys.getLast? with
  | none => none
  | some name => descend false (if repeated then openItem name else openArea name) keys.dropLast node

/-- Gives a value to a key inside the section of a header. -/
def assignUnder (header keys : List String) (document : Document) (node : Node) : Option Node :=
  descend false (assign keys document) header node

mutual

/-- The document that was written. -/
def toDocument : Node → Document
  | .value document => document
  | .area _ entries => .table (toEntries entries)
  | .areas items => .list (toItems items).reverse

/-- The entries of a section. -/
def toEntries : List (String × Node) → List (String × Document)
  | [] => []
  | (name, node) :: entries => (name, toDocument node) :: toEntries entries

/-- The sections of a repeated header. -/
def toItems : List (List (String × Node)) → List Document
  | [] => []
  | item :: items => .table (toEntries item) :: toItems items

end

end Node

end RegistryGate.Toml
