/-
  Reading TOML documents.

  A document is a sequence of lines: headers, and keys with their values.  A value is a text, a word,
  a list or a section in braces; at most 80 of the last two lie inside each other.  The functions
  that call each other take a number of steps; every step uses up a character, so the length of the
  document is enough of them.
-/
import RegistryGate.Toml.Scalar
import RegistryGate.Toml.Section
import RegistryGate.Toml.Text

namespace RegistryGate.Toml

open Config (Document)

/-! ## Values -/

mutual

/-- The value at the front of a document, and the rest. -/
def readValue? : Nat → Nat → List Char → Option (Document × List Char)
  | 0, _, _ => none
  | fuel + 1, depth, cs =>
    match cs, depth with
    | '"' :: _, _ | '\'' :: _, _ => (readText? fuel cs).map fun r => (.text r.1, r.2)
    | '[' :: _, 0 | '{' :: _, 0 => none
    | '[' :: rest, depth + 1 => readItems? fuel depth [] rest
    | '{' :: rest, depth + 1 => readBraces? fuel depth Node.root rest
    | _, _ =>
      let (word, rest) := readWord cs
      (scalar? word).map fun value => (value, rest)

/-- The items of a list from the next one to its end; a comma may follow the last one. -/
def readItems? : Nat → Nat → List Document → List Char → Option (Document × List Char)
  | 0, _, _, _ => none
  | fuel + 1, depth, acc, cs =>
    (skipLines? fuel cs).bind fun rest =>
      match rest with
      | ']' :: rest => some (.list acc.reverse, rest)
      | _ =>
        (readValue? fuel depth rest).bind fun (item, rest) =>
          (skipLines? fuel rest).bind fun rest =>
            match rest with
            | ',' :: rest => readItems? fuel depth (item :: acc) rest
            | ']' :: rest => some (.list (item :: acc).reverse, rest)
            | _ => none

/-- The keys and values of a section in braces from the next one to its end; lines may break around
each of them. -/
def readBraces? : Nat → Nat → Node → List Char → Option (Document × List Char)
  | 0, _, _, _ => none
  | fuel + 1, depth, node, cs =>
    (skipLines? fuel cs).bind fun rest =>
      match rest with
      | '}' :: rest => some (node.toDocument, rest)
      | _ =>
        ((readKey? rest).bind fun (keys, rest) =>
          (skipLines? fuel rest).map fun rest => (keys, rest)).bind fun (keys, rest) =>
          match rest with
          | '=' :: rest =>
            (skipLines? fuel rest).bind fun rest =>
              (readValue? fuel depth rest).bind fun (value, rest) =>
                (node.assign keys value).bind fun node =>
                  (skipLines? fuel rest).bind fun rest =>
                    match rest with
                    | ',' :: rest => readBraces? fuel depth node rest
                    | '}' :: rest => some (node.toDocument, rest)
                    | _ => none
          | _ => none

end

/-! ## Lines -/

/-- What was read so far. -/
structure Progress where
  /-- The header under which keys stand. -/
  header : List String
  /-- The sections. -/
  node : Node

/-- The header at the front of a document, behind its opening brackets. -/
def readHeader? (repeated : Bool) (progress : Progress) (cs : List Char) :
    Option (Progress × List Char) := do
  let (keys, rest) ← readKey? cs
  let node ← progress.node.openHeader repeated keys
  match repeated, rest with
  | false, ']' :: rest => return (⟨keys, node⟩, rest)
  | true, ']' :: ']' :: rest => return (⟨keys, node⟩, rest)
  | _, _ => none

/-- The key at the front of a document with its value. -/
def readAssignment? (fuel : Nat) (progress : Progress) (cs : List Char) : Option (Progress × List Char) := do
  let (keys, rest) ← readKey? cs
  match rest with
  | '=' :: rest =>
    let (value, rest) ← readValue? fuel maxDepth (skipSpaces rest)
    let node ← progress.node.assignUnder progress.header keys value
    return (⟨progress.header, node⟩, rest)
  | _ => none

/-- The line at the front of a document, without its end. -/
def readLine? (fuel : Nat) (progress : Progress) (cs : List Char) : Option (Progress × List Char) :=
  match skipSpaces cs with
  | '[' :: '[' :: rest => readHeader? true progress rest
  | '[' :: rest => readHeader? false progress rest
  | rest => readAssignment? fuel progress rest

/-- The lines of a document; the fuel is more than the document's length. -/
def readLines? : Nat → Progress → List Char → Option Progress
  | 0, _, _ => none
  | fuel + 1, progress, cs =>
    (skipLines? fuel cs).bind fun rest =>
      if rest.isEmpty then some progress
      else
        (readLine? fuel progress rest).bind fun (progress, rest) =>
          (skipComment? (skipSpaces rest)).bind fun rest =>
            match newline? rest with
            | some rest => readLines? fuel progress rest
            | none => if rest.isEmpty then some progress else none

/-- The document that a text is the written form of; a byte order mark may precede it. -/
def parse? (text : String) : Option Document :=
  let cs := text.toList
  let cs := match cs with
    | c :: rest => if c.toNat = 0xFEFF then rest else cs
    | [] => cs
  (readLines? (cs.length + 1) ⟨[], Node.root⟩ cs).map fun progress => progress.node.toDocument

end RegistryGate.Toml
