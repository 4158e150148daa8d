/-
  Reading JSON.

  The strict grammar: one value with blanks around it, no comments, no comma before a closing
  bracket, no control character inside a text, no lone half of a surrogate pair, at most 127
  containers inside each other.  Of two members with one name the last one counts.

  The functions that call each other take a number of steps.  No character is met by more than two
  of them, so twice the length of the text is enough, and `parse?` shows no number.
-/
import RegistryGate.Number.Literal
import RegistryGate.Text.Ascii

namespace RegistryGate.Json

/-- How many containers may lie inside each other. -/
def maxDepth : Nat := 127

/-- Drops the blanks that may stand between the parts of a document. -/
def skipBlanks (cs : List Char) : List Char :=
  cs.dropWhile fun c => c == ' ' || c == '\n' || c == '\t' || c == '\r'

/-! ## Texts -/

/-- The number that four hexadecimal digits stand for. -/
def hexUnit? (a b c d : Char) : Option Nat := do
  let a ← Text.hexValue? a
  let b ← Text.hexValue? b
  let c ← Text.hexValue? c
  let d ← Text.hexValue? d
  some (((a * 16 + b) * 16 + c) * 16 + d)

/-- The character of a one-letter escape. -/
def shortEscape? : Char → Option Char
  | '"' => some '"'
  | '\\' => some '\\'
  | '/' => some '/'
  | 'b' => some '\x08'
  | 'f' => some '\x0c'
  | 'n' => some '\n'
  | 'r' => some '\r'
  | 't' => some '\t'
  | _ => none

/-- The rest of a text value, behind its opening quote; `acc` holds what was read, reversed. -/
def readText? (acc : List Char) : List Char → Option (String × List Char)
  | [] => none
  | '"' :: rest => some (String.ofList acc.reverse, rest)
  | '\\' :: 'u' :: a :: b :: c :: d :: rest =>
    match hexUnit? a b c d with
    | none => none
    | some unit =>
      -- the two halves of a surrogate pair are one character, and neither half is one alone
      if 0xD800 ≤ unit ∧ unit ≤ 0xDBFF then
        match rest with
        | '\\' :: 'u' :: a' :: b' :: c' :: d' :: rest' =>
          match hexUnit? a' b' c' d' with
          | none => none
          | some low =>
            if 0xDC00 ≤ low ∧ low ≤ 0xDFFF then
              let point := 0x10000 + (unit - 0xD800) * 0x400 + (low - 0xDC00)
              readText? (Char.ofNat point :: acc) rest'
            else none
        | _ => none
      else if 0xDC00 ≤ unit ∧ unit ≤ 0xDFFF then none
      else readText? (Char.ofNat unit :: acc) rest
  | '\\' :: c :: rest =>
    match shortEscape? c with
    | some e => readText? (e :: acc) rest
    | none => none
  | c :: rest => if c.toNat < 32 ∨ c = '\\' then none else readText? (c :: acc) rest

/-! ## Values -/

mutual

/-- The value at the front of the input. -/
def readValue? : Nat → Nat → List Char → Option (Json × List Char)
  | 0, _, _ => none
  | fuel + 1, depth, cs =>
    match skipBlanks cs with
    | 'n' :: 'u' :: 'l' :: 'l' :: rest => some (.null, rest)
    | 't' :: 'r' :: 'u' :: 'e' :: rest => some (.bool true, rest)
    | 'f' :: 'a' :: 'l' :: 's' :: 'e' :: rest => some (.bool false, rest)
    | '"' :: rest => (readText? [] rest).map fun r => (.string r.1, r.2)
    | '[' :: rest =>
      match depth with
      | 0 => none
      | depth + 1 =>
        match skipBlanks rest with
        | ']' :: rest => some (.array [], rest)
        | rest => readItems? fuel depth [] rest
    | '{' :: rest =>
      match depth with
      | 0 => none
      | depth + 1 =>
        (readEntries? fuel depth rest).map fun r => (.object (Members.ofList r.1), r.2)
    | cs => (Number.read? cs).map fun r => (.number r.1, r.2)

/-- The items of a list up to its end; `acc` holds what was read, reversed. -/
def readItems? : Nat → Nat → List Json → List Char → Option (Json × List Char)
  | 0, _, _, _ => none
  | fuel + 1, depth, acc, cs =>
    match readValue? fuel depth cs with
    | none => none
    | some (item, rest) =>
      match skipBlanks rest with
      | ',' :: rest => readItems? fuel depth (item :: acc) rest
      | ']' :: rest => some (.array (item :: acc).reverse, rest)
      | _ => none

/-- The entries of an object up to its end, behind its opening brace. -/
def readEntries? : Nat → Nat → List Char → Option (List (String × Json) × List Char)
  | 0, _, _ => none
  | fuel + 1, depth, cs =>
    match skipBlanks cs with
    | '}' :: rest => some ([], rest)
    | rest => readMoreEntries? fuel depth [] rest

/-- The entries of an object from the next one on; `acc` holds what was read, reversed. -/
def readMoreEntries? : Nat → Nat → List (String × Json) → List Char →
    Option (List (String × Json) × List Char)
  | 0, _, _, _ => none
  | fuel + 1, depth, acc, cs =>
    match skipBlanks cs with
    | '"' :: rest =>
      match readText? [] rest with
      | none => none
      | some (name, rest) =>
        match skipBlanks rest with
        | ':' :: rest =>
          match readValue? fuel depth rest with
          | none => none
          | some (value, rest) =>
            match skipBlanks rest with
            | ',' :: rest => readMoreEntries? fuel depth ((name, value) :: acc) rest
            | '}' :: rest => some (((name, value) :: acc).reverse, rest)
            | _ => none
        | _ => none
    | _ => none

end

/-- What was read, if nothing but blanks follows it. -/
def whole? {α : Type} (read : Option (α × List Char)) : Option α :=
  read.bind fun r => if (skipBlanks r.2).isEmpty then some r.1 else none

/-- The value that a whole text is the written form of, with at most so many containers inside each
other. -/
def parseWithin? (depth : Nat) (text : String) : Option Json :=
  let cs := text.toList
  whole? (readValue? (2 * cs.length + 3) depth cs)

/-- The value that a whole text is the written form of. -/
def parse? (text : String) : Option Json := parseWithin? maxDepth text

/-- The entries of the object that a whole text is the written form of, as they are written: in
order, and with every entry of a repeated name.  At most so many containers lie inside each other. -/
def parseEntries? (depth : Nat) (text : String) : Option (List (String × Json)) :=
  let cs := text.toList
  match skipBlanks cs with
  | '{' :: rest =>
    if depth = 0 then none else whole? (readEntries? (2 * cs.length + 3) (depth - 1) rest)
  | _ => none

/-- Holds when no entry is one of the names and stands there twice. -/
def noneRepeated {α : Type} (names : List String) (entries : List (String × α)) : Bool :=
  names.all fun name => decide ((entries.filter fun e => e.1 == name).length ≤ 1)

end RegistryGate.Json
