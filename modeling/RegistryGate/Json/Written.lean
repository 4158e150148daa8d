/-
  JSON documents as they are written.

  Where only some members of an object count, the others are skipped.  What is skipped must be well
  formed, but it may hold what no document may: numbers beyond the largest double, halves of
  surrogate pairs, bytes that are no text, and any number of containers inside each other.  So such
  an object is first taken apart into the written forms of its members, and only the members that
  count are read.

  In a written form each character stands for one byte.
-/
import RegistryGate.Json.Reader
import RegistryGate.Text.Utf8

namespace RegistryGate.Json

/-- A document as it is written, one character for each byte. -/
abbrev Written := List Char

namespace Written

/-- The written form that bytes are. -/
def ofBytes (bytes : List UInt8) : Written := bytes.map fun b => Char.ofNat b.toNat

/-- The written form that a text is. -/
def ofText (text : String) : Written := ofBytes (Text.Utf8.encode text)

/-- The text that a written form is, unless its bytes are none. -/
def text? (form : Written) : Option String :=
  Text.Utf8.decode? (form.map fun c => UInt8.ofNat c.toNat)

/-- The value of a written form, with at most so many containers inside each other. -/
def read? (depth : Nat) (form : Written) : Option Json := form.text?.bind (parseWithin? depth)

/-! ## Skipping -/

/-- Takes the text at the front apart from the rest, given what follows its opening quote; `acc`
holds what was met, reversed. -/
def splitText? (acc : List Char) : Written → Option (List Char × Written)
  | [] => none
  | '"' :: rest => some (acc.reverse, rest)
  | '\\' :: 'u' :: a :: b :: c :: d :: rest =>
    if (hexUnit? a b c d).isNone then none
    else splitText? (d :: c :: b :: a :: 'u' :: '\\' :: acc) rest
  | '\\' :: c :: rest =>
    if (shortEscape? c).isNone then none else splitText? (c :: '\\' :: acc) rest
  | c :: rest => if c.toNat < 32 ∨ c = '\\' then none else splitText? (c :: acc) rest

/-- Takes a name with its colon apart from the rest. -/
def splitName? (form : Written) : Option (List Char × Written) :=
  match form with
  | '"' :: rest =>
    (splitText? [] rest).bind fun (name, rest) =>
      match skipBlanks rest with
      | ':' :: rest => some (name, rest)
      | _ => none
  | _ => none

/-- The rest behind a text, a number or a word at the front. -/
def skipScalar? : Written → Option Written
  | '"' :: rest => (splitText? [] rest).map Prod.snd
  | 'n' :: 'u' :: 'l' :: 'l' :: rest => some rest
  | 't' :: 'r' :: 'u' :: 'e' :: rest => some rest
  | 'f' :: 'a' :: 'l' :: 's' :: 'e' :: rest => some rest
  | form => (Number.literal? form).map Prod.snd

mutual

/-- The rest behind a value and the containers around it that are still open; `closers` are their
closing brackets, the innermost one first. -/
def skipValue? : Nat → List Char → Written → Option Written
  | 0, _, _ => none
  | fuel + 1, closers, form =>
    match skipBlanks form with
    | '[' :: rest =>
      match skipBlanks rest with
      | ']' :: rest => skipRest? fuel closers rest
      | rest => skipValue? fuel (']' :: closers) rest
    | '{' :: rest =>
      match skipBlanks rest with
      | '}' :: rest => skipRest? fuel closers rest
      | rest => (splitName? rest).bind fun r => skipValue? fuel ('}' :: closers) r.2
    | form => (skipScalar? form).bind fun rest => skipRest? fuel closers rest

/-- The rest behind the containers that are still open, given what follows one of their values. -/
def skipRest? : Nat → List Char → Written → Option Written
  | _, [], form => some form
  | 0, _ :: _, _ => none
  | fuel + 1, closer :: closers, form =>
    match skipBlanks form with
    | ',' :: rest =>
      if closer = ']' then skipValue? fuel (closer :: closers) rest
      else (splitName? (skipBlanks rest)).bind fun r => skipValue? fuel (closer :: closers) r.2
    | c :: rest => if c = closer then skipRest? fuel closers rest else none
    | [] => none

end

/-- A number of steps in which any value of a written form can be skipped: no character is met by
more than two of them. -/
def enough (form : Written) : Nat := 2 * form.length + 3

/-! ## Taking apart -/

/-- The written forms of the items of a list from the next one to its end, and the rest.  Each item
may take `steps` steps; the fuel bounds the number of items. -/
def itemsOn? (steps : Nat) : Nat → List Written → Written → Option (List Written × Written)
  | 0, _, _ => none
  | fuel + 1, acc, form =>
    (skipValue? steps [] form).bind fun rest =>
      let acc := form.take (form.length - rest.length) :: acc
      match skipBlanks rest with
      | ',' :: rest => itemsOn? steps fuel acc rest
      | ']' :: rest => some (acc.reverse, rest)
      | _ => none

/-- The written forms of the entries of an object that have one of the names, from the next one to
its end, and the rest. -/
def entriesOn? (names : List String) (steps : Nat) :
    Nat → List (String × Written) → Written → Option (List (String × Written) × Written)
  | 0, _, _ => none
  | fuel + 1, acc, form =>
    (splitName? (skipBlanks form)).bind fun (name, form) =>
      (text? (name ++ ['"'])).bind fun name =>
        (readText? [] name.toList).bind fun (name, _) =>
          (skipValue? steps [] form).bind fun rest =>
            let acc := if names.contains name then
              (name, form.take (form.length - rest.length)) :: acc else acc
            match skipBlanks rest with
            | ',' :: rest => entriesOn? names steps fuel acc rest
            | '}' :: rest => some (acc.reverse, rest)
            | _ => none

/-- The written forms of the items of the list that a written form is. -/
def items? (form : Written) : Option (List Written) :=
  match skipBlanks form with
  | '[' :: rest =>
    match skipBlanks rest with
    | ']' :: rest => whole? (some ([], rest))
    | rest => whole? (itemsOn? form.enough form.enough [] rest)
  | _ => none

/-- The written forms of the entries that count of the object that a written form is. -/
def entries? (names : List String) (form : Written) : Option (List (String × Written)) :=
  match skipBlanks form with
  | '{' :: rest =>
    match skipBlanks rest with
    | '}' :: rest => whole? (some ([], rest))
    | rest => whole? (entriesOn? names form.enough form.enough [] rest)
  | _ => none

/-- The written forms of the members of a record.  A record is an object in which no member that
counts stands twice, or a list of all its members in their order, of which some at the end may be
left out. -/
def record? (names : List String) (least : Nat) (form : Written) :
    Option (List (String × Written)) :=
  match entries? names form with
  | some entries => if noneRepeated names entries then some entries else none
  | none =>
    form.items?.bind fun items =>
      if least ≤ items.length ∧ items.length ≤ names.length then some (names.zip items) else none

/-- The members of a record, given their written forms. -/
def members? (depth : Nat) (forms : List (String × Written)) : Option (Members Json) :=
  let read := fun (e : String × Written) => (e.2.read? depth).map fun value => (e.1, value)
  (forms.mapM read).map Members.ofList

end Written

end RegistryGate.Json
