/-
  Labels of domain names.

  A label may hold letters of any script.  It must be written in its canonical characters and
  composed, it must not start with a mark, and the two characters that only say whether letters are
  joined may stand only where they make a difference.  A name with letters that run from right to
  left has in each label only characters that leave no doubt about their order.
-/
import RegistryGate.Net.NameMapping
import RegistryGate.Net.Punycode
import RegistryGate.Text.Composition
import RegistryGate.Text.Direction
import RegistryGate.Text.Joining
import RegistryGate.Text.Mark

namespace RegistryGate.Net.Label

open RegistryGate.Text

/-- The canonical form of the characters of a name, unless no name may hold one of them. -/
def canonical? (cs : List Char) : Option (List Char) :=
  (cs.mapM NameMapping.images?).map fun images => compose images.flatten

/-! ## Encoded labels -/

/-- What an encoded label starts with. -/
def mark : List Char := "xn--".toList

/-- The largest number of characters behind that start. -/
def maxEncoded : Nat := 2000

/-- The largest number of characters of a label beyond ASCII that is not encoded. -/
def maxDecoded : Nat := 1000

/-- Holds of characters that are all ASCII. -/
def isAscii (cs : List Char) : Bool := cs.all fun c => decide (c.toNat < 128)

/-- The label that an encoded one stands for: one that had to be encoded, in its canonical form. -/
def decode? (encoded : List Char) : Option (List Char) :=
  if encoded.getLast? = some '-' ∨ maxEncoded < encoded.length ∨ !isAscii encoded then none
  else
    (Punycode.decode? (String.ofList encoded)).bind fun label =>
      if !isAscii label ∧ canonical? label = some label then some label else none

/-- The label that a canonical one stands for: itself, unless it is encoded. -/
def ofCanonical? (label : List Char) : Option (List Char) :=
  match mark.isPrefixOf? label with
  | some encoded => decode? encoded
  | none => if isAscii label ∨ label.length ≤ maxDecoded then some label else none

/-! ## Joiners -/

/-- The combining class of the signs that take the vowel from a letter. -/
def viramaClass : Nat := 9

/-- Holds when a sign that takes the vowel from a letter is the last of some characters; the last
one comes first here. -/
def endsInVirama (before : List Char) : Bool :=
  before.head?.any fun c => combiningClass c == viramaClass

/-- Holds when letters on both sides would be joined; those before come with the last one first. -/
def separates (before after : List Char) : Bool :=
  (before.dropWhile transparent.contains).head?.any joinsNext &&
    (after.dropWhile transparent.contains).head?.any joinsPrevious

/-- Holds when the characters that join or separate others make a difference where they stand;
`before` are the characters before those given, the last one first. -/
def areJoinersPlaced (before : List Char) : List Char → Bool
  | [] => true
  | c :: after =>
    (if c.toNat = 0x200D then endsInVirama before
      else if c.toNat = 0x200C then endsInVirama before || separates before after
      else true) && areJoinersPlaced (c :: before) after

/-- Holds of a label that is no mark at its start and has its joiners where they may stand. -/
def isWellFormed (label : List Char) : Bool :=
  !label.head?.any isMark && areJoinersPlaced [] label

/-! ## Directions -/

/-- Holds of the characters that make direction matter. -/
def mattersForDirection (c : Char) : Bool :=
  directionOf c == .leftward || directionOf c == .arabicNumber

/-- Holds of a label without doubt about the order of its characters: all that have a direction have
that of the first one, and the last one that is no mark is such a character or a digit.  A label that
runs from right to left has digits of one kind only. -/
def isOrdered (label : List Char) : Bool :=
  let directions := label.map directionOf
  match directions with
  | [] => true
  | first :: _ =>
    -- marks at the end do not count
    let last := (directions.reverse.dropWhile (· == .mark)).headD .mark
    match first with
    | .rightward =>
      directions.all (fun d => d != .leftward && d != .arabicNumber) &&
        (last == .rightward || last == .number)
    | .leftward =>
      directions.all (· != .rightward) &&
        (last == .leftward || last == .number || last == .arabicNumber) &&
        !(directions.contains .number && directions.contains .arabicNumber)
    | _ => false

/-- Holds of labels that may stand in one name. -/
def areValid (labels : List (List Char)) : Bool :=
  labels.all isWellFormed &&
    (!(labels.any fun label => label.any mattersForDirection) || labels.all isOrdered)

end RegistryGate.Net.Label
