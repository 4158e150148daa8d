/-
  Cutting texts apart at a separator and putting them together again.

  Every function here is a thin wrapper of the list operation of the same meaning, so that its laws
  are the list's laws: `splitOn` is `List.splitOn` on characters, `stripPrefix?` and
  `stripSuffix?` are `List.isPrefixOf?` and `List.isSuffixOf?`.
-/

namespace RegistryGate.Text

/-- The parts between the separators; a text without separator is its own only part. -/
def splitOn (sep : Char) (s : String) : List String := (s.toList.splitOn sep).map String.ofList

/-- The parts with the separator text between them. -/
def joinWith (sep : String) (parts : List String) : String := sep.intercalate parts

/-- What follows `start` in a text that starts with it. -/
def stripPrefix? (start s : String) : Option String :=
  (start.toList.isPrefixOf? s.toList).map String.ofList

/-- What precedes `ending` in a text that ends with it. -/
def stripSuffix? (ending s : String) : Option String :=
  (ending.toList.isSuffixOf? s.toList).map String.ofList

/-- Holds when the text starts with `start`. -/
def startsWith (start s : String) : Bool := start.toList.isPrefixOf s.toList

/-- Holds when the text ends with `ending`. -/
def endsWith (ending s : String) : Bool := ending.toList.isSuffixOf s.toList

/-- The text without any of the characters `c` at its end. -/
def trimEnd (c : Char) (s : String) : String :=
  String.ofList (s.toList.reverse.dropWhile (· = c)).reverse

/-- The two texts around the first separator. -/
def splitFirst? (sep : Char) (s : String) : Option (String × String) :=
  match s.toList.span (· != sep) with
  | (_, []) => none
  | (before, _ :: after) => some (String.ofList before, String.ofList after)

/-- The two texts around the last separator. -/
def splitLast? (sep : Char) (s : String) : Option (String × String) :=
  match s.toList.reverse.span (· != sep) with
  | (_, []) => none
  | (after, _ :: before) => some (String.ofList before.reverse, String.ofList after.reverse)

/-- Every occurrence of `target` replaced by `value`, from the left, without looking into what was
put in.  The bound on the steps is the length of the text, since each step uses up a character. -/
def replaceChars (target value : List Char) : Nat → List Char → List Char → List Char
  | 0, acc, cs => acc.reverse ++ cs
  | _ + 1, acc, [] => acc.reverse
  | fuel + 1, acc, c :: cs =>
    match target.isPrefixOf? (c :: cs) with
    | some rest => replaceChars target value fuel (value.reverse ++ acc) rest
    | none => replaceChars target value fuel (c :: acc) cs

/-- Every occurrence of a non-empty `target`, from the left, replaced by `value`. -/
def replace (target value s : String) : String :=
  if target.isEmpty then s
  else String.ofList (replaceChars target.toList value.toList (s.length + 1) [] s.toList)

end RegistryGate.Text
