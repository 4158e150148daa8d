/-
  Texts, keys and blanks of TOML documents.

  A text stands between quotes: double ones, inside of which a backslash has a meaning, or single
  ones, inside of which nothing has.  Three quotes let it run over several lines.  A key is a bare
  word or a text on one line, or several of them with dots between them.
-/
import RegistryGate.Text.Ascii

namespace RegistryGate.Toml

/-- How many lists and sections in braces may lie inside each other, and how many parts a key may
have. -/
def maxDepth : Nat := 80

/-! ## Blanks and comments -/

/-- Holds of the blanks inside a line. -/
def isSpace (c : Char) : Bool := c == ' ' || c == '\t'

/-- Holds of characters that no comment and no text may hold. -/
def isControl (c : Char) : Bool :=
  (decide (c.toNat < 32) && c != '\t') || c.toNat == 127

/-- The text behind a line break at its front. -/
def newline? : List Char → Option (List Char)
  | '\n' :: rest => some rest
  | '\r' :: '\n' :: rest => some rest
  | _ => none

/-- The text without the blanks at its front. -/
def skipSpaces (cs : List Char) : List Char := cs.dropWhile isSpace

/-- The text without the comment at its front, up to the end of the line; a comment holds no control
character. -/
def skipComment? : List Char → Option (List Char)
  | '#' :: rest =>
    let body := rest.takeWhile fun c => c != '\n' && c != '\r'
    if body.any isControl then none else some (rest.drop body.length)
  | cs => some cs

/-- The text without blanks, comments and line breaks at its front; the fuel bounds the lines. -/
def skipLines? : Nat → List Char → Option (List Char)
  | 0, cs => some cs
  | fuel + 1, cs =>
    (skipComment? (skipSpaces cs)).bind fun rest =>
      match newline? rest with
      | some rest => skipLines? fuel rest
      | none => some rest

/-! ## Escapes -/

/-- The number of hexadecimal digits, which are all that is given. -/
def hexNumber? (digits : List Char) : Option Nat :=
  digits.foldlM (fun n c => (Text.hexValue? c).map fun d => n * 16 + d) 0

/-- The character of a code point. -/
def charOf? (n : Nat) : Option Char :=
  if n < 0x110000 ∧ ¬ (0xD800 ≤ n ∧ n < 0xE000) then some (Char.ofNat n) else none

/-- The character of the hexadecimal digits at the front of a text, and the rest. -/
def codePoint? (count : Nat) (cs : List Char) : Option (Char × List Char) :=
  let digits := cs.take count
  if digits.length < count then none
  else ((hexNumber? digits).bind charOf?).map fun c => (c, cs.drop count)

/-- The character of the escape at the front of a text, behind its backslash, and the rest. -/
def escape? : List Char → Option (Char × List Char)
  | 'b' :: rest => some ('\x08', rest)
  | 't' :: rest => some ('\t', rest)
  | 'n' :: rest => some ('\n', rest)
  | 'f' :: rest => some ('\x0c', rest)
  | 'r' :: rest => some ('\r', rest)
  | 'e' :: rest => some ('\x1b', rest)
  | '"' :: rest => some ('"', rest)
  | '\\' :: rest => some ('\\', rest)
  | 'x' :: rest => codePoint? 2 rest
  | 'u' :: rest => codePoint? 4 rest
  | 'U' :: rest => codePoint? 8 rest
  | _ => none

/-! ## Texts -/

/-- The rest of a text on one line, behind its opening quote; `acc` holds what was read, reversed,
and every step uses up a character. -/
def readLineText? (quote : Char) : Nat → List Char → List Char → Option (String × List Char)
  | 0, _, _ => none
  | _ + 1, _, [] => none
  | fuel + 1, acc, c :: rest =>
    if c = quote then some (String.ofList acc.reverse, rest)
    else if c = '\\' ∧ quote = '"' then
      (escape? rest).bind fun r => readLineText? quote fuel (r.1 :: acc) r.2
    else if isControl c then none
    else readLineText? quote fuel (c :: acc) rest

/-- The text without blanks and line breaks at its front. -/
def skipBreaks : List Char → List Char
  | '\r' :: '\n' :: rest => skipBreaks rest
  | c :: rest => if isSpace c || c == '\n' then skipBreaks rest else c :: rest
  | [] => []

/-- The text without blanks and line breaks at its front, if there is a line break among them. -/
def skipBrokenLine? (cs : List Char) : Option (List Char) :=
  (newline? (skipSpaces cs)).map skipBreaks

/-- The rest of a text over several lines, behind its opening quotes.  Three quotes end it; up to two
more in front of them belong to it.  Line breaks stay as they are written. -/
def readLongText? (quote : Char) : Nat → List Char → List Char → Option (String × List Char)
  | 0, _, _ => none
  | _ + 1, _, [] => none
  | fuel + 1, acc, c :: rest =>
    if c = quote then
      let quotes := (c :: rest).takeWhile (· == quote)
      if 3 ≤ quotes.length then
        let inner := min (quotes.length - 3) 2
        some (String.ofList (List.replicate inner quote ++ acc).reverse, rest.drop (inner + 2))
      else readLongText? quote fuel (c :: acc) rest
    else if c = '\\' ∧ quote = '"' then
      -- a backslash at the end of a line takes the break with it, and the blanks before the next
      -- text
      match skipBrokenLine? rest with
      | some rest => readLongText? quote fuel acc rest
      | none => (escape? rest).bind fun r => readLongText? quote fuel (r.1 :: acc) r.2
    else if isControl c && (newline? (c :: rest)).isNone then none
    else readLongText? quote fuel (c :: acc) rest

/-- The text at the front of a document, of any of the four kinds; the fuel is no less than the
document's length. -/
def readText? (fuel : Nat) (cs : List Char) : Option (String × List Char) :=
  let long := fun (quote : Char) (rest : List Char) =>
    readLongText? quote fuel [] ((newline? rest).getD rest)
  match cs with
  | '"' :: '"' :: '"' :: rest => long '"' rest
  | '\'' :: '\'' :: '\'' :: rest => long '\'' rest
  | '"' :: rest => readLineText? '"' fuel [] rest
  | '\'' :: rest => readLineText? '\'' fuel [] rest
  | _ => none

/-! ## Keys -/

/-- Holds of the characters of a bare word. -/
def isBare (c : Char) : Bool := Text.isLetter c || Text.isDigit c || c == '_' || c == '-'

/-- One part of a key. -/
def readName? : List Char → Option (String × List Char)
  | '"' :: rest => readLineText? '"' (rest.length + 1) [] rest
  | '\'' :: rest => readLineText? '\'' (rest.length + 1) [] rest
  | cs =>
    let word := cs.takeWhile isBare
    if word.isEmpty then none else some (String.ofList word, cs.drop word.length)

/-- A key, whose parts have dots between them, with the blanks around it; it has at most so many
parts. -/
def readParts? : Nat → List Char → Option (List String × List Char)
  | 0, _ => none
  | fuel + 1, cs => do
    let (name, rest) ← readName? (skipSpaces cs)
    match skipSpaces rest with
    | '.' :: rest =>
      let (names, rest) ← readParts? fuel rest
      return (name :: names, rest)
    | rest => return ([name], rest)

/-- The key at the front of a document, and the rest. -/
def readKey? (cs : List Char) : Option (List String × List Char) := readParts? maxDepth cs

end RegistryGate.Toml
