/-
  Writing JSON.

  The text is compact, members come in their order, and inside a text value only the quote, the
  backslash and the control characters below U+0020 are escaped: the short escapes where there is
  one, else four lower-case hexadecimal digits.  Because every control character is escaped, a
  written value has no line break in it, whatever texts it carries.
-/
import RegistryGate.Json.Basic
import RegistryGate.Text.Ascii

namespace RegistryGate.Json

/-- One character inside a written text value. -/
def escapeChar (c : Char) : List Char :=
  if c = '"' then ['\\', '"']
  else if c = '\\' then ['\\', '\\']
  else if c.toNat < 32 then
    match c.toNat with
    | 8 => ['\\', 'b']
    | 9 => ['\\', 't']
    | 10 => ['\\', 'n']
    | 12 => ['\\', 'f']
    | 13 => ['\\', 'r']
    | n => ['\\', 'u', '0', '0', Text.hexDigit (n / 16), Text.hexDigit (n % 16)]
  else [c]

/-- A text value as it is written, quotes included. -/
def quote (text : String) : List Char := '"' :: (text.toList.flatMap escapeChar ++ ['"'])

mutual

/-- The characters of a written value. -/
def chars : Json → List Char
  | .null => ['n', 'u', 'l', 'l']
  | .bool true => ['t', 'r', 'u', 'e']
  | .bool false => ['f', 'a', 'l', 's', 'e']
  | .number n => n.text.toList
  | .string s => quote s
  | .array items => '[' :: (charsOfItems items ++ [']'])
  | .object members => '{' :: (charsOfMembers members ++ ['}'])

/-- The characters of written items, with commas between them. -/
def charsOfItems : List Json → List Char
  | [] => []
  | [item] => chars item
  | item :: next :: rest => chars item ++ ',' :: charsOfItems (next :: rest)

/-- The characters of written members, with commas between them. -/
def charsOfMembers : List (String × Json) → List Char
  | [] => []
  | [(name, value)] => quote name ++ ':' :: chars value
  | (name, value) :: next :: rest =>
    quote name ++ ':' :: (chars value ++ ',' :: charsOfMembers (next :: rest))

end

/-- The compact text of a value. -/
def render (value : Json) : String := String.ofList (chars value)

end RegistryGate.Json
