/-
  Certificates and keys in their textual form.

  A text holds sections.  Each starts with a line of dashes that names what it holds, ends with one
  that names the same, and has base64 in between.  Text outside of sections does not count, and
  neither do sections that hold something unknown.  A line that starts a section inside of another one
  gives it a new name, and keeps what it holds.
-/
import RegistryGate.Text.Ascii

namespace RegistryGate.Net.Pem

/-- How a private key is encoded. -/
inductive KeyEncoding where
  /-- A key of any kind with its algorithm. -/
  | general
  /-- An RSA key. -/
  | rsa
  /-- A key on a curve. -/
  | curve
deriving DecidableEq

/-- What a section holds. -/
inductive Content where
  /-- A certificate. -/
  | certificate
  /-- A private key. -/
  | key (encoding : KeyEncoding)
  /-- Something else that is known. -/
  | other
deriving DecidableEq

/-- What a section of a name holds; none for unknown names. -/
def Content.ofName? (name : String) : Option Content :=
  match name with
  | "CERTIFICATE" => some certificate
  | "PRIVATE KEY" => some (key .general)
  | "RSA PRIVATE KEY" => some (key .rsa)
  | "EC PRIVATE KEY" => some (key .curve)
  | "PUBLIC KEY" | "X509 CRL" | "CERTIFICATE REQUEST" | "ECHCONFIG" => some other
  | _ => none

/-- A section. -/
structure Part where
  /-- What it holds. -/
  content : Content
  /-- Its bytes. -/
  bytes : List UInt8
deriving DecidableEq

/-! ## Lines -/

/-- The text of the bytes of a line, whatever they are. -/
def lineText (line : List UInt8) : List Char := line.map fun b => Char.ofNat b.toNat

/-- Holds of the characters that end a line. -/
def isBreak (c : Char) : Bool := c == '\n' || c == '\r'

/-- The five dashes around a name. -/
def dashes : List Char := "-----".toList

/-- The text after the start of every opening line. -/
def openingStart : List Char := "-----BEGIN ".toList

/-- The text before the name of every closing line. -/
def closingStart : List Char := "-----END ".toList

/-- The name in an opening line, given what follows its start.  The line ends with just five dashes;
blanks may stand between and behind them. -/
def openingName? (rest : List Char) : Option (List Char) :=
  let tail := (rest.reverse.takeWhile fun c => c == '-' || c == ' ').reverse.dropWhile (· == ' ')
  if tail.count '-' = 5 then some (rest.take (rest.length - tail.length)) else none

/-! ## Base64 -/

/-- The number that a character of the alphabet stands for. -/
def value? (c : Char) : Option Nat :=
  let n := c.toNat
  if 65 ≤ n ∧ n ≤ 90 then some (n - 65)
  else if 97 ≤ n ∧ n ≤ 122 then some (n - 97 + 26)
  else if 48 ≤ n ∧ n ≤ 57 then some (n - 48 + 52)
  else if c = '+' then some 62
  else if c = '/' then some 63
  else none

/-- The bytes of numbers of six bits; bits that fill no byte do not count. -/
def bytesOf : List Nat → List UInt8
  | a :: b :: c :: d :: rest =>
    UInt8.ofNat (a * 4 + b / 16) :: UInt8.ofNat (b * 16 + c / 4) :: UInt8.ofNat (c * 64 + d)
      :: bytesOf rest
  | [a, b, c] => [UInt8.ofNat (a * 4 + b / 16), UInt8.ofNat (b * 16 + c / 4)]
  | [a, b] => [UInt8.ofNat (a * 4 + b / 16)]
  | _ => []

/-- Holds of the blanks between characters. -/
def isBlank (c : Char) : Bool := c == ' ' || (decide (9 ≤ c.toNat) && decide (c.toNat ≤ 13))

/-- The bytes of base64.  The last group may be padded to four characters, but need not be. -/
def decode? (cs : List Char) : Option (List UInt8) :=
  let cs := cs.filter fun c => !isBlank c
  let bare := (cs.reverse.dropWhile (· == '=')).reverse
  let isWhole := cs.length % 4 = 0 ∧ cs.length ≤ bare.length + 2
  if bare.length % 4 = 1 ∨ ¬ (isWhole ∨ cs.length = bare.length) then none
  else (bare.mapM value?).map bytesOf

/-! ## Texts -/

/-- A section that has been opened: its name and its lines so far. -/
structure Open where
  /-- The name. -/
  name : List Char
  /-- The base64. -/
  body : List Char

/-- The state of reading: the open section, and the sections that were closed. -/
structure State where
  /-- The open section. -/
  current : Option Open
  /-- The closed ones, last first. -/
  parts : List Part

/-- Reads one line. -/
def step (state : State) (line : List Char) : Option State :=
  match openingStart.isPrefixOf? line with
  -- what an unclosed section holds goes to the section that is opened in it
  | some rest => (openingName? rest).map fun name =>
      { state with current := some ⟨name, (state.current.map Open.body).getD []⟩ }
  | none =>
    match state.current with
    | none => some state
    | some section' =>
      if (closingStart ++ section'.name ++ dashes).isPrefixOf line then
        match Content.ofName? (String.ofList section'.name) with
        -- sections of other names are passed over
        | none => some { state with current := none }
        | some content => (decode? section'.body).map fun bytes =>
            ⟨none, ⟨content, bytes⟩ :: state.parts⟩
      else some { state with current := some { section' with body := section'.body ++ line } }

/-- The sections of a text, in order; none when the text is not well formed. -/
def parts? (bytes : List UInt8) : Option (List Part) :=
  match ((lineText bytes).splitOnP isBreak).foldlM step ⟨none, []⟩ with
  | some ⟨none, parts⟩ => some parts.reverse
  | _ => none

end RegistryGate.Net.Pem
