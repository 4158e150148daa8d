/-
  Addresses to listen on.

  An address is four decimal numbers with dots, or eight groups of hexadecimal digits with colons of
  which one run of zeros may be left out; the last two groups may be written as four numbers.  Behind
  it comes the port.  Six-group addresses stand in brackets and may carry the number of a network
  interface.  An address is written in its shortest form.
-/
import RegistryGate.Text.Ascii

namespace RegistryGate.Net

/-! ## Numbers -/

/-- The value of digits in a base, most significant first. -/
def digitsValue (base : Nat) (digits : List Char) : Nat :=
  digits.foldl (fun n c => n * base + (Text.hexValue? c).getD 0) 0

/-- Holds of the digits of a base of ten or sixteen. -/
def isDigitOf (base : Nat) (c : Char) : Bool := (Text.hexValue? c).any fun n => n < base

/-- The number at the front of a text, and the rest; it has at least one digit and is below
`bound`. -/
def readNumber? (base bound : Nat) (cs : List Char) : Option (Nat × List Char) :=
  let digits := cs.takeWhile (isDigitOf base)
  let n := digitsValue base digits
  if digits.isEmpty ∨ bound ≤ n then none else some (n, cs.drop digits.length)

/-- The text behind a character. -/
def expect? (c : Char) : List Char → Option (List Char)
  | d :: rest => if d = c then some rest else none
  | [] => none

/-! ## Addresses of four numbers -/

/-- One of the four numbers: at most three digits, without a zero in front. -/
def readOctet? (cs : List Char) : Option (Nat × List Char) :=
  let digits := cs.takeWhile (isDigitOf 10)
  if 3 < digits.length ∨ (digits.head? = some '0' ∧ 1 < digits.length) then none
  else readNumber? 10 256 cs

/-- Four numbers at the front of a text. -/
def readQuad? (cs : List Char) : Option (List Nat × List Char) := do
  let (a, cs) ← readOctet? cs
  let (b, cs) ← readOctet? (← expect? '.' cs)
  let (c, cs) ← readOctet? (← expect? '.' cs)
  let (d, cs) ← readOctet? (← expect? '.' cs)
  return ([a, b, c, d], cs)

/-! ## Addresses of eight groups -/

/-- One group: one to four hexadecimal digits. -/
def readGroup? (cs : List Char) : Option (Nat × List Char) :=
  let digits := cs.takeWhile (isDigitOf 16)
  if digits.isEmpty ∨ 4 < digits.length then none
  else some (digitsValue 16 digits, cs.drop digits.length)

/-- The two groups that four numbers stand for. -/
def groupsOfQuad (quad : List Nat) : List Nat :=
  match quad with
  | [a, b, c, d] => [a * 256 + b, c * 256 + d]
  | _ => []

/-- As many groups as there are at the front of a text, at most `room` of them, with colons between
them.  `found` holds those in front of them; `closed` tells that the last two were four numbers. -/
def readGroups : Nat → List Nat → List Char → List Nat × Bool × List Char
  | 0, found, cs => (found, false, cs)
  | room + 1, found, cs =>
    match if found.isEmpty then some cs else expect? ':' cs with
    | none => (found, false, cs)
    | some start =>
      match if 0 < room then readQuad? start else none with
      | some (quad, rest) => (found ++ groupsOfQuad quad, true, rest)
      | none =>
        match readGroup? start with
        | some (group, rest) => readGroups room (found ++ [group]) rest
        | none => (found, false, cs)

/-- Eight groups at the front of a text, of which a run of at least one zero may be left out. -/
def readSix? (cs : List Char) : Option (List Nat × List Char) :=
  let (head, closed, rest) := readGroups 8 [] cs
  if head.length = 8 then some (head, rest)
  else if closed then none
  else
    match rest with
    | ':' :: ':' :: rest =>
      let (tail, _, rest) := readGroups (7 - head.length) [] rest
      some (head ++ List.replicate (8 - head.length - tail.length) 0 ++ tail, rest)
    | _ => none

/-! ## Socket addresses -/

/-- An address and a port. -/
inductive SocketAddress where
  /-- Four numbers. -/
  | four (numbers : List Nat) (port : Nat)
  /-- Eight groups, and the interface they belong to. -/
  | six (groups : List Nat) (scope port : Nat)
deriving DecidableEq

namespace SocketAddress

/-- A port behind its colon, up to the end of the text. -/
def readPort? (cs : List Char) : Option Nat := do
  let (port, rest) ← readNumber? 10 65536 (← expect? ':' cs)
  if rest.isEmpty then some port else none

/-- The interface number behind its percent sign; zero where there is none. -/
def readScope? (cs : List Char) : Option (Nat × List Char) :=
  match expect? '%' cs with
  | some rest => readNumber? 10 (Nat.pow 2 32) rest
  | none => some (0, cs)

/-- Reads an address of four numbers. -/
def parseFour? (cs : List Char) : Option SocketAddress := do
  let (numbers, rest) ← readQuad? cs
  return .four numbers (← readPort? rest)

/-- Reads an address of eight groups. -/
def parseSix? (cs : List Char) : Option SocketAddress := do
  let (groups, rest) ← readSix? (← expect? '[' cs)
  let (scope, rest) ← readScope? rest
  return .six groups scope (← readPort? (← expect? ']' rest))

/-- Reads an address. -/
def parse? (text : String) : Option SocketAddress :=
  (parseFour? text.toList).or (parseSix? text.toList)

/-! ## Writing -/

/-- The lengths of the runs of zeros that start at each place. -/
def zeroRuns : List Nat → List Nat
  | [] => []
  | g :: gs =>
    let runs := zeroRuns gs
    (if g = 0 then runs.headD 0 + 1 else 0) :: runs

/-- The hexadecimal text of groups, with colons between them. -/
def groupsText (groups : List Nat) : String :=
  ":".intercalate (groups.map fun g => String.ofList (Nat.toDigits 16 g))

/-- The text of four numbers. -/
def quadText (numbers : List Nat) : String := ".".intercalate (numbers.map toString)

/-- The shortest text of eight groups: the first of the longest runs of two or more zeros is left
out; an embedded address of four numbers is written as one. -/
def sixText (groups : List Nat) : String :=
  match groups with
  | [0, 0, 0, 0, 0, 0xffff, g, h] =>
    "::ffff:" ++ quadText [g / 256, g % 256, h / 256, h % 256]
  | _ =>
    let runs := zeroRuns groups
    let longest := runs.foldl max 0
    if longest < 2 then groupsText groups
    else
      let start := runs.takeWhile (· != longest) |>.length
      groupsText (groups.take start) ++ "::" ++ groupsText (groups.drop (start + longest))

/-- The text of an address. -/
def text : SocketAddress → String
  | four numbers port => quadText numbers ++ ":" ++ toString port
  | six groups scope port =>
    "[" ++ sixText groups ++ (if scope = 0 then "" else "%" ++ toString scope) ++ "]:"
      ++ toString port

end SocketAddress

end RegistryGate.Net
