/-
  Search patterns.

  Where a filter of diagnostic output says what a field must hold, it says so by a regular
  expression.  Only whether a pattern is well formed matters here.  A pattern is read with the flags
  that hold at each place.  Nothing is known of the classes of characters beyond ASCII, so what needs
  them is refused: classes such as `\d`, edges of words and the change of case, all of them where the
  flags ask for characters instead of bytes.  What could match half a character is refused as well.

  A pattern with braces is never well formed where it stands in braces itself, since it ends at the
  first closing one.  So there are no counted repetitions and no names in braces.

  A piece is read together with its height, the number of pieces that stand inside each other in it.
-/
import RegistryGate.Text.Alphanumeric

namespace RegistryGate.Text.Pattern

/-- What the flags say at a place of a pattern. -/
structure Modes where
  /-- The pattern matches characters, not bytes. -/
  unicode : Bool := true
  /-- The case of letters does not count. -/
  anyCase : Bool := false
  /-- Blanks and comments do not count. -/
  verbose : Bool := false

/-- The text behind blanks and comments; a comment ends with its line. -/
def skipBlanks : Bool → List Char → List Char
  | _, [] => []
  | true, c :: cs => skipBlanks (c != '\n') cs
  | false, c :: cs =>
    if isBlank c then skipBlanks false cs
    else if c = '#' then skipBlanks true cs
    else c :: cs

/-- The text behind what does not count. -/
def Modes.skip (modes : Modes) (cs : List Char) : List Char :=
  if modes.verbose then skipBlanks false cs else cs

/-! ## Atoms -/

/-- A piece that has no pieces in it. -/
inductive Atom where
  /-- A character; `byte` is set when it is written as a byte. -/
  | char (value : Char) (byte : Bool)
  /-- Digits, blanks or characters of words, or all other characters. -/
  | kind (negated : Bool)
  /-- Any character. -/
  | any
  /-- A place at an edge of a word, or at none. -/
  | wordEdge
  /-- A place at an edge of the text or of a line. -/
  | edge

/-- Holds when an atom may stand in a sequence. -/
def Atom.isUsable (modes : Modes) : Atom → Bool
  | char c byte => if modes.unicode then !modes.anyCase else !byte || decide (c.toNat < 128)
  | kind negated => !modes.unicode && !negated
  | any => modes.unicode
  | wordEdge => !modes.unicode
  | edge => true

/-- Holds when an atom may stand in brackets. -/
def Atom.isMember (modes : Modes) : Atom → Bool
  | char c _ => if modes.unicode then !modes.anyCase else decide (c.toNat < 128)
  | kind negated => !modes.unicode && !negated
  | any | wordEdge | edge => false

/-- The character that an atom is. -/
def Atom.char? : Atom → Option Char
  | char c _ => some c
  | _ => none

/-- Reads so many hexadecimal digits. -/
def readHex? (modes : Modes) : Nat → Nat → List Char → Option (Nat × List Char)
  | 0, value, cs => some (value, cs)
  | count + 1, value, cs =>
    match modes.skip cs with
    | [] => none
    | c :: rest => (hexValue? c).bind fun digit => readHex? modes count (16 * value + digit) rest

/-- Reads the character of a code point of so many hexadecimal digits. -/
def readCode? (modes : Modes) (count : Nat) (cs : List Char) : Option (Atom × List Char) :=
  (readHex? modes count 0 cs).bind fun (code, rest) =>
    if code < 0x110000 ∧ ¬ (0xD800 ≤ code ∧ code < 0xE000) then
      some (.char (Char.ofNat code) (count == 2), rest)
    else none

/-- The control character that a letter behind a backslash stands for. -/
def control? : Char → Option Char
  | 'a' => some '\x07'
  | 'f' => some '\x0c'
  | 'n' => some '\n'
  | 'r' => some '\r'
  | 't' => some '\t'
  | 'v' => some '\x0b'
  | _ => none

/-- Reads what follows a backslash. -/
def readEscape? (modes : Modes) : List Char → Option (Atom × List Char)
  | [] => none
  | c :: rest =>
    if c = 'x' then readCode? modes 2 rest
    else if c = 'u' then readCode? modes 4 rest
    else if c = 'U' then readCode? modes 8 rest
    else if "dsw".toList.contains c then some (.kind false, rest)
    else if "DSW".toList.contains c then some (.kind true, rest)
    else if "Az".toList.contains c then some (.edge, rest)
    else if "bB<>".toList.contains c then some (.wordEdge, rest)
    else if isLetter c || isDigit c || decide (128 ≤ c.toNat) then
      (control? c).map fun value => (.char value false, rest)
    else some (.char c false, rest)

/-! ## Brackets -/

/-- The names of the classes of ASCII characters. -/
def classNames : List String :=
  ["alnum", "alpha", "ascii", "blank", "cntrl", "digit", "graph", "lower", "print", "punct", "space",
   "upper", "word", "xdigit"]

/-- Reads a named class, given what follows its bracket; also says whether it is negated. -/
def readNamed? : List Char → Option (Bool × List Char)
  | ':' :: cs =>
    let negated := cs.head? = some '^'
    let cs := if negated then cs.drop 1 else cs
    let name := cs.takeWhile (· != ':')
    match cs.drop name.length with
    | ':' :: ']' :: rest =>
      if classNames.contains (String.ofList name) then some (negated, rest) else none
    | _ => none
  | _ => none

/-- The height of pieces next to each other. -/
def rowHeight : List Nat → Nat
  | [] => 0
  | [height] => height
  | heights => 1 + heights.foldl max 0

/-- Brackets that are open: the heights of the members since the last operator, and the height of
what stands before that operator. -/
structure Brackets where
  members : List Nat := []
  left : Option Nat := none

/-- The height of what stands in the brackets. -/
def Brackets.height (b : Brackets) : Nat :=
  match b.left with
  | none => rowHeight b.members
  | some left => 1 + max left (rowHeight b.members)

/-- The brackets with another member. -/
def Brackets.add (b : Brackets) (height : Nat) : Brackets :=
  { b with members := height :: b.members }

/-- The brackets with an operator behind all that is in them. -/
def Brackets.operate (b : Brackets) : Brackets := { left := some b.height }

/-- Takes the hyphens at the front as members; the fuel bounds their number. -/
def readHyphens (modes : Modes) : Nat → Nat → List Char → Nat × List Char
  | fuel + 1, count, '-' :: cs => readHyphens modes fuel (count + 1) (modes.skip cs)
  | _, count, cs => (count, cs)

/-- Reads what follows an opening bracket: a sign of negation, hyphens, or a closing bracket that is
a member. -/
def openBrackets? (modes : Modes) (cs : List Char) : Option (Brackets × List Char) :=
  let cs := modes.skip cs
  let negated := cs.head? = some '^'
  let cs := if negated then modes.skip (cs.drop 1) else cs
  let (count, cs) := readHyphens modes cs.length 0 cs
  let closing := count = 0 ∧ cs.head? = some ']'
  let cs := if closing then modes.skip (cs.drop 1) else cs
  let count := if closing then 1 else count
  if (negated ∧ !modes.unicode) ∨ (0 < count ∧ !(Atom.char '-' false).isMember modes) then none
  else some ({ members := List.replicate count 0 }, cs)

/-- Reads a character or what follows a backslash. -/
def readMember? (modes : Modes) : List Char → Option (Atom × List Char)
  | [] => none
  | '\\' :: rest => readEscape? modes rest
  | c :: rest => some (.char c false, rest)

/-- The next character behind a hyphen that counts; in a comment, its first character. -/
def peek (modes : Modes) (cs : List Char) : Option Char :=
  if modes.verbose then
    match cs.dropWhile isBlank with
    | '#' :: rest => (rest.dropWhile isBlank).head?
    | rest => rest.head?
  else cs.head?

/-- Reads a member of brackets: a character, a kind of them or a range. -/
def readRange? (modes : Modes) (cs : List Char) : Option (List Char) :=
  (readMember? modes cs).bind fun (first, rest) =>
    let alone := if first.isMember modes then some (modes.skip rest) else none
    match modes.skip rest with
    | [] => none
    | '-' :: rest =>
      -- a hyphen before the closing bracket or before another hyphen makes no range
      if peek modes rest = some ']' ∨ peek modes rest = some '-' then alone
      else
        (readMember? modes (modes.skip rest)).bind fun (last, rest) =>
          match first.char?, last.char? with
          | some a, some b =>
            if a ≤ b ∧ first.isMember modes ∧ last.isMember modes then some rest else none
          | _, _ => none
    | _ => alone

/-- Reads on to the bracket that closes the outermost ones; yields their height.  The fuel bounds
the number of members. -/
def readBrackets? (modes : Modes) :
    Nat → Brackets → List Brackets → List Char → Option (Nat × List Char)
  | 0, _, _, _ => none
  | fuel + 1, b, outer, cs =>
    match modes.skip cs with
    | [] => none
    | '[' :: rest =>
      match readNamed? rest with
      | some (negated, rest) =>
        if if modes.unicode then modes.anyCase else negated then none
        else readBrackets? modes fuel (b.add 0) outer rest
      | none => (openBrackets? modes rest).bind fun r => readBrackets? modes fuel r.1 (b :: outer) r.2
    | ']' :: rest =>
      match outer with
      | [] => some (1 + b.height, rest)
      | o :: outer => readBrackets? modes fuel (o.add (1 + b.height)) outer rest
    | '&' :: '&' :: rest | '-' :: '-' :: rest | '~' :: '~' :: rest =>
      readBrackets? modes fuel b.operate outer rest
    | rest => (readRange? modes rest).bind fun rest => readBrackets? modes fuel (b.add 0) outer rest

/-! ## Groups -/

/-- The flags. -/
def flagNames : List Char := "imsUuRx".toList

/-- Holds of a list of flags in which each stands at most once, as does the sign that turns off
those behind it. -/
def areFlags (flags : List Char) : Bool :=
  decide flags.Nodup && flags.getLast? != some '-' &&
    flags.all fun c => c == '-' || flagNames.contains c

/-- The modes that flags lead to. -/
def Modes.set (modes : Modes) (flags : List Char) : Modes :=
  let isOn := fun c old =>
    if flags.contains c then (flags.takeWhile (· != '-')).contains c else old
  { unicode := isOn 'u' modes.unicode
    anyCase := isOn 'i' modes.anyCase
    verbose := isOn 'x' modes.verbose }

/-- Holds of the name of a group. -/
def isGroupName (name : List Char) : Bool :=
  match name with
  | [] => false
  | first :: rest =>
    (first == '_' || isAlphabetic first) &&
      rest.all fun c => "_.[]".toList.contains c || isAlphanumeric c

/-- A piece of a sequence: flags for what follows, or something that can be repeated. -/
inductive Piece where
  | flags
  | whole (height : Nat)

/-- The height of a piece. -/
def Piece.height : Piece → Nat
  | flags => 0
  | whole height => height

/-- A sequence that is being read: its pieces, the last one first, the heights of the sequences that
it is an alternative to, and the modes for what follows. -/
structure Branch where
  pieces : List Piece := []
  alternatives : List Nat := []
  modes : Modes := {}

namespace Branch

/-- The branch with another piece. -/
def add (b : Branch) (piece : Piece) : Branch := { b with pieces := piece :: b.pieces }

/-- The branch with a new alternative. -/
def alternate (b : Branch) : Branch :=
  { b with pieces := [], alternatives := rowHeight (b.pieces.map Piece.height) :: b.alternatives }

/-- The height of the branch with all its alternatives. -/
def height (b : Branch) : Nat := rowHeight b.alternate.alternatives

/-- The branch with its last piece repeated. -/
def repeatLast? (b : Branch) : Option Branch :=
  match b.pieces with
  | .whole height :: pieces => some { b with pieces := .whole (height + 1) :: pieces }
  | _ => none

end Branch

/-- What an opening parenthesis opens. -/
inductive Opening where
  /-- A group, possibly with a name and with flags of its own. -/
  | group (name : Option (List Char)) (flags : List Char)
  /-- Nothing: the flags are for what follows. -/
  | flags (flags : List Char)

/-- Reads a name up to its closing angle bracket. -/
def readName? (cs : List Char) : Option (Opening × List Char) :=
  let name := cs.takeWhile (· != '>')
  match cs.drop name.length with
  | _ :: rest => if isGroupName name then some (.group name [], rest) else none
  | [] => none

/-- Reads flags up to what ends them. -/
def readFlags? (cs : List Char) : Option (Opening × List Char) :=
  let flags := cs.takeWhile fun c => c != ':' && c != ')'
  if !areFlags flags then none
  else
    match cs.drop flags.length with
    | ':' :: rest => some (.group none flags, rest)
    | _ :: rest => if flags.isEmpty then none else some (.flags flags, rest)
    | [] => none

/-- Reads what follows an opening parenthesis. -/
def readOpening? : List Char → Option (Opening × List Char)
  | '?' :: 'P' :: '<' :: rest => readName? rest
  | '?' :: '<' :: rest => readName? rest
  | '?' :: rest => readFlags? rest
  | rest => some (.group none [], rest)

/-! ## Patterns -/

/-- Reads an atom that stands in a sequence. -/
def readAtom? (modes : Modes) : List Char → Option (Atom × List Char)
  | [] => none
  | '\\' :: rest => readEscape? modes rest
  | '.' :: rest => some (.any, rest)
  | '^' :: rest | '$' :: rest => some (.edge, rest)
  | '\x7b' :: _ => none
  | c :: rest => some (.char c false, rest)

/-- The text behind the sign that a repetition takes as little as it can. -/
def skipLazy : List Char → List Char
  | '?' :: rest => rest
  | rest => rest

/-- Reads a pattern to its end and yields its height.  `outer` are the branches around the open
groups, the innermost one first, and `names` the names of the groups so far; the fuel bounds the
number of pieces and signs. -/
def read? : Nat → List (List Char) → List Branch → Branch → List Char → Option Nat
  | 0, _, _, _, _ => none
  | fuel + 1, names, outer, b, cs =>
    match b.modes.skip cs with
    | [] => if outer.isEmpty then some b.height else none
    | '(' :: rest =>
      (readOpening? (b.modes.skip rest)).bind fun (opening, rest) =>
        match opening with
        -- flags on their own hold to the end of the group that they stand in
        | .flags flags =>
          read? fuel names outer { b.add .flags with modes := b.modes.set flags } rest
        | .group none flags => read? fuel names (b :: outer) { modes := b.modes.set flags } rest
        | .group (some name) _ =>
          if names.contains name then none
          else read? fuel (name :: names) (b :: outer) { modes := b.modes } rest
    | ')' :: rest =>
      match outer with
      | [] => none
      | o :: outer => read? fuel names outer (o.add (.whole (1 + b.height))) rest
    | '|' :: rest => read? fuel names outer b.alternate rest
    | '[' :: rest =>
      (openBrackets? b.modes rest).bind fun (brackets, rest) =>
        (readBrackets? b.modes (rest.length + 1) brackets [] rest).bind fun (height, rest) =>
          read? fuel names outer (b.add (.whole height)) rest
    | '*' :: rest | '+' :: rest | '?' :: rest =>
      b.repeatLast?.bind fun b => read? fuel names outer b (skipLazy rest)
    | rest =>
      (readAtom? b.modes rest).bind fun (atom, rest) =>
        if atom.isUsable b.modes then read? fuel names outer (b.add (.whole 0)) rest else none

/-- The largest height of a pattern. -/
def maxHeight : Nat := 250

/-- Holds of well-formed patterns. -/
def isValid (text : String) : Bool :=
  (read? (text.length + 1) [] [] {} text.toList).any fun height => decide (height ≤ maxHeight)

end RegistryGate.Text.Pattern
