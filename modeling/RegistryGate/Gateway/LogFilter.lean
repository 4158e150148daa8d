/-
  Filters of diagnostic output.

  A filter is a list of directives with commas between them.  A directive names a level, or a part
  of the program and possibly a level for it; in brackets it may say which spans of the program's
  work it is for, and in braces which field these have and what it must hold.  Only whether a filter
  is well formed matters here.
-/
import RegistryGate.Storage.Basic
import RegistryGate.Text.Pattern
import RegistryGate.Text.Split
import RegistryGate.Text.Utf8

namespace RegistryGate.Gateway.LogFilter

/-- The names of the levels. -/
def levelNames : List String := ["off", "error", "warn", "info", "debug", "trace"]

/-- Holds of the number of a level: digits, possibly behind a plus sign, of a value up to five. -/
def isLevelNumber (level : List Char) : Bool :=
  let digits := if level.head? = some '+' then level.drop 1 else level
  !digits.isEmpty && digits.all Text.isDigit &&
    digits.foldl (fun n c => 10 * n + (c.toNat - 48)) 0 ≤ 5

/-- Holds of a level, by its name in any case or by its number; it may be left out. -/
def isLevel (level : List Char) : Bool :=
  level.isEmpty || levelNames.contains (Text.lower (String.ofList level)) || isLevelNumber level

/-- Holds of the characters that a directive may start with: letters, numbers and a few others. -/
def isStart (c : Char) : Bool := Text.isAlphanumeric c || ['-', ':', '_'].contains c

/-! ## Layout -/

/-- A span of a directive. -/
structure Span where
  /-- Its name, which may be empty. -/
  name : List Char
  /-- What stands in braces behind the name. -/
  fields : Option (List Char)

/-- The parts of a directive. -/
structure Layout where
  /-- What stands before the other parts. -/
  target : List Char
  /-- What stands in brackets. -/
  span : Option Span
  /-- What stands behind an equals sign. -/
  level : Option (List Char)

/-- Reads what follows the other parts: nothing, or a level behind an equals sign. -/
def readLevel? : List Char → Option (Option (List Char))
  | [] => some none
  | '=' :: level => some (some level)
  | _ => none

/-- Reads what follows an opening bracket: the span, the closing bracket and what follows it. -/
def readSpan? (cs : List Char) : Option (Span × Option (List Char)) :=
  let name := cs.takeWhile fun c => c != ']' && c != '\x7b'
  match cs.drop name.length with
  | ']' :: rest => (readLevel? rest).map fun level => (⟨name, none⟩, level)
  | _ :: rest =>
    let fields := rest.takeWhile (· != '\x7d')
    match rest.drop fields.length with
    | _ :: ']' :: rest => (readLevel? rest).map fun level => (⟨name, some fields⟩, level)
    | _ => none
  | [] => none

/-- Reads the parts of a directive. -/
def readLayout? (cs : List Char) : Option Layout :=
  let target := cs.takeWhile fun c => c != '=' && c != '['
  match cs.drop target.length with
  | '[' :: rest => (readSpan? rest).map fun (span, level) => ⟨target, some span, level⟩
  | rest => (readLevel? rest).map fun level => ⟨target, none, level⟩

/-! ## Fields -/

/-- Holds of numbers that have a plus sign in front: decimal ones, infinity and what is no number at
all.  Other numbers are patterns too. -/
def isPositiveNumber (value : List Char) : Bool :=
  let digits := fun (cs : List Char) => cs.dropWhile Text.isDigit
  let exponent := fun (cs : List Char) =>
    let cs := if cs.head? = some '+' ∨ cs.head? = some '-' then cs.drop 1 else cs
    !cs.isEmpty && cs.all Text.isDigit
  match value with
  | '+' :: cs =>
    let whole := digits cs
    let behind := if whole.head? = some '.' then digits (whole.drop 1) else whole
    let counted := (cs.length - behind.length) - (if whole.head? = some '.' then 1 else 0)
    ["inf", "infinity", "nan"].contains (Text.lower (String.ofList cs)) ||
      decide (0 < counted) &&
        match behind with
        | [] => true
        | e :: cs => (e == 'e' || e == 'E') && exponent cs
  | _ => false

/-- Holds of what a field may have to hold: a number or a pattern. -/
def isFieldValue (value : String) : Bool := isPositiveNumber value.toList || Text.Pattern.isValid value

/-- Holds of a field: a name and possibly a value, with an equals sign between them.  What stands
behind another equals sign does not count. -/
def isField (field : String) : Bool := ((Text.splitOn '=' field)[1]?).all isFieldValue

/-- So many bytes of a text behind so many others, if these are a text. -/
def slice? (text : String) (start count : Nat) : Option String :=
  Text.Utf8.decode? (((Text.Utf8.encode text).drop start).take count)

/-- The number of bytes of characters. -/
def byteCount (cs : List Char) : Nat := (Text.Utf8.encode (String.ofList cs)).length

/-- Holds of a well-formed directive.  White space around it does not count for its layout, but the
places of the layout are those of the text with that white space: a level may have none on either
side, and fields are taken as far to the left as there is white space before them. -/
def isDirective (text : String) : Bool :=
  let trimmed := (Text.trim text).toList
  match readLayout? trimmed with
  | none => false
  | some layout =>
    let fields := layout.span.bind Span.fields
    let name := layout.span.elim [] Span.name
    let isStarted := layout.target.head?.elim layout.span.isSome isStart
    let areFields := fun (fields : List Char) =>
      !fields.isEmpty &&
        (slice? text (byteCount layout.target + byteCount name + 2) (byteCount fields)).any isField
    isStarted && fields.all areFields &&
      layout.level.all fun level => text.toList == trimmed && isLevel level

/-- Holds of a well-formed filter. -/
def isValid (text : String) : Bool :=
  ((Text.splitOn ',' text).filter fun part => !part.isEmpty).all isDirective

/-- The environment variable of a filter that is preferred to the one in the settings. -/
def variableName : String := "RUST_LOG"

/-- Holds when there is a filter to use: that of the environment, or else that of the settings. -/
def isUsable (env : Environment) (configured : String) : Bool :=
  (env.valueOf? variableName).any isValid || isValid configured

end RegistryGate.Gateway.LogFilter
