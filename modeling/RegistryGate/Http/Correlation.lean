/-
  What a caller says about the context of a request, and the ids of requests.

  The correlation id is the key under which identifiers are replaced by tokens, so a malformed one
  is refused and never repaired.  The task description only goes into the audit record; it is cut
  to length.  Request ids are issued from a counter under an id of the running gateway.
-/
import RegistryGate.Text.Ascii
import RegistryGate.Text.Blank

namespace RegistryGate.Http

/-- The header that carries the correlation id. -/
def correlationHeader : String := "x-correlation-id"

/-- The header that carries the task description. -/
def taskHeader : String := "x-task-description"

/-! ## Correlation ids -/

/-- The most bytes of a correlation id. -/
def maxCorrelationLength : Nat := 128

/-- Why a correlation header is refused. -/
inductive CorrelationFault where
  /-- It is blank. -/
  | emptyAfterTrim
  /-- It has more bytes than `maxCorrelationLength`. -/
  | tooLong
  /-- It has a character that no HTTP token has. -/
  | disallowedChar
deriving DecidableEq

/-- The text of a correlation fault. -/
def CorrelationFault.message : CorrelationFault → String
  | emptyAfterTrim => "empty_after_trim"
  | tooLong => "too_long"
  | disallowedChar => "contains_disallowed_char"

/-- The correlation id that a header names: its value, trimmed, if that is an HTTP token of at most
`maxCorrelationLength` bytes. -/
def correlationId (value : String) : Except CorrelationFault String :=
  let id := Text.trim value
  if id.isEmpty then .error .emptyAfterTrim
  else if maxCorrelationLength < id.utf8ByteSize then .error .tooLong
  else if id.toList.all Text.isTokenChar then .ok id
  else .error .disallowedChar

/-- The correlation id of a request whose header may be absent. -/
def correlationId? : Option String → Except CorrelationFault (Option String)
  | none => .ok none
  | some value => (correlationId value).map some

/-! ## Task descriptions -/

/-- The most characters of a task description. -/
def maxTaskLength : Nat := 512

/-- The task description of a header: trimmed and cut; none when it is blank. -/
def taskDescription (value : String) : Option String :=
  let task := Text.trim value
  if task.isEmpty then none else some (String.ofList (task.toList.take maxTaskLength))

/-! ## Request ids -/

/-- A source of request ids. -/
structure RequestIds where
  /-- The id of the running gateway. -/
  boot : UInt64
  /-- The number of the next request; after the largest word it starts over. -/
  next : UInt64

namespace RequestIds

/-- A source that has issued no id. -/
def start (boot : UInt64) : RequestIds := ⟨boot, 1⟩

/-- The id of a request. -/
def render (boot number : UInt64) : String :=
  "brp-" ++ Text.hexPadded 16 boot.toNat ++ "-" ++ Text.hexPadded 8 number.toNat

/-- Issues the next id. -/
def issue (ids : RequestIds) : String × RequestIds :=
  (render ids.boot ids.next, { ids with next := ids.next + 1 })

end RequestIds

end RegistryGate.Http
