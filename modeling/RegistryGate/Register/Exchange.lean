/-
  Requests to other servers, and their answers.

  An answer is untrusted until it was read: its body arrives in chunks, of which no more are kept
  than a limit allows, whatever length the other server declares.
-/
import RegistryGate.Json.Reader
import RegistryGate.Net.Target
import RegistryGate.Proxy.Register
import RegistryGate.Text.Ascii
import RegistryGate.Text.Utf8

namespace RegistryGate.Register

open Proxy (RegisterError)

/-- A request as it is sent. -/
structure Outgoing where
  /-- The address. -/
  url : String
  /-- What the body is written in. -/
  contentType : String
  /-- The authorization header, if there is one. -/
  authorization : Option String
  /-- The body. -/
  body : String
deriving DecidableEq

/-- The media type of documents, both of those that are sent and of those that are asked for. -/
def jsonMediaType : String := "application/json"

/-- Why there was no answer, or no end of it. -/
inductive TransportFault where
  /-- It took too long. -/
  | timeout (detail : String)
  /-- The connection failed. -/
  | broken (detail : String)
deriving DecidableEq

/-- A transport fault as the gateway reports it. -/
def TransportFault.toRegisterError : TransportFault → RegisterError
  | timeout detail => .timeout detail
  | broken detail => .transport detail

/-- The body of an answer as it arrives. -/
structure Arrival where
  /-- The length that was declared. -/
  declared : Option Nat
  /-- The chunks that arrive. -/
  chunks : List ByteArray
  /-- What goes wrong after them. -/
  fault : Option TransportFault

/-- The start of an answer. -/
structure Head where
  /-- The HTTP status. -/
  status : Nat
  /-- The names and values of the headers. -/
  headers : List (List UInt8 × List UInt8)

namespace Head

/-- Holds of the bytes that may stand in the value of a header. -/
def isValueByte (b : UInt8) : Bool := b == 9 || (decide (32 ≤ b) && b != 127)

/-- Holds of the bytes of the name of a header. -/
def isNameByte (b : UInt8) : Bool := decide (b < 128) && Text.isTokenChar (Char.ofNat b.toNat)

/-- Holds of a start that can be read: the status has three digits, and the headers are well
formed. -/
def isReadable (head : Head) : Bool :=
  decide (100 ≤ head.status) && decide (head.status < 1000) &&
    head.headers.all fun (name, value) =>
      !name.isEmpty && name.all isNameByte && value.all isValueByte

/-- Holds of a start that only announces the answer. -/
def isAnnouncement (head : Head) : Bool :=
  decide (100 ≤ head.status) && decide (head.status < 200) && head.status != 101

/-- Holds of a start that no body belongs to, whatever follows it. -/
def isWhole (head : Head) : Bool := [101, 204, 304].contains head.status

/-- A value without the blanks around it. -/
def trimValue (value : List UInt8) : List UInt8 :=
  let isBlank := fun (b : UInt8) => b == 32 || b == 9
  ((value.dropWhile isBlank).reverse.dropWhile isBlank).reverse

/-- The value of the first header of a name, which is given in lower case. -/
def valueOf? (name : String) (head : Head) : Option (List UInt8) :=
  let isNamed := fun (bytes : List UInt8) =>
    (Text.Utf8.decode? bytes).any fun text => Text.lower text == name
  (head.headers.find? fun h => isNamed h.1).map fun h => trimValue h.2

end Head

/-- An answer. -/
structure Incoming where
  /-- Its start. -/
  head : Head
  /-- The body. -/
  body : Arrival

namespace Incoming

/-- The answer that a start and a body make.  A start that cannot be read makes none, nor does one
that only announces an answer; and what follows a start without a body is not looked at. -/
def ofHead (head : Head) (body : Arrival) : Except TransportFault Incoming :=
  if !head.isReadable || head.isAnnouncement then .error (.broken "malformed answer")
  else .ok ⟨head, if head.isWhole then ⟨some 0, [], none⟩ else body⟩

/-- The HTTP status. -/
def status (answer : Incoming) : Nat := answer.head.status

/-- The bytes of the content type header, if there is one. -/
def contentType (answer : Incoming) : Option (List UInt8) := answer.head.valueOf? "content-type"

/-- Holds of the statuses of success. -/
def isSuccess (answer : Incoming) : Bool :=
  decide (200 ≤ answer.status) && decide (answer.status < 300)

end Incoming

/-- What may arrive for a request. -/
abbrev Exchange := Outgoing → Except TransportFault Incoming

/-- The target of a request; `none` when nothing can be sent to its address. -/
def Outgoing.target? (outgoing : Outgoing) : Option String := Net.Target.ofAddress? outgoing.url

/-- Holds of a request that can be sent. -/
def Outgoing.isSendable (outgoing : Outgoing) : Bool := outgoing.target?.isSome

/-- What comes of a request, which is not sent when its address is none for requests. -/
def Exchange.deliver (exchange : Exchange) (outgoing : Outgoing) : Except TransportFault Incoming :=
  if outgoing.isSendable then do
    let arrived ← exchange outgoing
    Incoming.ofHead arrived.head arrived.body
  else .error (.broken "builder error")

/-! ## Bodies -/

/-- The error for a body that is too long. -/
def tooLong : RegisterError := .invalidResponse "upstream response exceeds size limit"

/-- Keeps one more chunk, if the limit allows. -/
def keep (limit : Nat) (kept chunk : ByteArray) : Except RegisterError ByteArray :=
  if limit < kept.size + chunk.size then .error tooLong else .ok (kept ++ chunk)

/-- The whole body, of at most `limit` bytes.  A declared length above the limit is refused before
any chunk is read. -/
def Arrival.readLimited (limit : Nat) (body : Arrival) : Except RegisterError ByteArray :=
  if body.declared.any fun length => decide (limit < length) then .error tooLong
  else
    match body.chunks.foldlM (keep limit) ByteArray.empty, body.fault with
    | .error error, _ => .error error
    | .ok _, some fault => .error fault.toRegisterError
    | .ok bytes, none => .ok bytes

/-- The text that bytes are the UTF-8 form of, read as a document. -/
def document? (bytes : ByteArray) : Option Json := (String.fromUTF8? bytes).bind Json.parse?

end RegistryGate.Register
