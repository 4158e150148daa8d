/-
  Requests to the gateway, and its answers.

  A request keeps its headers as bytes: they are text only when all of them are visible ASCII, and
  of several headers of one name the first counts.
-/
import RegistryGate.Json.Printer
import RegistryGate.Text.Ascii
import RegistryGate.Text.Split
import RegistryGate.Text.Utf8

namespace RegistryGate.Http

/-! ## Targets -/

/-- What a request asks for. -/
structure Target where
  /-- The path. -/
  path : String
  /-- The query, if there is one. -/
  query : Option String
deriving DecidableEq

namespace Target

/-- The target without the server that it may start with. -/
def withoutServer (text : String) : String :=
  let rest := text.toList
  if rest.head? = some '/' then text
  else
    match rest.dropWhile (· != ':') with
    | ':' :: '/' :: '/' :: server =>
      let path := server.dropWhile fun c => c != '/' && c != '?'
      String.ofList (if path.head? = some '/' then path else '/' :: path)
    | _ => text

/-- Reads a target: the path up to a question mark, and the query up to a number sign. -/
def ofText (text : String) : Target :=
  let shown := (withoutServer text).toList.takeWhile (· != '#')
  match shown.span (· != '?') with
  | (path, []) => ⟨String.ofList path, none⟩
  | (path, _ :: query) => ⟨String.ofList path, some (String.ofList query)⟩

end Target

/-! ## Requests -/

/-- A request as it arrives. -/
structure Request where
  /-- The method, in exactly its spelling. -/
  method : String
  /-- What it asks for. -/
  target : Target
  /-- The headers, in order. -/
  headers : List (String × List UInt8)
  /-- The body. -/
  body : ByteArray

/-- The value of the first header of a name, which is given in lower case. -/
def Request.header? (request : Request) (name : String) : Option (List UInt8) :=
  (request.headers.find? fun h => Text.lower h.1 == name).map Prod.snd

/-- The text of the first header of a name, if it is text at all. -/
def Request.headerText? (request : Request) (name : String) : Option String :=
  (request.header? name).bind Text.ofVisibleBytes?

/-! ## Answers -/

/-- The body of an answer. -/
inductive Content where
  /-- None. -/
  | nothing
  /-- A text. -/
  | text (value : String)
  /-- A document. -/
  | document (value : Json)
deriving DecidableEq

/-- The body as it is written. -/
def Content.render : Content → String
  | nothing => ""
  | text value => value
  | document value => value.render

/-- An answer. -/
structure Response where
  /-- The status. -/
  status : Nat
  /-- The content type, if there is a body. -/
  contentType : Option String
  /-- The methods that would have been allowed, where the request's was not. -/
  allow : Option String
  /-- The request id, in the header `X-Request-ID` of the answers of proxied paths. -/
  requestId : Option String
  /-- The body. -/
  content : Content
deriving DecidableEq

/-- An answer without a body. -/
def Response.bare (status : Nat) : Response := ⟨status, none, none, none, .nothing⟩

end RegistryGate.Http
