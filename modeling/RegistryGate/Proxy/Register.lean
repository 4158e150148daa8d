/-
  What the register answers.
-/
import RegistryGate.Json.Basic

namespace RegistryGate.Proxy

/-- A successful answer of the register. -/
structure RegisterResponse where
  /-- The HTTP status. -/
  status : Nat
  /-- The content type, if there is one. -/
  contentType : Option String
  /-- The document. -/
  body : Json
deriving DecidableEq

/-- Why the register gave no usable answer. -/
inductive RegisterError where
  /-- It answered with another status than success; the body is absent when it is no document. -/
  | status (status : Nat) (body : Json)
  /-- It did not answer in time. -/
  | timeout (detail : String)
  /-- It could not be reached. -/
  | transport (detail : String)
  /-- Its answer is no document. -/
  | invalidResponse (detail : String)
deriving DecidableEq

/-- The text of a register error. -/
def RegisterError.message : RegisterError → String
  | status code _ => "upstream returned status " ++ toString code
  | timeout detail => "upstream timeout: " ++ detail
  | transport detail => "upstream transport error: " ++ detail
  | invalidResponse detail => "upstream invalid response: " ++ detail

/-- The outcome of one call. -/
abbrev RegisterResult := Except RegisterError RegisterResponse

end RegistryGate.Proxy
