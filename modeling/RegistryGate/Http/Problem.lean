/-
  Problem documents.

  Every failure of a forwarded path reaches the client as one document: the kind of problem, a title
  and a detail in the gateway's language, the HTTP status and a code for programs.  Denials of every
  cause share one document, so that it tells nothing about scopes.
-/
import RegistryGate.Message.Client
import RegistryGate.Proxy.Pipeline
import RegistryGate.Text.Blank

namespace RegistryGate.Http

open Proxy (PipelineError RegisterError)

/-- The kinds of problems, by the code that programs read. -/
inductive ProblemCode where
  /-- A parameter of the request is at fault. -/
  | paramsValidation
  /-- The request has no readable body. -/
  | parseError
  /-- The caller lacks a permission. -/
  | permissionDenied
  /-- The caller is not known. -/
  | notAuthenticated
  /-- The register found nothing. -/
  | notFound
  /-- The register failed. -/
  | registerError
  /-- The register did not answer in time. -/
  | registerTimeout
  /-- The gateway failed. -/
  | internalError
deriving DecidableEq

namespace ProblemCode

/-- The code as it is written. -/
def name : ProblemCode → String
  | paramsValidation => "paramsValidation"
  | parseError => "parseError"
  | permissionDenied => "permissionDenied"
  | notAuthenticated => "notAuthenticated"
  | notFound => "notFound"
  | registerError => "upstreamError"
  | registerTimeout => "upstreamTimeout"
  | internalError => "internalError"

/-- The HTTP status of a kind of problem. -/
def status : ProblemCode → Nat
  | paramsValidation | parseError => 400
  | notAuthenticated => 401
  | permissionDenied => 403
  | notFound => 404
  | internalError => 500
  | registerError => 502
  | registerTimeout => 504

end ProblemCode

/-- The address of the document that describes a status. -/
def statusUri (status : Nat) : String :=
  "https://datatracker.ietf.org/doc/html/" ++ match status with
    | 400 => "rfc7231#section-6.5.1"
    | 401 => "rfc7235#section-3.1"
    | 403 => "rfc7231#section-6.5.3"
    | 404 => "rfc7231#section-6.5.4"
    | 502 => "rfc7231#section-6.6.3"
    | 504 => "rfc7231#section-6.6.5"
    | _ => "rfc7231#section-6.6.1"

/-- The content type of problem documents. -/
def problemContentType : String := "application/problem+json"

/-- A problem as the client reads it. -/
structure Problem where
  /-- The kind of problem. -/
  code : ProblemCode
  /-- The summary of the kind. -/
  title : String
  /-- What went wrong in this request. -/
  detail : String
  /-- The path of the request. -/
  instancePath : Option String
deriving DecidableEq

namespace Problem

/-- The HTTP status. -/
def status (p : Problem) : Nat := p.code.status

/-- Names the path of the request. -/
def withInstance (p : Problem) (path : String) : Problem := { p with instancePath := some path }

/-- The document. -/
def toJson (p : Problem) : Json :=
  Json.ofMembers ([("type", .string (statusUri p.status)), ("title", .string p.title),
    ("status", Json.ofNat p.status), ("detail", .string p.detail), ("code", .string p.code.name)]
    ++ (p.instancePath.map fun path => ("instance", Json.string path)).toList)

/-- The text under a key of problem texts. -/
def say (locale : Locale) (key : String) (args : List (String × String)) : String :=
  MessageCatalog.client.textFor locale ("problem." ++ key) args

/-- A problem with the title and the detail under one key. -/
def keyed (code : ProblemCode) (key : String) (locale : Locale) : Problem :=
  ⟨code, say locale (key ++ ".title") [], say locale (key ++ ".detail") [], none⟩

/-- No bearer token, or one that was refused. -/
def notAuthenticated : Locale → Problem := keyed .notAuthenticated "not_authenticated"

/-- A denial, whatever its cause. -/
def permissionDenied : Locale → Problem := keyed .permissionDenied "permission_denied"

/-- A body that is no JSON object. -/
def parseError : Locale → Problem := keyed .parseError "parse_error"

/-- A failure of the gateway. -/
def internal : Locale → Problem := keyed .internalError "internal"

/-- A faulty parameter. -/
def paramsValidation (locale : Locale) (detail : String) : Problem :=
  ⟨.paramsValidation, say locale "params_validation.title" [], detail, none⟩

/-- A malformed correlation header. -/
def invalidCorrelation (locale : Locale) : Problem :=
  paramsValidation locale (say locale "params_validation.correlation" [])

/-- A text member of a document, trimmed; none when it is blank. -/
def bodyText? (body : Json) (name : String) : Option String :=
  ((body.get? name).bind Json.asString?).bind fun text =>
    let text := Text.trim text
    if text.isEmpty then none else some text

/-- The problem of a register that gave no usable answer.  Where it found the request at fault or
denied it, its own words are passed on. -/
def ofRegister (locale : Locale) : RegisterError → Problem
  | .status 400 body =>
    paramsValidation locale
      ((bodyText? body "detail").getD (say locale "params_validation.remote" []))
  | .status 404 _ => keyed .notFound "not_found" locale
  | .status code body =>
    if code = 401 ∨ code = 403 then
      { permissionDenied locale with
        detail := say locale "remote_denied.detail"
          [("status", toString code), ("title", (bodyText? body "title").getD "")] }
    else keyed .registerError "upstream_error" locale
  | .timeout _ => keyed .registerTimeout "upstream_timeout" locale
  | .transport _ | .invalidResponse _ => keyed .registerError "upstream_error" locale

/-- The problem of a request that got no answer. -/
def ofPipeline (locale : Locale) : PipelineError → Problem
  | .policy (.unknownParameter parameter) =>
    paramsValidation locale (say locale "params_validation.unknown" [("parameter", parameter)])
  | .policy (.unsupportedValue parameter values) =>
    paramsValidation locale (say locale "params_validation.unsupported"
      [("parameter", parameter), ("values", Text.joinWith ", " values)])
  | .policy (.missingParameter parameter) =>
    paramsValidation locale (say locale "params_validation.missing" [("parameter", parameter)])
  | .policy (.permissionDenied _ _) | .datasetNotGranted | .tokenization _ =>
    permissionDenied locale
  | .register error => ofRegister locale error
  | .internal _ => internal locale

end Problem

end RegistryGate.Http
