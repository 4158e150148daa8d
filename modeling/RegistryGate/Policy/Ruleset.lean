/-
  Rulesets: one policy per parameter, in the order of their declaration.

  Every parameter of a request needs a policy and every value needs a rule.  The order of
  declaration decides which of several faulty parameters is reported; a policy that replaces another
  keeps its place.
-/
import RegistryGate.Policy.Parameter

namespace RegistryGate

/-! ## Errors -/

/-- Why a request does not pass its ruleset. -/
inductive PolicyError where
  /-- A parameter has no policy. -/
  | unknownParameter (parameter : String)
  /-- Values of a parameter are covered by no rule. -/
  | unsupportedValue (parameter : String) (values : List String)
  /-- A parameter that the request must have is absent. -/
  | missingParameter (parameter : String)
  /-- The granted scopes do not meet every requirement. -/
  | permissionDenied (needed missing : List String)
deriving DecidableEq

/-- The text of a policy error. -/
def PolicyError.message : PolicyError → String
  | unknownParameter parameter => "unknown parameter: " ++ parameter
  | unsupportedValue parameter values =>
    "unsupported value for " ++ parameter ++ ": " ++ Text.joinWith ", " values
  | missingParameter parameter => "missing parameter: " ++ parameter
  | permissionDenied _ missing => "permission denied, missing: " ++ Text.joinWith ", " missing

/-- Passes when the granted scopes meet every requirement. -/
def Requirements.ensureGranted (needed : Requirements) (granted : NameSet) :
    Except PolicyError Unit :=
  let missing := needed.missing granted
  if missing.isEmpty then .ok () else .error (.permissionDenied needed.labels missing.labels)

/-! ## Rulesets -/

/-- The policies of a request's parameters. -/
structure Ruleset where
  /-- The policies under their parameters' names, in the order of declaration. -/
  entries : List (String × ParameterPolicy)
deriving DecidableEq

namespace Ruleset

/-- The ruleset that knows no parameter. -/
def empty : Ruleset := ⟨[]⟩

/-- Puts a policy in the place of the one under the same name, or behind all others. -/
def insertEntry (name : String) (policy : ParameterPolicy) :
    List (String × ParameterPolicy) → List (String × ParameterPolicy)
  | [] => [(name, policy)]
  | (k, p) :: rest =>
    if k = name then (name, policy) :: rest else (k, p) :: insertEntry name policy rest

/-- Declares a parameter, or gives a declared one another policy. -/
def insert (rules : Ruleset) (name : String) (policy : ParameterPolicy) : Ruleset :=
  ⟨insertEntry name policy rules.entries⟩

/-- The policy of a parameter. -/
def get? (rules : Ruleset) (name : String) : Option ParameterPolicy :=
  Members.get? name rules.entries

/-- The declared parameters, in order. -/
def parameters (rules : Ruleset) : List String := rules.entries.map Prod.fst

/-- The parameters of a request that have no policy, ascending. -/
def unknownParameters (rules : Ruleset) (request : Payload) : NameSet :=
  SortedSet.ofList ((Members.names request).filter fun name => (rules.get? name).isNone)

/-- The fault of one declared parameter in a request. -/
def faultOf? (request : Payload) (entry : String × ParameterPolicy) : Option PolicyError :=
  match Members.get? entry.1 request with
  | none => none
  | some value =>
    match entry.2.rejected value with
    | [] => none
    | values => some (.unsupportedValue entry.1 values)

/-- What one declared parameter requires in a request. -/
def requiredBy (request : Payload) (entry : String × ParameterPolicy) : Requirements :=
  match Members.get? entry.1 request with
  | none => .empty
  | some value => entry.2.required value

/-- The requirements of a request, whatever scopes are granted.  The first unknown parameter in
ascending order is reported first, then the first declared parameter with values that are not
supported. -/
def requiredScopes (rules : Ruleset) (request : Payload) : Except PolicyError Requirements :=
  match (rules.unknownParameters request).toList with
  | name :: _ => .error (.unknownParameter name)
  | [] =>
    match rules.entries.findSome? (faultOf? request) with
    | some fault => .error fault
    | none => .ok (rules.entries.foldl (fun acc e => acc.union (requiredBy request e)) .empty)

/-- The requirements of a request, when the granted scopes meet them. -/
def validate (rules : Ruleset) (request : Payload) (granted : NameSet) :
    Except PolicyError Requirements := do
  let needed ← rules.requiredScopes request
  needed.ensureGranted granted
  return needed

end Ruleset

end RegistryGate
