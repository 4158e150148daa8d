/-
  What the four services send was authorized as it is sent.

  A request is judged before its tokens are put back and before identifying fields are added, so the
  register gets a payload that nobody judged.  For the queries of the four services this makes no
  difference: tokens stand for citizen service numbers only, and whatever policy a query has on
  these, it treats all texts alike.  What is sent, less the identifying fields, is accepted by the
  same ruleset for the same caller (`sent_authorized`).
-/
import RegistryGate.Proofs.Proxy.RawIdentifiers
import RegistryGate.Proofs.Proxy.SentAsJudged
import RegistryGate.Proofs.Services.Municipality
import RegistryGate.Proofs.Services.Queries

namespace RegistryGate.Services

open Proxy
open Token (Cipher)

/-! ## The scopes of a query -/

section

variable {endpoint : Endpoint} {cipher : Cipher} {request : Request} {prepared : Prepared}
variable {scope : String}

/-- Who is let through holds the base scope. -/
theorem BuiltIn.holds_base (h : BuiltIn endpoint)
    (hadmitted : Admission endpoint cipher request prepared) :
    scopeBase ∈ request.principal.scopes := by
  have hmet := hadmitted.base
  rw [h.baseScopes] at hmet
  exact SortedSet.contains_iff.mp (Requirements.metBy_singleton.mp hmet)

/-- Who is let through holds the scope of the query. -/
theorem QueryKind.holds_scope (h : QueryKind prepared.variant scope) (hbuilt : BuiltIn endpoint)
    (hadmitted : Admission endpoint cipher request prepared) :
    scope ∈ request.principal.scopes := by
  obtain ⟨value, name, hvalue, htext, -⟩ := select_eq_ok hadmitted.selected
  rw [hbuilt.discriminator] at hvalue
  -- the discriminator was judged like every other parameter
  obtain ⟨policy, hpolicy, helements⟩ := hadmitted.supported (get?_judgedPayload_of_some hvalue ..)
  rw [h.get?_type] at hpolicy
  obtain rfl := Option.some.inj hpolicy
  obtain ⟨needed, hneeded, hmet⟩ := helements value (Json.mem_elements_of_scalarText? htext)
  obtain ⟨text, -, hresolved⟩ := ParameterPolicy.requirementsOn?_eq_some hneeded
  rw [ParameterPolicy.eq_of_requirementsFor?_withValue hresolved] at hmet
  exact SortedSet.contains_iff.mp (Requirements.metBy_singleton.mp hmet)

end

/-! ## What is sent -/

/-- What is sent of a request was authorized as it is sent. -/
structure AuthorizedAsSent (endpoint : Endpoint) (request : Request) (prepared : Prepared) :
    Prop where
  /-- The request selects the variant that it was prepared under. -/
  selected : endpoint.select request.payload = .ok prepared.variant
  /-- Without the identifying fields, it is what the caller asked for. -/
  asked : requestedFields (withoutFields prepared.inserted prepared.payload) = prepared.callerFields
  /-- Without them, the ruleset accepts it, and the caller meets what it requires. -/
  evaluated : ∃ needed, prepared.variant.ruleset.requiredScopes
      (withoutFields prepared.inserted prepared.payload) = .ok needed ∧
    needed.MetBy request.principal.scopes
  /-- The caller holds the base scope. -/
  base : scopeBase ∈ request.principal.scopes
  /-- The caller holds the scope of the query. -/
  query : ∃ scope, QueryKind prepared.variant scope ∧ scope ∈ request.principal.scopes

/-- **What is sent was authorized as it is sent.**  Take any of the four services, over any catalog,
and any run that calls the register.  What the register gets, with the identifying fields that were
added taken out again, still passes the ruleset of the selected variant with all requirements met;
and the caller holds the base scope and the scope of the query. -/
theorem sent_authorized {endpoint : Endpoint} {cipher : Cipher}
    {register : RegisterCall → RegisterResult} {request : Request} {call : RegisterCall}
    (hbuilt : BuiltIn endpoint) (hcall : call ∈ (run endpoint cipher register request).calls) :
    ∃ prepared, prepare endpoint cipher request = .ok prepared ∧
      call.payload = .object prepared.payload ∧ AuthorizedAsSent endpoint request prepared := by
  obtain ⟨prepared, hprepared, rfl, hadmitted⟩ := admission_of_mem_calls hcall
  obtain ⟨scope, hkind⟩ := queryKind_of_select hbuilt hadmitted.selected
  have hblind : ∀ rule, endpoint.tokenization = some rule → ∀ parameter ∈ rule.parameters,
      ∀ policy, prepared.variant.ruleset.get? parameter = some policy → policy.Blind := by
    intro rule hrule parameter hparameter policy hpolicy
    rw [hbuilt.tokenized hrule] at hparameter
    rw [List.mem_singleton.mp hparameter] at hpolicy
    exact hkind.blind_bsn hpolicy
  have htokens : ∀ rule, endpoint.tokenization = some rule → fieldsParameter ∉ rule.parameters := by
    intro rule hrule
    rw [hbuilt.tokenized hrule]
    decide
  -- so tokens and identifying fields leave the verdict as it was
  have haccepts := hadmitted.accepts_sent hkind.distinct hblind htokens
  exact ⟨prepared, hprepared, rfl,
    { selected := hadmitted.selected
      asked := hadmitted.requestedFields_sent htokens
      evaluated := haccepts.exists_requiredScopes
      base := hbuilt.holds_base hadmitted
      query := ⟨scope, hkind, hkind.holds_scope hbuilt hadmitted⟩ }⟩

/-! ## A person who is consulted by token -/

/-- What the caller below holds. -/
def consultScopes : NameSet :=
  SortedSet.ofList [scopeBase, scopeEncryptBsn, scopeSearchBsn, "dataset-numbers"]

/-- A person is consulted by the token of a number. -/
def consultRequest : Request where
  payload := [(fieldBsn, .string historyToken), ("type", .string "RaadpleegMetBurgerservicenummer")]
  principal := ⟨"caller", consultScopes⟩
  correlationId := some "visit-1"
  taskDescription := none
  fullResult := false

/-- What the register is sent: the number, Amsterdam, and a second field. -/
def consultSent : Payload :=
  [(fieldBsn, .string "999993653"), ("fields", .array [.string fieldBsn, .string fieldANummer]),
    (parameterGemeente, .string amsterdam), ("type", .string "RaadpleegMetBurgerservicenummer")]

/-- The register is sent the number instead of its token, and asked for a field that the caller
could not ask for; without that field the caller could have sent all of it. -/
theorem sent_authorized_of_token :
    ∃ endpoint prepared, personenEndpoint numberSettings numberCatalog = .ok endpoint ∧
      prepare endpoint historyCipher consultRequest = .ok prepared ∧
      prepared.payload = consultSent ∧ prepared.callerFields = [fieldBsn] ∧
      AuthorizedAsSent endpoint consultRequest prepared := by
  have hevaluated : (personenEndpoint numberSettings numberCatalog).toOption.map
      (fun endpoint => ((run endpoint historyCipher (fun _ => .ok ⟨200, none, .null⟩)
        consultRequest).calls,
        (prepare endpoint historyCipher consultRequest).toOption.map Prepared.callerFields))
      = some ([⟨numberSettings.registerUrl, .object consultSent⟩], some [fieldBsn]) := by
    decide +kernel
  obtain ⟨endpoint, hendpoint, hpair⟩ := Fallible.exists_of_toOption_map hevaluated
  obtain ⟨hcalls, hfields⟩ := Prod.mk.inj hpair
  have hcall : ⟨numberSettings.registerUrl, .object consultSent⟩ ∈ (run endpoint historyCipher
      (fun _ => .ok ⟨200, none, .null⟩) consultRequest).calls := by
    rw [hcalls]
    exact List.mem_cons_self
  obtain ⟨prepared, hprepared, hpayload, hauthorized⟩ :=
    sent_authorized (.persons hendpoint) hcall
  rw [hprepared] at hfields
  exact ⟨endpoint, prepared, hendpoint, hprepared, (Json.object.inj hpayload).symm,
    Option.some.inj hfields, hauthorized⟩

end RegistryGate.Services
