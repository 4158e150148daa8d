/-
  Which calls to the register leave an audit record.

  A run that calls the register ends in one of three ways.  The register fails, or its answer is
  turned into the caller's: either way there is one record, of what was sent and of what came back.
  Or the answer cannot be turned into the caller's, and then there is no record at all, although the
  register was asked and has answered.

  That last end is reached when a text under a tokenized name cannot be replaced, which is a matter
  of its length (`exists_transform_iff`).  `audited_iff` states the exact condition, and
  `long_number_unaudited` shows an answer on which the record is missing.
-/
import RegistryGate.Endpoint.Services
import RegistryGate.Proofs.Proxy.Authorization
import RegistryGate.Proofs.Proxy.RecordWise
import RegistryGate.Proofs.Token.Canonical

namespace RegistryGate.Proxy

open Token (Cipher TokenError)

variable {endpoint : Endpoint} {cipher : Cipher} {request : Request} {prepared : Prepared}

/-! ## Records of a call -/

/-- The document that came back from the register, with its answer or with an error status. -/
def returnedBody? : RegisterResult → Option Json
  | .ok response => some response.body
  | .error (.status _ body) => some body
  | .error (.timeout _) | .error (.transport _) | .error (.invalidResponse _) => none

/-- A run leaves exactly one record, with what was sent and, where a document came back, that
document as it came. -/
def Run.Audited (r : Run) (call : RegisterCall) (answer : RegisterResult) : Prop :=
  ∃ record, r.audit = [record] ∧ record.registerRequest = some call.payload ∧
    ∀ body, returnedBody? answer = some body → record.registerResponse = some body

/-! ## Answers that can be passed on -/

/-- Every text of an answer that the caller would get a token for is short enough for one, and there
is a key to make it with. -/
def Tokenizable (endpoint : Endpoint) (cipher : Cipher) (request : Request) (prepared : Prepared)
    (body : Json) : Prop :=
  ∀ key rule, endpoint.recordsKey = some key → endpoint.tokenization = some rule →
    rule.scope ∈ request.principal.scopes →
    ∀ text, Document.HasText rule.fields text (shaped endpoint request prepared key body) →
      cipher.keys ≠ [] ∧ text.utf8ByteSize ≤ 256

/-- Identifiers can be replaced when all their texts can. -/
theorem exists_tokenStage_iff {sent tokenizing : Option String} {granted : NameSet} {body : Json}
    (h : tokenizingCorrelation endpoint.tokenization granted sent = .ok tokenizing) :
    (∃ out, tokenStage endpoint cipher tokenizing body = .ok out) ↔
      ∀ rule, endpoint.tokenization = some rule → rule.scope ∈ granted →
        ∀ text, Document.HasText rule.fields text body →
          cipher.keys ≠ [] ∧ text.utf8ByteSize ≤ 256 := by
  unfold tokenStage
  cases hrule : endpoint.tokenization with
  | none => exact iff_of_true ⟨body, rfl⟩ fun _ h => nomatch h
  | some rule =>
    rw [hrule] at h
    by_cases hscope : rule.scope ∈ granted
    · obtain ⟨correlation, -, rfl⟩ := tokenizingCorrelation_of_held h hscope
      dsimp only
      rw [Document.exists_replaceTexts_iff]
      constructor
      · rintro hall _ ⟨rfl⟩ - text htext
        exact Cipher.exists_encrypt_iff.mp (hall text htext)
      · intro hall text htext
        exact Cipher.exists_encrypt_iff.mpr (hall rule rfl hscope text htext)
    · obtain rfl := tokenizingCorrelation_of_not_held h hscope
      refine iff_of_true ⟨body, rfl⟩ ?_
      rintro _ ⟨rfl⟩ hheld
      exact absurd hheld hscope

/-- **An answer can be turned into the caller's exactly when its identifiers are short enough.** -/
theorem exists_transform_iff (h : Admission endpoint cipher request prepared) {body : Json} :
    (∃ out, transform endpoint cipher request prepared body = .ok out) ↔
      Tokenizable endpoint cipher request prepared body := by
  -- without a key for the records only the links are changed, which cannot fail
  cases hkey : endpoint.recordsKey with
  | none =>
    have hlinked : transform endpoint cipher request prepared body
        = .ok (Document.redirectLinks endpoint.registerUrl endpoint.publicUrl body) := by
      unfold transform
      rw [hkey]
    refine iff_of_true ⟨_, hlinked⟩ ?_
    intro key rule hsome
    rw [hkey] at hsome
    cases hsome
  | some key =>
    rw [transform_eq hkey, exists_tokenStage_iff h.tokenizing]
    constructor
    · intro hall key' rule hsome
      obtain rfl := Option.some.inj (hkey.symm.trans hsome)
      exact hall rule
    · intro hall rule
      exact hall key rule hkey

/-! ## The audit trail of a call -/

section

variable {register : RegisterCall → RegisterResult}

/-- What a run leaves that calls the register, for each way in which it can end. -/
theorem audit_of_prepare (h : prepare endpoint cipher request = .ok prepared)
    (register : RegisterCall → RegisterResult) :
    (run endpoint cipher register request).audit
      = match register ⟨endpoint.registerUrl, .object prepared.payload⟩ with
        | .error error => [failureRecord endpoint request prepared error]
        | .ok response =>
          match transform endpoint cipher request prepared response.body with
          | .error _ => []
          | .ok _ => [answerRecord endpoint request prepared response] := by
  unfold run
  rw [h]
  dsimp only
  cases register ⟨endpoint.registerUrl, .object prepared.payload⟩ with
  | error error => rfl
  | ok response =>
    dsimp only
    cases transform endpoint cipher request prepared response.body <;> rfl

/-- A failure of the register is audited, with the document that came with its status. -/
theorem audited_of_error {error : RegisterError}
    (h : prepare endpoint cipher request = .ok prepared)
    (hregister : register ⟨endpoint.registerUrl, .object prepared.payload⟩ = .error error) :
    (run endpoint cipher register request).Audited
      ⟨endpoint.registerUrl, .object prepared.payload⟩ (.error error) := by
  have haudit := audit_of_prepare h register
  rw [hregister] at haudit
  refine ⟨_, haudit, ?_, ?_⟩
  · cases error <;> rfl
  · intro body hbody
    cases error with
    | status code found => exact hbody
    | timeout | transport | invalidResponse => cases hbody

/-- An answer that is turned into the caller's is audited. -/
theorem audited_of_transform {response : RegisterResponse} {body : Json}
    (h : prepare endpoint cipher request = .ok prepared)
    (hregister : register ⟨endpoint.registerUrl, .object prepared.payload⟩ = .ok response)
    (htransform : transform endpoint cipher request prepared response.body = .ok body) :
    (run endpoint cipher register request).Audited
      ⟨endpoint.registerUrl, .object prepared.payload⟩ (.ok response) := by
  have haudit := audit_of_prepare h register
  rw [hregister] at haudit
  dsimp only at haudit
  rw [htransform] at haudit
  exact ⟨_, haudit, rfl, fun _ hbody => hbody⟩

/-- An answer that cannot be turned into the caller's leaves no record. -/
theorem audit_eq_nil_of_transform {response : RegisterResponse} {fault : TokenError}
    (h : prepare endpoint cipher request = .ok prepared)
    (hregister : register ⟨endpoint.registerUrl, .object prepared.payload⟩ = .ok response)
    (htransform : transform endpoint cipher request prepared response.body = .error fault) :
    (run endpoint cipher register request).audit = [] := by
  have haudit := audit_of_prepare h register
  rw [hregister] at haudit
  dsimp only at haudit
  rw [htransform] at haudit
  exact haudit

/-- Without a record a run is not audited. -/
theorem Run.not_audited_of_nil {r : Run} {call : RegisterCall} {answer : RegisterResult}
    (h : r.audit = []) : ¬ r.Audited call answer := by
  rintro ⟨record, hrecord, -⟩
  rw [h] at hrecord
  cases hrecord

/-- **A call to the register is audited exactly when its answer can be passed on.**  Then there is
one record, with what was sent and what came back; otherwise there is none. -/
theorem audited_iff {call : RegisterCall}
    (hcall : call ∈ (run endpoint cipher register request).calls) :
    ∃ prepared, prepare endpoint cipher request = .ok prepared ∧
      call.payload = .object prepared.payload ∧
      ((run endpoint cipher register request).Audited call (register call) ↔
        ∀ response, register call = .ok response →
          Tokenizable endpoint cipher request prepared response.body) ∧
      (¬ (run endpoint cipher register request).Audited call (register call) →
        (run endpoint cipher register request).audit = []) := by
  obtain ⟨prepared, hprepared, rfl, hadmitted⟩ := admission_of_mem_calls hcall
  refine ⟨prepared, hprepared, rfl, ?_⟩
  cases hregister : register ⟨endpoint.registerUrl, .object prepared.payload⟩ with
  | error error =>
    have haudited := audited_of_error hprepared hregister
    exact ⟨iff_of_true haudited fun _ h => (nomatch h), fun h => absurd haudited h⟩
  | ok response =>
    have hcondition : (∀ found, Except.ok response = (.ok found : RegisterResult) →
          Tokenizable endpoint cipher request prepared found.body)
        ↔ ∃ out, transform endpoint cipher request prepared response.body = .ok out := by
      rw [exists_transform_iff hadmitted]
      exact ⟨fun h => h response rfl, fun h found hfound => Except.ok.inj hfound ▸ h⟩
    rw [hcondition]
    cases htransform : transform endpoint cipher request prepared response.body with
    | error fault =>
      -- the register was asked and has answered, and nothing says so
      have hnone := audit_eq_nil_of_transform hprepared hregister htransform
      exact ⟨iff_of_false (Run.not_audited_of_nil hnone) fun ⟨_, h⟩ => (nomatch h), fun _ => hnone⟩
    | ok body =>
      have haudited := audited_of_transform hprepared hregister htransform
      exact ⟨iff_of_true haudited ⟨body, rfl⟩, fun h => absurd haudited h⟩

end

/-! ## Travel documents of a person with a number that is too long -/

/-- A catalog with one dataset, which grants the numbers of documents and of their holders. -/
def documentCatalog : EndpointCatalog where
  datasets := ⟨Table.ofList [("dataset-documents", ⟨SortedSet.ofList
    ["houder.burgerservicenummer", "reisdocumentnummer"], by decide⟩)]⟩
  shape := some ⟨Shape.ofMembers
    [("houder", .object [("burgerservicenummer", .string "999993653")]),
      ("reisdocumentnummer", .string "NE3663258")]⟩
  recordTypes := .empty

/-- The endpoint of travel documents over it. -/
def documentEndpoint? : Except CatalogFault Endpoint :=
  Services.reisdocumentenEndpoint ⟨"https://register.example/reisdocumenten", ""⟩ documentCatalog

/-- A caller who gets tokens asks for the holder of a document. -/
def documentRequest : Request where
  payload := [("fields", .array [.string "houder.burgerservicenummer"]),
    ("reisdocumentnummer", .string "NE3663258"),
    ("type", .string "RaadpleegMetReisdocumentnummer")]
  principal := ⟨"caller", SortedSet.ofList [Services.scopeBase, Services.scopeEncryptBsn,
    "benk-brp-zoekvraag-reisdocumentnummer", "dataset-documents"]⟩
  correlationId := some "visit-1"
  taskDescription := none
  fullResult := false

/-- The call to the register, which is sent what the caller sent. -/
def documentCall : RegisterCall :=
  ⟨"https://register.example/reisdocumenten", .object documentRequest.payload⟩

/-- What the register answers, for a number of the holder. -/
def documentAnswer (number : String) : Json :=
  .object [("reisdocumenten", .array
    [.object [("houder", .object [(Services.fieldBsn, .string number)])]])]

/-- A register that answers with a number of the holder. -/
def documentRegister (number : String) : RegisterCall → RegisterResult :=
  fun _ => .ok ⟨200, none, documentAnswer number⟩

/-- A run at an endpoint, with that answer. -/
def documentRun (endpoint : Endpoint) (number : String) : Run :=
  run endpoint oneKeyCipher (documentRegister number) documentRequest

/-- What a run shows of its calls and its records. -/
def Run.trail (r : Run) : List RegisterCall × List (Option Json × Option Json) :=
  (r.calls, r.audit.map fun record => (record.registerRequest, record.registerResponse))

/-- An ordinary number is audited, and it can be replaced by a token. -/
theorem audited_of_document :
    ∃ endpoint prepared, documentEndpoint? = .ok endpoint ∧
      prepare endpoint oneKeyCipher documentRequest = .ok prepared ∧
      (documentRun endpoint "999993653").Audited documentCall
        (documentRegister "999993653" documentCall) ∧
      Tokenizable endpoint oneKeyCipher documentRequest prepared
        (documentAnswer "999993653") := by
  have hevaluated : documentEndpoint?.toOption.map (fun e => (documentRun e "999993653").trail)
      = some ([documentCall],
          [(some documentCall.payload, some (documentAnswer "999993653"))]) := by
    decide +kernel
  obtain ⟨endpoint, hendpoint, htrail⟩ := Fallible.exists_of_toOption_map hevaluated
  obtain ⟨hcalls, hrecords⟩ := Prod.mk.inj htrail
  have hcall : documentCall ∈ (documentRun endpoint "999993653").calls := by
    rw [hcalls]
    exact List.mem_cons_self
  obtain ⟨prepared, hprepared, -, haudited, -⟩ := audited_iff hcall
  obtain ⟨record, hrecord, hsame⟩ := List.map_eq_singleton_iff.mp hrecords
  obtain ⟨hrequest, hresponse⟩ := Prod.mk.inj hsame
  have hdone : (documentRun endpoint "999993653").Audited documentCall
      (documentRegister "999993653" documentCall) :=
    ⟨record, hrecord, hrequest, fun body hbody => hresponse.trans hbody⟩
  exact ⟨endpoint, prepared, hendpoint, hprepared, hdone, haudited.mp hdone _ rfl⟩

/-- A number of more bytes than a token can hide. -/
def longNumber : String := String.ofList (List.replicate 257 '9')

/-- **The register was asked for a person, it has answered, and there is no record of it.** -/
theorem long_number_unaudited :
    ∃ endpoint, documentEndpoint? = .ok endpoint ∧
      documentCall ∈ (documentRun endpoint longNumber).calls ∧
      (documentRun endpoint longNumber).audit = [] ∧
      ¬ (documentRun endpoint longNumber).Audited documentCall
        (documentRegister longNumber documentCall) := by
  have hevaluated : documentEndpoint?.toOption.map (fun e => (documentRun e longNumber).trail)
      = some ([documentCall], []) := by
    decide +kernel
  obtain ⟨endpoint, hendpoint, htrail⟩ := Fallible.exists_of_toOption_map hevaluated
  obtain ⟨hcalls, hrecords⟩ := Prod.mk.inj htrail
  have hnone : (documentRun endpoint longNumber).audit = [] := List.map_eq_nil_iff.mp hrecords
  refine ⟨endpoint, hendpoint, ?_, hnone, Run.not_audited_of_nil hnone⟩
  rw [hcalls]
  exact List.mem_cons_self

end RegistryGate.Proxy
