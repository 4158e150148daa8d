/-
  Which identifiers a caller sees as tokens.

  A caller who gets tokens is sent a document in which the texts under certain names are replaced.
  Place by place, what the caller sees is the token of a text that the register sent, or it is what
  the register sent, as it came (`exists_sent_of_transform`).  It is a token at the places of a text
  that stands alone under such a name, where the endpoint names its records (`ReplacedAt`), and
  nowhere else: a number, an item of a list, and whatever an endpoint answers that names no records,
  are passed on raw.  Since a token is longer than what it hides, nothing that is passed on raw can
  be taken for a token of itself (`masked_iff`).

  The records that the caller does not get to see are left out on both sides of the comparison, so
  that places are the same in both.
-/
import RegistryGate.Proofs.Document.Redirection
import RegistryGate.Proofs.Document.Provenance
import RegistryGate.Proofs.Proxy.AuditTrail

namespace RegistryGate.Proxy

open Token (Cipher TokenError)

variable {endpoint : Endpoint} {cipher : Cipher} {request : Request} {prepared : Prepared}
variable {granted : NameSet} {key correlation : String} {body : Json} {place : Position}

/-! ## What the register sent -/

/-- The register's document without the records that the caller does not get to see.  A record is
judged as it is with its links redirected. -/
def keptDocument (endpoint : Endpoint) (granted : NameSet) (body : Json) : Json :=
  match endpoint.recordsKey, endpoint.confidentiality with
  | some key, some rule =>
    if granted.contains rule.overrideScope then body
    else
      Document.modifyRecords key (List.filter fun record =>
        !Document.isConfidential rule.markerField
          (Document.redirectMember endpoint.registerUrl endpoint.publicUrl key record)) body
  | _, _ => body

/-- The same document with its links redirected. -/
def linkedDocument (endpoint : Endpoint) (granted : NameSet) (body : Json) : Json :=
  Document.redirectLinks endpoint.registerUrl endpoint.publicUrl
    (keptDocument endpoint granted body)

/-- Records are hidden before their links are redirected, or after. -/
theorem linkedDocument_of_key (hkey : endpoint.recordsKey = some key) (granted : NameSet)
    (body : Json) :
    linkedDocument endpoint granted body = hideStage endpoint granted key
      (Document.redirectLinks endpoint.registerUrl endpoint.publicUrl body) := by
  unfold linkedDocument keptDocument hideStage
  rw [hkey]
  -- both filters drop a record for its marker, and redirecting a link changes no marker
  cases endpoint.confidentiality with
  | none => rfl
  | some rule =>
    dsimp only
    split
    · rfl
    · exact Document.redirectLinks_filter key
        (fun record => !Document.isConfidential rule.markerField record) body

theorem linkedDocument_of_no_key (hkey : endpoint.recordsKey = none) (granted : NameSet)
    (body : Json) :
    linkedDocument endpoint granted body
      = Document.redirectLinks endpoint.registerUrl endpoint.publicUrl body := by
  rw [linkedDocument, keptDocument, hkey]

/-! ## What becomes of it -/

/-- Records are completed before others are hidden, or after. -/
theorem hideStage_completeStage (granted : NameSet) (key : String) (document : Json) :
    hideStage endpoint granted key (completeStage endpoint request prepared key document)
      = completeStage endpoint request prepared key (hideStage endpoint granted key document) := by
  unfold hideStage completeStage
  cases endpoint.confidentiality with
  | none => rfl
  | some rule =>
    dsimp only
    cases granted.contains rule.overrideScope with
    | true => rfl
    | false =>
      cases endpoint.shape with
      | none => rfl
      | some shape =>
        dsimp only
        cases request.fullResult && prepared.variant.fields.isSome with
        | false => rfl
        | true =>
          refine Document.filter_mapRecords (fun record => ?_) key document
          rw [Document.isConfidential_completeRecord]

/-- Until identifiers are replaced, an answer has no text and no number that the register did not
send. -/
theorem noNewTexts_shaped (hkey : endpoint.recordsKey = some key) :
    Document.NoNewTexts (linkedDocument endpoint request.principal.scopes body)
      (shaped endpoint request prepared key body) := by
  -- in this order each stage takes its texts from the one before
  rw [shaped, hideStage_completeStage, ← linkedDocument_of_key hkey]
  refine Document.NoNewTexts.trans ?_ (Document.NoNewTexts.stripFields key prepared.inserted _)
  unfold completeStage
  split
  · split
    · exact Document.NoNewTexts.completeRecords _ _ _ _
    · exact Document.NoNewTexts.refl _
  · exact Document.NoNewTexts.refl _

/-- **What the caller sees at a place** is the token of a text that the register sent there, or it
is what the register sent there, as it came.  The stages before the replacement bring in no
identifier of their own. -/
theorem exists_sent_of_transform {rule : TokenizationRule} {result value : Json} {text : String}
    (h : Admission endpoint cipher request prepared) (hrule : endpoint.tokenization = some rule)
    (hscope : rule.scope ∈ request.principal.scopes)
    (hcorrelation : request.correlationId = some correlation)
    (htransform : transform endpoint cipher request prepared body = .ok result)
    (hvalue : result.nested? place = some value)
    (htext : Document.identifierText? value = some text) :
    ∃ sent, (linkedDocument endpoint request.principal.scopes body).nested? place = some sent ∧
      ((endpoint.recordsKey ≠ none ∧ Document.Replaces rule.fields place sent) ∧
          (∃ plain token, sent = .string plain ∧ value = .string token ∧
            cipher.encrypt plain correlation = .ok token) ∨
        ¬ (endpoint.recordsKey ≠ none ∧ Document.Replaces rule.fields place sent) ∧
          value = sent) := by
  cases hkey : endpoint.recordsKey with
  | none =>
    unfold transform at htransform
    rw [hkey] at htransform
    cases htransform
    refine ⟨value, ?_, Or.inr ⟨fun hreplaced => hreplaced.1 rfl, rfl⟩⟩
    rw [linkedDocument_of_no_key hkey]
    exact hvalue
  | some key =>
    -- the tokens are made with the caller's correlation id
    obtain ⟨id, hid, htokenizing⟩ := tokenizingCorrelation_of_held (hrule ▸ h.tokenizing) hscope
    obtain rfl := Option.some.inj (hcorrelation.symm.trans hid)
    rw [transform_eq hkey] at htransform
    unfold tokenStage at htransform
    rw [hrule, htokenizing] at htransform
    obtain ⟨sent, hsent, hcases⟩ := Document.exists_sent_of_replaceTexts htransform hvalue htext
    have hshaped := @noNewTexts_shaped endpoint request prepared key body hkey
    -- what is found after the replacement was found before it, and before that it was sent
    rcases hcases with ⟨hreplaces, plain, token, rfl, hshown⟩ | ⟨hreplaces, rfl⟩
    · exact ⟨.string plain, hshaped place _ plain hsent rfl,
        Or.inl ⟨⟨Option.some_ne_none key, hreplaces⟩, plain, token, rfl, hshown⟩⟩
    · exact ⟨value, hshaped place _ text hsent htext,
        Or.inr ⟨fun hreplaced => hreplaces hreplaced.2, rfl⟩⟩

/-! ## Tokens and raw values -/

/-- At a place of an answer stands a token, of which the caller's correlation id makes the text of
what was sent there. -/
def MaskedAt (cipher : Cipher) (correlation : String) (sent shown : Json) (place : Position) :
    Prop :=
  ∃ token text, shown.nested? place = some (.string token) ∧
    cipher.decrypt token correlation = .ok text ∧
    (sent.nested? place).bind Document.identifierText? = some text

/-- At a place stands a text, alone under a tokenized name, and the endpoint names its records. -/
def ReplacedAt (endpoint : Endpoint) (rule : TokenizationRule) (sent : Json) (place : Position) :
    Prop :=
  endpoint.recordsKey ≠ none ∧
    ∃ value, sent.nested? place = some value ∧ Document.Replaces rule.fields place value

/-- What was replaced is a token of what was sent, and what was passed on raw is none: it would have
to be a token of itself. -/
theorem maskedAt_iff_of_sent {rule : TokenizationRule} {before shown sent value : Json}
    (hsent : before.nested? place = some sent) (hvalue : shown.nested? place = some value)
    (h : (endpoint.recordsKey ≠ none ∧ Document.Replaces rule.fields place sent) ∧
        (∃ plain token, sent = .string plain ∧ value = .string token ∧
          cipher.encrypt plain correlation = .ok token) ∨
      ¬ (endpoint.recordsKey ≠ none ∧ Document.Replaces rule.fields place sent) ∧ value = sent) :
    MaskedAt cipher correlation before shown place ↔ ReplacedAt endpoint rule before place := by
  unfold MaskedAt ReplacedAt
  rw [hsent, hvalue, Option.bind_some]
  rcases h with ⟨hreplaced, plain, token, rfl, rfl, htoken⟩ | ⟨hraw, rfl⟩
  · exact iff_of_true ⟨token, plain, rfl, Cipher.decrypt_of_encrypt htoken, rfl⟩
      ⟨hreplaced.1, _, rfl, hreplaced.2⟩
  · -- a token is longer than what it stands for, so nothing is a token of itself
    refine iff_of_false ?_ ?_
    · rintro ⟨token, found, hshown, hdecrypt, hsame⟩
      obtain rfl := Option.some.inj hshown
      obtain rfl : token = found := Option.some.inj hsame
      exact absurd (Cipher.decrypt_shortens hdecrypt) (Nat.lt_irrefl _)
    · rintro ⟨hkey, found, hfound, hreplaces⟩
      obtain rfl := Option.some.inj hfound
      exact hraw ⟨hkey, hreplaces⟩

/-- **When an identifier is shown as a token.**  Take a caller who gets tokens, and a text or a
number at any place of the answer.  It is a token of what the register sent at that place exactly
when that is a text, alone under a tokenized name, and the endpoint names its records.  A number, an
item of a list, and everything that an endpoint without records answers are shown raw.  At the target
of a link the same holds of the redirected link. -/
theorem masked_iff {register : RegisterCall → RegisterResult} {call : RegisterCall}
    {answer : RegisterResponse} {response : Response} {rule : TokenizationRule} {value : Json}
    {text : String} (hrule : endpoint.tokenization = some rule)
    (hscope : rule.scope ∈ request.principal.scopes)
    (hcorrelation : request.correlationId = some correlation)
    (hcall : call ∈ (run endpoint cipher register request).calls)
    (hanswer : register call = .ok answer)
    (hresponse : (run endpoint cipher register request).result = .ok response)
    (hvalue : response.body.nested? place = some value)
    (htext : Document.identifierText? value = some text) :
    (¬ place.IsLinkTarget →
      (MaskedAt cipher correlation (keptDocument endpoint request.principal.scopes answer.body)
          response.body place ↔
        ReplacedAt endpoint rule (keptDocument endpoint request.principal.scopes answer.body)
          place)) ∧
    (MaskedAt cipher correlation (linkedDocument endpoint request.principal.scopes answer.body)
        response.body place ↔
      ReplacedAt endpoint rule (linkedDocument endpoint request.principal.scopes answer.body)
        place) := by
  obtain ⟨prepared, -, hadmitted, htransform⟩ := exists_transform_of_answered hcall hanswer hresponse
  obtain ⟨sent, hsent, hcases⟩ :=
    exists_sent_of_transform hadmitted hrule hscope hcorrelation htransform hvalue htext
  refine ⟨fun hplace => ?_, maskedAt_iff_of_sent hsent hvalue hcases⟩
  -- beside the targets of links nothing is redirected
  have hkept : (keptDocument endpoint request.principal.scopes answer.body).nested? place
      = some sent := by
    rcases hcases with ⟨-, plain, token, rfl, -⟩ | ⟨-, rfl⟩
    · exact Document.nested?_of_redirectLinks hsent rfl hplace
    · exact Document.nested?_of_redirectLinks hsent htext hplace
  exact maskedAt_iff_of_sent hkept hvalue hcases

/-! ## The number of the holder of a document -/

/-- What the register answers about the holder of a document, for a number in any form. -/
def holderAnswer (number : Json) : Json :=
  .object [("reisdocumenten", .array
    [.object [("houder", .object [(Services.fieldBsn, number)])]])]

/-- A run at the endpoint of travel documents, with that answer. -/
def holderRun (endpoint : Endpoint) (number : Json) : Run :=
  run endpoint oneKeyCipher (fun _ => .ok ⟨200, none, holderAnswer number⟩) documentRequest

/-- Where the number is. -/
def holderPlace : Position :=
  [.member "reisdocumenten", .item 0, .member "houder", .member Services.fieldBsn]

/-- The rule of that endpoint. -/
def holderRule : TokenizationRule :=
  Services.bsnTokenization [Services.fieldBsn] [Services.fieldBsn]

/-- The token of the number 999993653 in the caller's visit. -/
def holderToken : String := "ATD4uqZr3pIXavt1s2J4T549k5tRn7LukFE"

/-- What is seen of an endpoint and of a run there: how records are found and identifiers replaced,
the call, the answer, and what the register sent of it. -/
def holderOutcome (number : Json) (endpoint : Endpoint) :
    (Option String × Option TokenizationRule) × List RegisterCall × Option Response × Json :=
  ((endpoint.recordsKey, endpoint.tokenization), (holderRun endpoint number).calls,
    (holderRun endpoint number).result.toOption,
    keptDocument endpoint documentRequest.principal.scopes (holderAnswer number))

theorem not_isLinkTarget_holderPlace : ¬ holderPlace.IsLinkTarget := by
  rintro ⟨front, hfront, -⟩
  have hlast : some (Step.member Services.fieldBsn) = some (.member Document.hrefKey) :=
    (congrArg List.getLast? hfront).trans List.getLast?_concat
  exact absurd hlast (by decide)

/-- The caller gets tokens there. -/
theorem holderRule_scope_mem : holderRule.scope ∈ documentRequest.principal.scopes :=
  SortedSet.contains_iff.mp (by decide +kernel)

/-- A number that the register sends as a text is shown as its token. -/
theorem masked_iff_of_holder :
    ∃ endpoint, documentEndpoint? = .ok endpoint ∧
      endpoint.tokenization = some holderRule ∧
      (holderRun endpoint (.string "999993653")).result
        = .ok ⟨200, none, holderAnswer (.string holderToken)⟩ ∧
      MaskedAt oneKeyCipher "visit-1" (holderAnswer (.string "999993653"))
        (holderAnswer (.string holderToken)) holderPlace := by
  have hevaluated : documentEndpoint?.toOption.map (holderOutcome (.string "999993653"))
      = some ((some "reisdocumenten", some holderRule), [documentCall],
          some ⟨200, none, holderAnswer (.string holderToken)⟩,
          holderAnswer (.string "999993653")) := by decide +kernel
  obtain ⟨endpoint, hendpoint, houtcome⟩ := Fallible.exists_of_toOption_map hevaluated
  simp only [holderOutcome, Prod.mk.injEq] at houtcome
  obtain ⟨⟨hkey, hrule⟩, hcalls, hresult, hkept⟩ := houtcome
  have hcall : documentCall ∈ (holderRun endpoint (.string "999993653")).calls := by
    rw [hcalls]
    exact List.mem_cons_self
  have hresponse := Fallible.eq_ok_of_toOption hresult
  have hshown : (holderAnswer (.string holderToken)).nested? holderPlace
      = some (.string holderToken) := rfl
  obtain ⟨hmasked, -⟩ :=
    masked_iff hrule holderRule_scope_mem rfl hcall rfl hresponse hshown rfl
  refine ⟨endpoint, hendpoint, hrule, hresponse, ?_⟩
  have hiff := hmasked not_isLinkTarget_holderPlace
  change MaskedAt _ _ (keptDocument endpoint _ (holderAnswer (.string "999993653"))) _ _ ↔
    ReplacedAt _ _ (keptDocument endpoint _ (holderAnswer (.string "999993653"))) _ at hiff
  rw [hkept] at hiff
  exact hiff.mpr ⟨by rw [hkey]; exact Option.some_ne_none _, .string "999993653", rfl,
    Services.fieldBsn, "999993653", rfl, List.mem_cons_self, rfl⟩

/-- **The same number, sent as a number, is shown as it is**, to a caller who gets tokens. -/
theorem number_shown_raw :
    ∃ endpoint, documentEndpoint? = .ok endpoint ∧
      endpoint.tokenization = some holderRule ∧ Services.fieldBsn ∈ holderRule.fields ∧
      holderRule.scope ∈ documentRequest.principal.scopes ∧
      documentRequest.correlationId = some "visit-1" ∧
      documentCall ∈ (holderRun endpoint (.number (.integer 999993653))).calls ∧
      (holderRun endpoint (.number (.integer 999993653))).result
        = .ok ⟨200, none, holderAnswer (.number (.integer 999993653))⟩ ∧
      (holderAnswer (.number (.integer 999993653))).nested? holderPlace
        = some (.number (.integer 999993653)) ∧
      ¬ MaskedAt oneKeyCipher "visit-1" (holderAnswer (.number (.integer 999993653)))
        (holderAnswer (.number (.integer 999993653))) holderPlace := by
  have hevaluated : documentEndpoint?.toOption.map (holderOutcome (.number (.integer 999993653)))
      = some ((some "reisdocumenten", some holderRule), [documentCall],
          some ⟨200, none, holderAnswer (.number (.integer 999993653))⟩,
          holderAnswer (.number (.integer 999993653))) := by decide +kernel
  obtain ⟨endpoint, hendpoint, houtcome⟩ := Fallible.exists_of_toOption_map hevaluated
  simp only [holderOutcome, Prod.mk.injEq] at houtcome
  obtain ⟨⟨-, hrule⟩, hcalls, hresult, -⟩ := houtcome
  refine ⟨endpoint, hendpoint, hrule, List.mem_cons_self, holderRule_scope_mem, rfl, ?_,
    Fallible.eq_ok_of_toOption hresult, rfl, ?_⟩
  · rw [hcalls]
    exact List.mem_cons_self
  · rintro ⟨token, text, hshown, -⟩
    cases hshown

end RegistryGate.Proxy
