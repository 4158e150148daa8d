/-
  What a caller with tokens gets to the register.

  A caller without the scope for raw identifiers should get nothing through but what tokens stand
  for, under the caller's own correlation id (`RestoredFrom`).  Of texts that holds: one that is no
  token of that id is refused.  But a policy judges a number or a truth value by its text, while
  putting tokens back looks for texts only, so a number is forwarded as it was sent.
  `forwarded_restored_iff` says exactly when a listed parameter is safe.
-/
import RegistryGate.Endpoint.Services
import RegistryGate.Proofs.Proxy.Authorization
import RegistryGate.Proofs.Proxy.Detokenization

namespace RegistryGate.Proxy

open Token (Cipher)

variable {cipher : Cipher} {correlation : String}

/-! ## What a parameter should carry -/

/-- Every scalar that is forwarded is what a token stands for, which was sent in the same place. -/
def RestoredFrom (cipher : Cipher) (correlation : String) (sent : Option Json)
    (forwarded : Json) : Prop :=
  ∀ place scalar text, forwarded.at? place = some scalar → scalar.scalarText? = some text →
    ∃ token identifier, (sent.bind fun value => value.at? place) = some (.string token) ∧
      cipher.decrypt token correlation = .ok identifier ∧ scalar = .string identifier

/-- A value that consists of texts only, itself or its items. -/
def MadeOfTexts (value : Json) : Prop := ∀ element ∈ value.elements, ∃ text, element = .string text

/-! ## From the judgement to the register -/

/-- How the value of a parameter that is listed `n + 1` times gets from the judgement to the
register. -/
structure Passage (cipher : Cipher) (correlation : String) (n : Nat) (judged : Option Json)
    (forwarded : Json) : Prop where
  /-- Tokens were put back at each place. -/
  places : ∀ place, Option.Rel (ReplacedTimes cipher correlation (n + 1))
    (judged.bind fun value => value.at? place) (forwarded.at? place)
  /-- The policy let scalars through only. -/
  scalars : ∀ place element, (judged.bind fun value => value.at? place) = some element →
    ∃ text, element.scalarText? = some text

namespace Passage

variable {n : Nat} {sent judged : Option Json} {forwarded : Json} {place : Place}

/-- What was judged at a place is forwarded there, and is still a scalar. -/
theorem exists_forwarded (h : Passage cipher correlation n judged forwarded) {element : Json}
    (helement : (judged.bind fun value => value.at? place) = some element) :
    ∃ scalar text, forwarded.at? place = some scalar ∧ scalar.scalarText? = some text ∧
      ReplacedTimes cipher correlation (n + 1) element scalar := by
  obtain ⟨text, htext⟩ := h.scalars place element helement
  have hrel := h.places place
  rw [helement] at hrel
  generalize forwarded.at? place = shown at hrel
  cases hrel with
  | some htimes =>
    cases element with
    | string token =>
      obtain ⟨identifier, rfl, -⟩ := htimes.of_string
      exact ⟨_, identifier, rfl, rfl, htimes⟩
    | null | bool | number | array | object =>
      -- no text, so it is forwarded as it was judged
      have hsame := htimes.eq_of_other fun token h => nomatch h
      exact ⟨_, text, rfl, by rw [hsame, htext], htimes⟩

/-- What is forwarded at a place was judged there. -/
theorem exists_judged (h : Passage cipher correlation n judged forwarded) {scalar : Json}
    (hshown : forwarded.at? place = some scalar) :
    ∃ element, (judged.bind fun value => value.at? place) = some element ∧
      ReplacedTimes cipher correlation (n + 1) element scalar := by
  have hrel := h.places place
  rw [hshown] at hrel
  generalize judged.bind (fun value => value.at? place) = before at hrel
  cases hrel with
  | some htimes => exact ⟨_, rfl, htimes⟩

/-- If one forwarded scalar is what a token stands for, then the parameter is listed once. -/
theorem listed_once (h : Passage cipher correlation n judged forwarded)
    {scalar : Json} {token identifier : String} (hshown : forwarded.at? place = some scalar)
    (hjudged : (judged.bind fun value => value.at? place) = some (.string token))
    (hdecrypt : cipher.decrypt token correlation = .ok identifier)
    (hidentifier : scalar = .string identifier) : n = 0 := by
  obtain ⟨element, helement, htimes⟩ := h.exists_judged hshown
  rw [hjudged] at helement
  obtain rfl := Option.some.inj helement
  exact htimes.decrypted_iff.mp ⟨identifier, hdecrypt, hidentifier⟩

/-- Where everything forwarded is what tokens stand for, only texts were sent. -/
theorem madeOfTexts {value : Json} (h : Passage cipher correlation n (some value) forwarded)
    (hrestored : RestoredFrom cipher correlation (some value) forwarded) : MadeOfTexts value := by
  intro element helement
  obtain ⟨place, hplace⟩ := Json.mem_elements_iff_at?.mp helement
  -- the element is forwarded at its place, and what is restored there was a text before
  obtain ⟨scalar, text, hshown, htext, -⟩ := h.exists_forwarded hplace
  obtain ⟨token, -, htoken, -, -⟩ := hrestored place scalar text hshown htext
  exact ⟨token, Option.some.inj (hplace.symm.trans htoken)⟩

/-- Texts that are treated once are forwarded as what they stand for. -/
theorem restoredFrom {value : Json} (h : Passage cipher correlation 0 (some value) forwarded)
    (htexts : MadeOfTexts value) : RestoredFrom cipher correlation (some value) forwarded := by
  intro place scalar text hshown _
  obtain ⟨element, helement, htimes⟩ := h.exists_judged hshown
  obtain ⟨token, rfl⟩ := htexts element (Json.mem_elements_iff_at?.mpr ⟨place, helement⟩)
  obtain ⟨identifier, hdecrypt, hidentifier⟩ := htimes.decrypted_iff.mpr rfl
  exact ⟨token, identifier, helement, hdecrypt, hidentifier⟩

/-- When a value is what it should be: it carries nothing at all, or texts were sent and the
parameter is listed once. -/
theorem restoredFrom_iff (h : Passage cipher correlation n judged forwarded)
    (hsent : ∀ value, sent = some value → judged = some value) :
    RestoredFrom cipher correlation sent forwarded ↔
      forwarded = .array [] ∨ ((∃ value, sent = some value ∧ MadeOfTexts value) ∧ n = 0) := by
  constructor
  · intro hrestored
    by_cases hempty : forwarded = .array []
    · exact Or.inl hempty
    · obtain ⟨place, hplace⟩ : ∃ place, forwarded.at? place ≠ none :=
        Classical.not_forall.mp fun hnone => hempty (Json.eq_nil_iff_at?.mpr hnone)
      obtain ⟨scalar, hshown⟩ := Option.ne_none_iff_exists'.mp hplace
      obtain ⟨element, helement, -⟩ := h.exists_judged hshown
      obtain ⟨_, text, hshown', htext, -⟩ := h.exists_forwarded helement
      rw [hshown] at hshown'
      obtain rfl := Option.some.inj hshown'
      obtain ⟨token, identifier, htoken, hdecrypt, hidentifier⟩ :=
        hrestored place scalar text hshown htext
      obtain ⟨value, rfl, hat⟩ := Option.bind_eq_some_iff.mp htoken
      obtain rfl := hsent value rfl
      exact Or.inr ⟨⟨value, rfl, h.madeOfTexts hrestored⟩,
        h.listed_once hshown hat hdecrypt hidentifier⟩
  · rintro (rfl | ⟨⟨value, rfl, htexts⟩, rfl⟩)
    · intro place scalar text hshown _
      rw [Json.eq_nil_iff_at?.mp rfl place] at hshown
      cases hshown
    · obtain rfl := hsent value rfl
      exact h.restoredFrom htexts

end Passage

/-! ## Identifying fields -/

/-- Where a list starts with so many texts, it has as many texts. -/
theorem le_length_filterMap_asString? {items : List Json} {n : Nat}
    (h : ∀ index, index < n → ∃ text, items[index]? = some (.string text)) :
    n ≤ (items.filterMap Json.asString?).length := by
  -- on the number of items, from the first one on
  induction n generalizing items with
  | zero => exact Nat.zero_le _
  | succ n ih =>
    obtain ⟨text, htext⟩ := h 0 (Nat.zero_lt_succ n)
    cases items with
    | nil => cases htext
    | cons item rest =>
      obtain rfl : item = .string text := Option.some.inj htext
      have hrest : n ≤ (rest.filterMap Json.asString?).length :=
        ih fun index hindex => h (index + 1) (Nat.succ_lt_succ hindex)
      rw [List.filterMap_cons]
      show n + 1 ≤ (text :: rest.filterMap Json.asString?).length
      rw [List.length_cons]
      omega

/-- An inserted field was not sent, so a `fields` parameter with one carries more than tokens stand
for. -/
theorem not_restoredFrom_of_inserted {sent : Option Json} {resolved : Payload}
    {inserted : List String} (hinserted : inserted ≠ [])
    (hplaces : ∀ place token, (sent.bind fun value => value.at? place) = some (.string token) →
      ∃ text, valueAt? resolved fieldsParameter place = some (.string text)) :
    ¬ RestoredFrom cipher correlation sent
      (Json.ofStrings (requestedFields resolved ++ inserted)) := by
  intro h
  -- the list would have to consist of texts that were sent, at every index up to its first
  -- inserted field, which is one past the requested fields
  have htexts : ∀ index, index < (requestedFields resolved).length + 1 →
      ∃ text, valueAt? resolved fieldsParameter (.item index) = some (.string text) := by
    intro index hindex
    have hlength : index < (requestedFields resolved ++ inserted).length := by
      have hpos : 0 < inserted.length := List.length_pos_iff.mpr hinserted
      rw [List.length_append]
      omega
    have hshown : (Json.ofStrings (requestedFields resolved ++ inserted)).at? (.item index)
        = some (.string (requestedFields resolved ++ inserted)[index]) := by
      show ((requestedFields resolved ++ inserted).map Json.string)[index]? = _
      rw [List.getElem?_map, List.getElem?_eq_getElem hlength]
      rfl
    obtain ⟨token, -, htoken, -, -⟩ := h _ _ _ hshown rfl
    exact hplaces _ token htoken
  obtain ⟨text, hfirst⟩ := htexts 0 (Nat.succ_pos _)
  obtain ⟨value, hvalue, hat⟩ := Option.bind_eq_some_iff.mp hfirst
  cases value with
  | array items =>
    have hrequested : requestedFields resolved = items.filterMap Json.asString? := by
      rw [requestedFields, hvalue]
    have hitems : ∀ index, index < (requestedFields resolved).length + 1 →
        ∃ text, items[index]? = some (.string text) := by
      intro index hindex
      obtain ⟨text, htext⟩ := htexts index hindex
      rw [valueAt?, hvalue] at htext
      exact ⟨text, htext⟩
    -- but then the requested fields would outnumber themselves
    have hcount := le_length_filterMap_asString? hitems
    rw [hrequested] at hcount
    omega
  | null | bool | number | string | object => cases hat

/-! ## What is forwarded -/

/-- Without the scope for raw identifiers, tokens are put back with no exception. -/
theorem detokenizeParameters_of_resolveTokens {rule : TokenizationRule} {granted : NameSet}
    {payload resolved : Payload}
    (h : resolveTokens (some rule) cipher granted (some correlation) payload = .ok resolved)
    (hraw : ¬ rule.rawInputScope ∈ granted) :
    detokenizeParameters cipher false correlation rule.parameters payload = (resolved, none) := by
  have hnot : granted.contains rule.rawInputScope = false :=
    Bool.eq_false_iff.mpr fun hheld => hraw (SortedSet.contains_iff.mp hheld)
  unfold resolveTokens at h
  dsimp only at h
  rw [detokenizeRequest, hnot] at h
  split at h
  · rename_i restored hrestored
    cases h
    exact hrestored
  · cases h

variable {endpoint : Endpoint} {request : Request} {prepared : Prepared} {rule : TokenizationRule}

namespace Admission

/-- What was judged has scalars only. -/
theorem scalars (h : Admission endpoint cipher request prepared) {name : String}
    {place : Place} {element : Json}
    (helement : valueAt? (judgedPayload prepared.variant request.principal.scopes request.payload)
      name place = some element) : ∃ text, element.scalarText? = some text := by
  obtain ⟨value, hvalue, hat⟩ := Option.bind_eq_some_iff.mp helement
  obtain ⟨policy, -, hsupported⟩ := h.supported hvalue
  obtain ⟨needed, hneeded, -⟩ :=
    hsupported element (Json.mem_elements_iff_at?.mpr ⟨place, hat⟩)
  obtain ⟨text, htext, -⟩ := ParameterPolicy.requirementsOn?_eq_some hneeded
  exact ⟨text, htext⟩

/-- A caller with tokens, and without the scope for raw identifiers, has all tokens put back under
the caller's correlation id; then the identifying fields are added. -/
theorem exists_restored (h : Admission endpoint cipher request prepared)
    (hrule : endpoint.tokenization = some rule) (hscope : rule.scope ∈ request.principal.scopes)
    (hraw : ¬ rule.rawInputScope ∈ request.principal.scopes) :
    ∃ correlation resolved, request.correlationId = some correlation ∧
      detokenizeParameters cipher false correlation rule.parameters
        (judgedPayload prepared.variant request.principal.scopes request.payload)
          = (resolved, none) ∧
      insertIdentifiers prepared.variant resolved = (prepared.inserted, prepared.payload) := by
  -- the caller has the scope, so the tokens are those of the correlation id that was sent
  have htokenizing := h.tokenizing
  obtain ⟨resolved, hresolved, hinserted⟩ := h.forwarded
  rw [hrule] at htokenizing hresolved
  obtain ⟨correlation, hcorrelation, htoken⟩ := tokenizingCorrelation_of_held htokenizing hscope
  rw [htoken] at hresolved
  exact ⟨correlation, resolved, hcorrelation,
    detokenizeParameters_of_resolveTokens hresolved hraw, hinserted⟩

variable {resolved : Payload}

/-- A listed parameter passes from the judgement to the register. -/
theorem passage (h : Admission endpoint cipher request prepared)
    (hrestored : detokenizeParameters cipher false correlation rule.parameters
      (judgedPayload prepared.variant request.principal.scopes request.payload) = (resolved, none))
    {parameter : String} (hparameter : parameter ∈ rule.parameters) {value : Json}
    (hvalue : Members.get? parameter resolved = some value) :
    ∃ n, rule.parameters.count parameter = n + 1 ∧
      Passage cipher correlation n (Members.get? parameter
        (judgedPayload prepared.variant request.principal.scopes request.payload)) value := by
  obtain ⟨n, hn⟩ : ∃ n, rule.parameters.count parameter = n + 1 :=
    Nat.exists_eq_succ_of_ne_zero (Nat.ne_of_gt (List.count_pos_iff.mpr hparameter))
  refine ⟨n, hn, fun place => ?_, fun place element helement => h.scalars helement⟩
  have hrel := valueAt?_detokenizeParameters hrestored parameter place
  rw [hn, valueAt?, valueAt?, hvalue] at hrel
  exact hrel

/-- A text that was sent is still a text after tokens are put back. -/
theorem text_of_sent
    (hrestored : detokenizeParameters cipher false correlation rule.parameters
      (judgedPayload prepared.variant request.principal.scopes request.payload) = (resolved, none))
    {parameter token : String} {place : Place}
    (htoken : valueAt? request.payload parameter place = some (.string token)) :
    ∃ text, valueAt? resolved parameter place = some (.string text) := by
  obtain ⟨sent, hget, hat⟩ := Option.bind_eq_some_iff.mp htoken
  have hjudged : valueAt? (judgedPayload prepared.variant request.principal.scopes
      request.payload) parameter place = some (.string token) := by
    rw [valueAt?, get?_judgedPayload_of_some hget]
    exact hat
  have hrel := valueAt?_detokenizeParameters hrestored parameter place
  rw [hjudged] at hrel
  generalize valueAt? resolved parameter place = after at hrel
  cases hrel with
  | some htimes =>
    obtain ⟨identifier, rfl, -⟩ := htimes.of_string
    exact ⟨identifier, rfl⟩

end Admission

/-- Unless identifying fields are added to it, a parameter is forwarded as it is after tokens are
put back. -/
theorem get?_insertIdentifiers_of_not_added {variant : Variant} {payload : Payload}
    {parameter : String}
    (h : parameter = fieldsParameter → (insertIdentifiers variant payload).1 = []) :
    Members.get? parameter (insertIdentifiers variant payload).2
      = Members.get? parameter payload := by
  -- only the `fields` parameter can have something added
  by_cases hname : parameter = fieldsParameter
  · have hnone := h hname
    rw [insertIdentifiers_eq] at hnone ⊢
    dsimp only at hnone ⊢
    rw [if_pos hnone]
  · exact get?_insertIdentifiers_of_ne hname variant payload

/-- **When a listed parameter is safe.**  Take a caller who gets tokens and may not send raw
identifiers.  Whenever the register is called, a listed parameter carries nothing but what tokens of
the caller's correlation id stand for exactly when it carries no element at all, or the caller sent
it as a text or a list of texts, it is listed once, and no identifying field was added to it.  A
number or a truth value that was sent is never such a text. -/
theorem forwarded_restored_iff {register : RegisterCall → RegisterResult} {call : RegisterCall}
    (hcall : call ∈ (run endpoint cipher register request).calls)
    (hrule : endpoint.tokenization = some rule)
    (hscope : rule.scope ∈ request.principal.scopes)
    (hraw : ¬ rule.rawInputScope ∈ request.principal.scopes) :
    ∃ correlation prepared, request.correlationId = some correlation ∧
      prepare endpoint cipher request = .ok prepared ∧
      call.payload = .object prepared.payload ∧
      ∀ parameter ∈ rule.parameters, ∀ value,
        Members.get? parameter prepared.payload = some value →
        (RestoredFrom cipher correlation (Members.get? parameter request.payload) value ↔
          value = .array [] ∨
            ((∃ sent, Members.get? parameter request.payload = some sent ∧ MadeOfTexts sent) ∧
              rule.parameters.count parameter = 1 ∧
              (parameter = fieldsParameter → prepared.inserted = []))) := by
  obtain ⟨prepared, hprepared, rfl, hadmitted⟩ := admission_of_mem_calls hcall
  obtain ⟨correlation, resolved, hcorrelation, hrestored, hforwarded⟩ :=
    hadmitted.exists_restored hrule hscope hraw
  refine ⟨correlation, prepared, hcorrelation, hprepared, rfl,
    fun parameter hparameter value hvalue => ?_⟩
  by_cases hadded : parameter = fieldsParameter → prepared.inserted = []
  · -- the parameter is forwarded as it is after tokens are put back
    have hframe : Members.get? parameter (insertIdentifiers prepared.variant resolved).2
        = Members.get? parameter resolved :=
      get?_insertIdentifiers_of_not_added (by rw [hforwarded]; exact hadded)
    rw [hforwarded, hvalue] at hframe
    obtain ⟨n, hn, hpassage⟩ := hadmitted.passage hrestored hparameter hframe.symm
    rw [hpassage.restoredFrom_iff fun sent hsent => get?_judgedPayload_of_some hsent _ _, hn]
    have honce : n + 1 = 1 ↔ n = 0 := by omega
    rw [honce, and_iff_left hadded]
  · -- identifying fields were added, which nobody sent
    obtain ⟨rfl, hne⟩ := Classical.not_imp.mp hadded
    rw [insertIdentifiers_eq, Prod.mk.injEq] at hforwarded
    obtain ⟨hinserted, hpayload⟩ := hforwarded
    rw [if_neg (by rw [hinserted]; exact hne), hinserted] at hpayload
    rw [← hpayload, Members.get?_insert_self] at hvalue
    obtain rfl := Option.some.inj hvalue
    refine iff_of_false (not_restoredFrom_of_inserted hne
      fun place token htoken => Admission.text_of_sent hrestored htoken) ?_
    rintro (hempty | ⟨-, -, hnone⟩)
    · have hnil := Json.array.inj hempty
      rw [List.map_eq_nil_iff, List.append_eq_nil_iff] at hnil
      exact hne hnil.2
    · exact hadded hnone

/-! ## Residence history by citizen service number -/

/-- The endpoint of residence history. -/
def historyEndpoint : Endpoint :=
  Services.verblijfplaatshistorieEndpoint ⟨"https://register.example/historie", ""⟩

/-- A cipher with one key. -/
def historyCipher : Cipher :=
  ⟨Digest.hmacSha256, [⟨List.replicate Token.keyLength 1, List.replicate Token.keyLength 2⟩]⟩

/-- The token of `999993653` under the correlation id `visit-1`. -/
def historyToken : String := "ATD4uqZr3pIXavt1s2J4T549k5tRn7LukFE"

/-- What the caller below holds: no scope for raw identifiers. -/
def historyScopes : NameSet :=
  SortedSet.ofList [Services.scopeBase, Services.scopeEncryptBsn,
    "benk-brp-zoekvraag-verblijfplaatshistorie"]

/-- The members of a request for the history of one person. -/
def historyPayload (bsn : Json) : Payload :=
  [(Services.fieldBsn, bsn), ("type", .string "RaadpleegMetPeildatum")]

/-- The request. -/
def historyRequest (bsn : Json) : Request where
  payload := historyPayload bsn
  principal := ⟨"caller", historyScopes⟩
  correlationId := some "visit-1"
  taskDescription := none
  fullResult := false

/-- The calls of its run. -/
def historyCalls (bsn : Json) : List RegisterCall :=
  (run historyEndpoint historyCipher (fun _ => .ok ⟨200, none, .null⟩) (historyRequest bsn)).calls

/-- A token is forwarded as the number that it stands for. -/
theorem forwarded_restored_of_token :
    ∃ correlation prepared, (historyRequest (.string historyToken)).correlationId
        = some correlation ∧
      prepare historyEndpoint historyCipher (historyRequest (.string historyToken))
        = .ok prepared ∧
      Members.get? Services.fieldBsn prepared.payload = some (.string "999993653") ∧
      RestoredFrom historyCipher correlation (some (.string historyToken))
        (.string "999993653") := by
  have hcall : ⟨"https://register.example/historie",
      .object (historyPayload (.string "999993653"))⟩ ∈ historyCalls (.string historyToken) := by
    decide +kernel
  have hrule : historyEndpoint.tokenization
      = some (Services.bsnTokenization [] [Services.fieldBsn]) := rfl
  obtain ⟨correlation, prepared, hcorrelation, hprepared, hpayload, hrestored⟩ :=
    forwarded_restored_iff hcall hrule (SortedSet.contains_iff.mp (by decide))
      (fun hheld => absurd (SortedSet.contains_iff.mpr hheld) (by decide))
  have hmembers : historyPayload (.string "999993653") = prepared.payload :=
    Json.object.inj hpayload
  have hvalue : Members.get? Services.fieldBsn prepared.payload = some (.string "999993653") := by
    rw [← hmembers]
    rfl
  refine ⟨correlation, prepared, hcorrelation, hprepared, hvalue, ?_⟩
  refine (hrestored Services.fieldBsn (by decide) _ hvalue).mpr (Or.inr ⟨⟨_, rfl, ?_⟩, rfl, ?_⟩)
  · intro element helement
    exact ⟨historyToken, List.mem_singleton.mp helement⟩
  · intro hname
    exact absurd hname (by decide)

/-- The number itself, sent as a number, is forwarded too, and is not what any token stands for. -/
theorem number_forwarded_raw :
    historyEndpoint.tokenization = some (Services.bsnTokenization [] [Services.fieldBsn]) ∧
      Services.scopeEncryptBsn ∈ historyScopes ∧ ¬ Services.scopeRawBsn ∈ historyScopes ∧
      ⟨"https://register.example/historie",
        .object (historyPayload (.number (.integer 999993653)))⟩
          ∈ historyCalls (.number (.integer 999993653)) ∧
      ¬ RestoredFrom historyCipher "visit-1"
        (Members.get? Services.fieldBsn (historyRequest (.number (.integer 999993653))).payload)
        (.number (.integer 999993653)) := by
  refine ⟨rfl, SortedSet.contains_iff.mp (by decide),
    fun hheld => absurd (SortedSet.contains_iff.mpr hheld) (by decide), by decide +kernel, ?_⟩
  intro hrestored
  obtain ⟨_, _, -, -, hstring⟩ := hrestored .whole _ _ rfl rfl
  cases hstring

end RegistryGate.Proxy
