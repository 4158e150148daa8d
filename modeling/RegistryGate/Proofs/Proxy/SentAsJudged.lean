/-
  What is sent would be let through again.

  Two changes come after the judgement, and no check follows them: tokens are put back, and
  identifying fields are added.  Acceptance by the ruleset is an invariant of the first
  (`Accepts.resolveTokens`), as long as the policies on the parameters with tokens treat all texts
  alike, since then it does not matter what a token stands for.  The second one breaks it, for the
  caller need not hold the identifying fields; but taking them out again leaves nothing that was not
  judged (`accepts_withoutInserted`).

  Together: what is sent, less the identifying fields, is accepted like the payload that was judged
  (`Admission.accepts_sent`).
-/
import RegistryGate.Proofs.Policy.Acceptance
import RegistryGate.Proofs.Proxy.Detokenization
import RegistryGate.Proofs.Proxy.FieldAuthorization

namespace RegistryGate

open Token (Cipher)

/-! ## Tokens put back -/

namespace Proxy

/-- Items with their tokens put back have texts in the place of texts, and else are the same. -/
theorem rewords_detokenizeItems (replace : String → Except TokenDenial String)
    (items : List Json) :
    Json.Rewords (.array (detokenizeItems replace items).1) (.array items) := by
  -- on the items; an item stays, or a text takes the place of a text
  fun_induction detokenizeItems replace items with
  | case1 | case2 => exact .refl _
  | case3 text rest identifier hidentifier restItems restDenial hrest ih =>
    rw [hrest] at ih
    exact ih.cons (Or.inr ⟨⟨identifier, rfl⟩, text, rfl⟩)
  | case4 first rest hother restItems restDenial hrest ih =>
    rw [hrest] at ih
    exact ih.cons (Or.inl rfl)

/-- The same for a whole value. -/
theorem rewords_detokenizeValue (replace : String → Except TokenDenial String) (value : Json) :
    (detokenizeValue replace value).1.Rewords value := by
  cases value with
  | string text =>
    unfold detokenizeValue
    dsimp only
    split
    · exact .refl _
    · rename_i identifier hidentifier
      intro element helement
      exact Or.inr ⟨⟨identifier, List.mem_singleton.mp helement⟩, text, List.mem_singleton_self _⟩
  | array items => exact rewords_detokenizeItems replace items
  | null | bool | number | object => exact .refl _

end Proxy

namespace Ruleset

open Proxy

variable {rules : Ruleset} {granted : NameSet}

/-- Tokens are put back without harm where the policies treat all texts alike. -/
theorem Accepts.detokenizeParameters {parameters : List String} {payload : Payload}
    (h : rules.Accepts granted payload) (hdistinct : rules.Distinct)
    (hblind : ∀ parameter ∈ parameters, ∀ policy, rules.get? parameter = some policy → policy.Blind)
    (cipher : Cipher) (allowRaw : Bool) (correlation : String) :
    rules.Accepts granted
      (Proxy.detokenizeParameters cipher allowRaw correlation parameters payload).1 := by
  -- acceptance is kept parameter by parameter
  induction parameters generalizing payload with
  | nil => exact h
  | cons parameter rest ih =>
    obtain ⟨hfirst, hrest⟩ := List.forall_mem_cons.mp hblind
    unfold Proxy.detokenizeParameters
    split
    · -- the parameter is not there
      exact ih h hrest
    · -- its value is admitted as it was, and it is put in whether or not a text is denied
      rename_i value hvalue
      have hadmits := (h parameter value hvalue).reword hdistinct hfirst
        (rewords_detokenizeValue (detokenize cipher allowRaw correlation parameter) value)
      split
      · rename_i restored hrestored
        rw [hrestored] at hadmits
        exact ih (h.insert hadmits) hrest
      · rename_i restored denial hrestored
        rw [hrestored] at hadmits
        exact h.insert hadmits

/-- The same for a whole request, whatever its endpoint's rule is. -/
theorem Accepts.resolveTokens {rule : Option TokenizationRule} {cipher : Cipher}
    {tokenizing : Option String} {payload resolved : Payload}
    (h : rules.Accepts granted payload) (hdistinct : rules.Distinct)
    (hblind : ∀ r, rule = some r → ∀ parameter ∈ r.parameters, ∀ policy,
      rules.get? parameter = some policy → policy.Blind)
    (hresolved : Proxy.resolveTokens rule cipher granted tokenizing payload = .ok resolved) :
    rules.Accepts granted resolved := by
  unfold Proxy.resolveTokens at hresolved
  split at hresolved
  · rename_i r correlation
    have hkept := h.detokenizeParameters hdistinct (hblind r rfl) cipher
      (granted.contains r.rawInputScope) correlation
    split at hresolved
    · rename_i restored hrestored
      cases hresolved
      rw [detokenizeRequest] at hrestored
      rw [hrestored] at hkept
      exact hkept
    · cases hresolved
  · cases hresolved
    exact h

end Ruleset

namespace Proxy

/-! ## Identifying fields taken out again -/

/-- A payload without the listed texts in its list of fields. -/
def withoutFields (removed : List String) (payload : Payload) : Payload :=
  match Members.get? fieldsParameter payload with
  | some (.array items) =>
    payload.insert fieldsParameter (.array (items.filter (· ∉ removed.map Json.string)))
  | _ => payload

theorem get?_withoutFields_of_ne {name : String} (h : name ≠ fieldsParameter)
    (removed : List String) (payload : Payload) :
    Members.get? name (withoutFields removed payload) = Members.get? name payload := by
  unfold withoutFields
  split
  · exact Members.get?_insert_of_ne h _ payload
  · rfl

/-- The fields that are left were there before; of a list none is left that was to be taken out. -/
theorem of_mem_elements_withoutFields {removed : List String} {payload : Payload}
    {before after : Json} (hbefore : Members.get? fieldsParameter payload = some before)
    (hafter : Members.get? fieldsParameter (withoutFields removed payload) = some after)
    {element : Json} (helement : element ∈ after.elements) :
    element ∈ before.elements ∧
      ∀ items, before = .array items → ∀ field ∈ removed, element ≠ .string field := by
  unfold withoutFields at hafter
  rw [hbefore] at hafter
  split at hafter
  · rename_i items hitems
    rw [Option.some.inj hitems]
    rw [Members.get?_insert_self] at hafter
    obtain rfl := Option.some.inj hafter
    obtain ⟨hmem, hkept⟩ := List.mem_filter.mp helement
    refine ⟨hmem, fun _ _ field hfield heq => of_decide_eq_true hkept ?_⟩
    exact List.mem_map.mpr ⟨field, hfield, heq.symm⟩
  · rename_i hother
    obtain rfl := Option.some.inj (hbefore.symm.trans hafter)
    exact ⟨helement, fun items hitems => absurd (congrArg some hitems) (hother items)⟩

/-- A variant without fields has no identifying field added. -/
theorem insertIdentifiers_of_no_fields {variant : Variant} (h : variant.fields = none)
    (payload : Payload) : insertIdentifiers variant payload = ([], payload) := by
  have hnone : identifiersToInsert variant payload = [] :=
    if_pos (Option.isNone_iff_eq_none.mpr h)
  rw [insertIdentifiers_eq, hnone, if_pos rfl]

/-- Where identifying fields are added, the fields are a list. -/
theorem exists_list_of_inserted {variant : Variant} {payload : Payload} {field : String}
    (hfield : field ∈ (insertIdentifiers variant payload).1) :
    ∃ items, Members.get? fieldsParameter (insertIdentifiers variant payload).2
      = some (.array items) := by
  rw [insertIdentifiers_eq] at hfield ⊢
  dsimp only at hfield ⊢
  rw [if_neg (List.ne_nil_of_mem hfield)]
  exact ⟨_, Members.get?_insert_self ..⟩

/-- Identifying fields that are added and taken out again leave no field that was not there. -/
theorem mem_elements_of_withoutInserted {variant : Variant} {payload : Payload}
    {before after : Json}
    (hbefore : Members.get? fieldsParameter payload = some before)
    (hafter : Members.get? fieldsParameter (withoutFields (insertIdentifiers variant payload).1
      (insertIdentifiers variant payload).2) = some after) :
    ∀ element ∈ after.elements, element ∈ before.elements := by
  intro element helement
  obtain ⟨sent, hsent, hsource⟩ := @mem_elements_insertIdentifiers variant _ _ hbefore
  obtain ⟨hmem, hkept⟩ := of_mem_elements_withoutFields hsent hafter helement
  rcases hsource element hmem with hold | ⟨field, hfield, heq⟩
  · exact hold
  · -- it was added, and so it was taken out
    obtain ⟨items, hitems⟩ := exists_list_of_inserted hfield
    have hlist : sent = .array items := Option.some.inj (hsent.symm.trans hitems)
    exact absurd heq (hkept items hlist field hfield)

/-- A list of fields, less some of them, asks for the others. -/
theorem requestedFields_withoutFields {removed : List String} {payload : Payload}
    (h : removed = [] ∨ ∃ items, Members.get? fieldsParameter payload = some (.array items)) :
    requestedFields (withoutFields removed payload)
      = (requestedFields payload).filter (· ∉ removed) := by
  unfold withoutFields
  split
  · rename_i items hitems
    rw [requestedFields, Members.get?_insert_self, requestedFields, hitems]
    show (items.filter _).filterMap Json.asString? = (items.filterMap Json.asString?).filter _
    rw [List.filterMap_filter, List.filter_filterMap]
    -- both pass over an item that is no text, and a text is taken out of both or of neither
    refine congrArg (List.filterMap · items) (funext fun item => ?_)
    cases item <;> simp [Json.asString?, Option.filter]
  · rename_i hother
    rcases h with rfl | ⟨items, hitems⟩
    · exact (List.filter_eq_self.mpr fun field _ => by simp).symm
    · exact absurd hitems (hother items)

/-- With identifying fields added and taken out again, a payload asks for the same fields. -/
theorem requestedFields_withoutInserted (variant : Variant) (payload : Payload) :
    requestedFields (withoutFields (insertIdentifiers variant payload).1
      (insertIdentifiers variant payload).2) = requestedFields payload := by
  have hlist : (insertIdentifiers variant payload).1 = [] ∨ ∃ items,
      Members.get? fieldsParameter (insertIdentifiers variant payload).2 = some (.array items) := by
    cases hinserted : (insertIdentifiers variant payload).1 with
    | nil => exact Or.inl rfl
    | cons field rest =>
      have hfield : field ∈ (insertIdentifiers variant payload).1 := by
        rw [hinserted]
        exact List.mem_cons_self
      exact Or.inr (exists_list_of_inserted hfield)
  have hinserted : (insertIdentifiers variant payload).1 = identifiersToInsert variant payload := by
    rw [insertIdentifiers_eq]
  rw [requestedFields_withoutFields hlist, requestedFields_insertIdentifiers, List.filter_append,
    hinserted]
  -- what the caller asked for is not added, so it is not taken out
  have hold : (requestedFields payload).filter (· ∉ identifiersToInsert variant payload)
      = requestedFields payload := by
    refine List.filter_eq_self.mpr fun field hfield => decide_eq_true fun hnew => ?_
    rw [← hinserted] at hnew
    exact not_mem_requestedFields_of_inserted hnew hfield
  have hnew : (identifiersToInsert variant payload).filter
      (· ∉ identifiersToInsert variant payload) = [] :=
    List.filter_eq_nil_iff.mpr fun field hfield => by simp [hfield]
  rw [hold, hnew, List.append_nil]

/-- An accepted payload is still accepted with identifying fields added and taken out again. -/
theorem accepts_withoutInserted {rules : Ruleset} {granted : NameSet} {variant : Variant}
    {payload : Payload} (h : rules.Accepts granted payload)
    (hfields : variant.fields.isSome = true →
      ∃ value, Members.get? fieldsParameter payload = some value) :
    rules.Accepts granted (withoutFields (insertIdentifiers variant payload).1
      (insertIdentifiers variant payload).2) := by
  intro name value hvalue
  by_cases hname : name = fieldsParameter
  · subst hname
    cases hbefore : Members.get? fieldsParameter payload with
    | some before =>
      exact (h _ before hbefore).narrow (mem_elements_of_withoutInserted hbefore hvalue)
    | none =>
      -- only a variant without fields can get here, and it has nothing added
      have hnone : variant.fields = none := by
        by_contra hsome
        obtain ⟨before, hfound⟩ := hfields (Option.isSome_iff_ne_none.mpr hsome)
        rw [hbefore] at hfound
        cases hfound
      rw [insertIdentifiers_of_no_fields hnone, withoutFields, hbefore] at hvalue
      dsimp only at hvalue
      rw [hbefore] at hvalue
      cases hvalue
  · rw [get?_withoutFields_of_ne hname, get?_insertIdentifiers_of_ne hname] at hvalue
    exact h name value hvalue

/-! ## What is sent -/

variable {endpoint : Endpoint} {cipher : Cipher} {request : Request} {prepared : Prepared}

/-- The judged payload is accepted. -/
theorem Admission.accepts_judged (h : Admission endpoint cipher request prepared)
    (hdistinct : prepared.variant.ruleset.Distinct) :
    prepared.variant.ruleset.Accepts request.principal.scopes
      (judgedPayload prepared.variant request.principal.scopes request.payload) := by
  obtain ⟨ruled, hruled, hmet, -⟩ := h.ruled
  exact hdistinct.accepts hruled (Requirements.metBy_union.mp hmet).2

/-- **What is sent, less the identifying fields, is accepted**, where every parameter is declared
once and the policies on parameters with tokens treat all texts alike. -/
theorem Admission.accepts_sent (h : Admission endpoint cipher request prepared)
    (hdistinct : prepared.variant.ruleset.Distinct)
    (hblind : ∀ rule, endpoint.tokenization = some rule → ∀ parameter ∈ rule.parameters,
      ∀ policy, prepared.variant.ruleset.get? parameter = some policy → policy.Blind)
    (htokens : ∀ rule, endpoint.tokenization = some rule → fieldsParameter ∉ rule.parameters) :
    prepared.variant.ruleset.Accepts request.principal.scopes
      (withoutFields prepared.inserted prepared.payload) := by
  -- the tokens are put back first, and then the identifying fields are added
  obtain ⟨resolved, hresolved, hinserted⟩ := h.forwarded
  have haccepts := (h.accepts_judged hdistinct).resolveTokens hdistinct hblind hresolved
  have hfields : prepared.variant.fields.isSome = true →
      ∃ value, Members.get? fieldsParameter resolved = some value := by
    intro hsome
    rw [get?_resolveTokens_of_not_mem hresolved htokens]
    exact exists_fields_resolveFields hsome h.dataset
  have hsent := accepts_withoutInserted haccepts hfields
  rw [hinserted] at hsent
  exact hsent

/-- What is sent, less the identifying fields, asks for the fields that the caller gets. -/
theorem Admission.requestedFields_sent (h : Admission endpoint cipher request prepared)
    (htokens : ∀ rule, endpoint.tokenization = some rule → fieldsParameter ∉ rule.parameters) :
    requestedFields (withoutFields prepared.inserted prepared.payload) = prepared.callerFields := by
  obtain ⟨resolved, hresolved, hinserted⟩ := h.forwarded
  have hsent := requestedFields_withoutInserted prepared.variant resolved
  rw [hinserted] at hsent
  rw [hsent, h.callerFields, requestedFields, get?_resolveTokens_of_not_mem hresolved htokens,
    requestedFields]

end Proxy

end RegistryGate
