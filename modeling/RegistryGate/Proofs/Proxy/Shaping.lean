/-
  What each step that shapes a request does to its members.

  A payload is known by its lookups.  Filling in adds and never replaces (`Variant.get?_augment`,
  `get?_resolveFields_of_some`); the default fields and the identifying fields touch the `fields`
  parameter only; putting tokens back touches the parameters that are listed.  Each statement names
  one step and one lookup, so that the fate of a parameter on its way to the register is read off by
  rewriting.
-/
import RegistryGate.Proxy.Pipeline
import RegistryGate.Proofs.Endpoint.Augmentation

namespace RegistryGate

namespace Proxy

open Token (Cipher)

/-! ## Default fields -/

theorem get?_resolveFields_of_ne {name : String} (h : name ≠ fieldsParameter) (variant : Variant)
    (granted : NameSet) (payload : Payload) :
    Members.get? name (resolveFields variant granted payload).2 = Members.get? name payload := by
  unfold resolveFields
  -- a variant without fields, fields that were sent, no dataset, and default fields
  split
  · rfl
  · split
    · rfl
    · split
      · rfl
      · exact Members.get?_insert_of_ne h _ payload

/-- A parameter that is there is not replaced by default fields. -/
theorem get?_resolveFields_of_some {name : String} {value : Json} {payload : Payload}
    (h : Members.get? name payload = some value) (variant : Variant) (granted : NameSet) :
    Members.get? name (resolveFields variant granted payload).2 = some value := by
  by_cases hname : name = fieldsParameter
  · subst hname
    unfold resolveFields
    split
    · exact h
    · rw [if_pos (show payload.contains fieldsParameter = true by simp [Members.contains, h])]
      exact h
  · rw [get?_resolveFields_of_ne hname]
    exact h

/-- Where fields are sent, nothing is filled in for them. -/
theorem resolveFields_of_sent {payload : Payload} (h : payload.contains fieldsParameter = true)
    (variant : Variant) (granted : NameSet) :
    (resolveFields variant granted payload).1 ≠ .noDataset ∧
      (resolveFields variant granted payload).2 = payload := by
  unfold resolveFields
  split
  · exact ⟨fun h => (by cases h), rfl⟩
  · rw [if_pos h]
    exact ⟨fun h => (by cases h), rfl⟩

/-- Unless the caller holds no dataset, a variant with fields gets a `fields` parameter. -/
theorem exists_fields_resolveFields {variant : Variant} {granted : NameSet} {payload : Payload}
    (hfields : variant.fields.isSome = true)
    (hdataset : (resolveFields variant granted payload).1 ≠ .noDataset) :
    ∃ value, Members.get? fieldsParameter (resolveFields variant granted payload).2
      = some value := by
  unfold resolveFields at hdataset ⊢
  split
  · rename_i hnone
    rw [hnone] at hfields
    cases hfields
  · rename_i fields hsome
    split
    · rename_i hcontains
      exact Option.isSome_iff_exists.mp hcontains
    · rename_i habsent
      split
      · rename_i hempty
        simp [hsome, habsent, hempty] at hdataset
      · exact ⟨_, Members.get?_insert_self ..⟩

/-- What is filled in for fields has an item. -/
theorem elements_ne_nil_of_filled {variant : Variant} {granted : NameSet} {payload : Payload}
    {value : Json} (habsent : Members.get? fieldsParameter payload = none)
    (hvalue : Members.get? fieldsParameter (resolveFields variant granted payload).2 = some value) :
    value.elements ≠ [] := by
  -- an absent parameter has no value, so one that is there was filled in
  have hnone : ¬ Members.get? fieldsParameter payload = some value := by
    rw [habsent]
    exact fun h => nomatch h
  unfold resolveFields at hvalue
  split at hvalue
  · exact absurd hvalue hnone
  · split at hvalue
    · exact absurd hvalue hnone
    · split at hvalue
      · exact absurd hvalue hnone
      · rename_i defaults hdefaults
        rw [Members.get?_insert_self] at hvalue
        obtain rfl := Option.some.inj hvalue
        exact fun hnil => hdefaults (List.map_eq_nil_iff.mp hnil)

/-- The payload that is judged: the caller's, with everything filled in. -/
def judgedPayload (variant : Variant) (granted : NameSet) (payload : Payload) : Payload :=
  (resolveFields variant granted (variant.augment granted payload)).2

/-- What the caller sent is judged as it was sent. -/
theorem get?_judgedPayload_of_some {name : String} {value : Json} {payload : Payload}
    (h : Members.get? name payload = some value) (variant : Variant) (granted : NameSet) :
    Members.get? name (judgedPayload variant granted payload) = some value := by
  refine get?_resolveFields_of_some ?_ variant granted
  rw [Variant.get?_augment, h]
  rfl

/-! ## Identifying fields -/

/-- The requested fields are the texts among the elements of the `fields` parameter. -/
theorem mem_requestedFields {payload : Payload} {field : String} :
    field ∈ requestedFields payload ↔
      ∃ value, Members.get? fieldsParameter payload = some value ∧
        Json.string field ∈ value.elements := by
  unfold requestedFields
  constructor
  · intro h
    split at h
    · rename_i items hitems
      obtain ⟨item, hitem, htext⟩ := List.mem_filterMap.mp h
      cases item <;> cases htext
      exact ⟨_, hitems, hitem⟩
    · rename_i single hsingle
      exact ⟨_, hsingle, by simpa [Json.elements] using h⟩
    · exact absurd h List.not_mem_nil
  · rintro ⟨value, hvalue, hmem⟩
    rw [hvalue]
    cases value with
    | array items => exact List.mem_filterMap.mpr ⟨.string field, hmem, rfl⟩
    | string single => simpa [Json.elements] using hmem
    | null | bool | number | object => simp [Json.elements] at hmem

/-- A list of texts is read back as these texts. -/
theorem requestedFields_insert (texts : List String) (payload : Payload) :
    requestedFields (Members.insert fieldsParameter (Json.ofStrings texts) payload) = texts := by
  have htexts : Json.asString? ∘ Json.string = some := rfl
  rw [requestedFields, Members.get?_insert_self]
  show (texts.map Json.string).filterMap Json.asString? = texts
  rw [List.filterMap_map, htexts, List.filterMap_some]

/-- What the insertion of identifying fields does, in one equation. -/
theorem insertIdentifiers_eq (variant : Variant) (payload : Payload) :
    insertIdentifiers variant payload
      = (identifiersToInsert variant payload,
          if identifiersToInsert variant payload = [] then payload
          else Members.insert fieldsParameter
            (Json.ofStrings (requestedFields payload ++ identifiersToInsert variant payload))
            payload) := by
  unfold insertIdentifiers
  split
  · rename_i hnil
    rw [hnil, if_pos rfl]
  · rename_i hne
    rw [if_neg hne]

/-- The identifying fields stand behind the requested ones. -/
theorem requestedFields_insertIdentifiers (variant : Variant) (payload : Payload) :
    requestedFields (insertIdentifiers variant payload).2
      = requestedFields payload ++ identifiersToInsert variant payload := by
  rw [insertIdentifiers_eq]
  dsimp only
  split
  · rename_i hnone
    rw [hnone, List.append_nil]
  · exact requestedFields_insert _ _

/-- Only fields are added that are not requested. -/
theorem not_mem_requestedFields_of_inserted {variant : Variant} {payload : Payload} {field : String}
    (h : field ∈ (insertIdentifiers variant payload).1) : field ∉ requestedFields payload := by
  rw [insertIdentifiers_eq] at h
  unfold identifiersToInsert at h
  split at h
  · exact absurd h List.not_mem_nil
  · simpa using (List.mem_filter.mp h).2

theorem get?_insertIdentifiers_of_ne {name : String} (h : name ≠ fieldsParameter)
    (variant : Variant) (payload : Payload) :
    Members.get? name (insertIdentifiers variant payload).2 = Members.get? name payload := by
  rw [insertIdentifiers_eq]
  show Members.get? name (if _ then _ else _) = _
  split
  · rfl
  · exact Members.get?_insert_of_ne h _ payload

/-! ## Tokens put back -/

/-- Putting tokens back leaves every parameter alone that is not listed. -/
theorem get?_detokenizeParameters_of_not_mem {name : String} (cipher : Cipher) (allowRaw : Bool)
    (correlation : String) {parameters : List String} (h : name ∉ parameters) (payload : Payload) :
    Members.get? name (detokenizeParameters cipher allowRaw correlation parameters payload).1
      = Members.get? name payload := by
  -- on the listed parameters, none of which is this one
  induction parameters generalizing payload with
  | nil => rfl
  | cons parameter rest ih =>
    obtain ⟨hne, hrest⟩ : name ≠ parameter ∧ name ∉ rest := by simpa using h
    unfold detokenizeParameters
    split
    · exact ih hrest payload
    · split
      · rw [ih hrest]
        exact Members.get?_insert_of_ne hne _ payload
      · exact Members.get?_insert_of_ne hne _ payload

/-- The same for a whole request, whatever its endpoint's rule is. -/
theorem get?_resolveTokens_of_not_mem {name : String} {rule : Option TokenizationRule}
    {cipher : Cipher} {granted : NameSet} {tokenizing : Option String} {payload resolved : Payload}
    (hresolved : resolveTokens rule cipher granted tokenizing payload = .ok resolved)
    (h : ∀ r, rule = some r → name ∉ r.parameters) :
    Members.get? name resolved = Members.get? name payload := by
  unfold resolveTokens at hresolved
  split at hresolved
  · rename_i r correlation
    have hframe := get?_detokenizeParameters_of_not_mem cipher (granted.contains r.rawInputScope)
      correlation (h r rfl) payload
    split at hresolved
    · rename_i restored hrestored
      cases hresolved
      rw [detokenizeRequest] at hrestored
      rw [hrestored] at hframe
      exact hframe
    · cases hresolved
  · cases hresolved
    rfl

end Proxy

end RegistryGate
