/-
  What the evaluation of a request against its ruleset establishes.

  A requirement set is met when each of its members is satisfied (`Requirements.MetBy`), and
  `ensureGranted` passes exactly then.  When a ruleset accepts a request, every parameter of the
  request has a policy, every element of its value resolves to a requirement set, and all of these
  are part of the answer (`requiredScopes_sound`).  That one statement is what later proofs use; the
  loops over parameters and elements are opened only here.
-/
import RegistryGate.Policy.Ruleset
import RegistryGate.Proofs.Ordered.Lookup

namespace RegistryGate

/-! ## Requirements -/

namespace Requirement

/-- A requirement built from names is satisfied by whoever holds one of them; of no names nobody
does. -/
theorem satisfiedBy_ofNames {granted names : NameSet} :
    (ofNames names).satisfiedBy granted = true ↔ ∃ name, name ∈ names ∧ name ∈ granted := by
  show _ ↔ ∃ name, name ∈ names.toList ∧ name ∈ granted
  unfold ofNames
  split
  · rename_i hnil
    simp [satisfiedBy, hnil]
  · rename_i name hone
    simp [satisfiedBy, hone, SortedSet.contains_iff]
  · simp only [satisfiedBy, List.any_eq_true, SortedSet.contains_iff]

/-- Whoever holds more scopes satisfies as much. -/
theorem satisfiedBy_mono {r : Requirement} {granted larger : NameSet}
    (hlarger : ∀ scope, scope ∈ granted → scope ∈ larger) (h : r.satisfiedBy granted = true) :
    r.satisfiedBy larger = true := by
  cases r with
  | scope name =>
    exact SortedSet.contains_iff.mpr (hlarger name (SortedSet.contains_iff.mp h))
  | anyOf names =>
    obtain ⟨name, hname, hheld⟩ := List.any_eq_true.mp h
    exact List.any_eq_true.mpr
      ⟨name, hname, SortedSet.contains_iff.mpr (hlarger name (SortedSet.contains_iff.mp hheld))⟩
  | unattainable => cases h

end Requirement

namespace Requirements

/-- Every requirement of the set is satisfied by the granted scopes. -/
def MetBy (needed : Requirements) (granted : NameSet) : Prop :=
  ∀ r, r ∈ needed → r.satisfiedBy granted = true

theorem MetBy.mono {some all : Requirements} {granted : NameSet} (h : all.MetBy granted)
    (hsub : ∀ r, r ∈ some → r ∈ all) : some.MetBy granted :=
  fun r hr => h r (hsub r hr)

/-- Whoever holds more scopes meets as much. -/
theorem MetBy.of_granted {needed : Requirements} {granted larger : NameSet}
    (h : needed.MetBy granted) (hlarger : ∀ scope, scope ∈ granted → scope ∈ larger) :
    needed.MetBy larger :=
  fun r hr => Requirement.satisfiedBy_mono hlarger (h r hr)

/-- Nothing is missing exactly when every requirement is satisfied. -/
theorem missing_isEmpty_iff {needed : Requirements} {granted : NameSet} :
    (needed.missing granted).isEmpty = true ↔ needed.MetBy granted := by
  rw [SortedSet.isEmpty_iff]
  constructor
  · intro h r hr
    cases hmet : r.satisfiedBy granted with
    | true => rfl
    | false => exact absurd (SortedSet.mem_filter.mpr ⟨hr, by rw [hmet]; rfl⟩) (h r)
  · intro h r hr
    obtain ⟨hmem, hunmet⟩ := SortedSet.mem_filter.mp hr
    rw [h r hmem] at hunmet
    exact absurd hunmet (by decide)

theorem ensureGranted_eq_ok_iff {needed : Requirements} {granted : NameSet} :
    needed.ensureGranted granted = .ok () ↔ needed.MetBy granted := by
  rw [← missing_isEmpty_iff]
  unfold ensureGranted
  by_cases h : (needed.missing granted).isEmpty = true <;> simp [h]

/-- A denial names what is required, and something of it that is missing. -/
theorem of_ensureGranted_eq_error {needed : Requirements} {granted : NameSet} {error : PolicyError}
    (h : needed.ensureGranted granted = .error error) :
    error = .permissionDenied needed.labels (labels (needed.missing granted)) ∧
      labels (needed.missing granted) ≠ [] := by
  unfold ensureGranted at h
  dsimp only at h
  split at h
  · cases h
  · rename_i hmissing
    refine ⟨(Except.error.inj h).symm, fun hnil => hmissing ?_⟩
    rw [labels, List.map_eq_nil_iff] at hnil
    exact List.isEmpty_iff.mpr hnil

/-- Where something is required that is not satisfied, a denial follows. -/
theorem ensureGranted_of_not_metBy {needed : Requirements} {granted : NameSet}
    (h : ¬ needed.MetBy granted) : needed.ensureGranted granted
      = .error (.permissionDenied needed.labels (labels (needed.missing granted))) := by
  cases hensured : needed.ensureGranted granted with
  | ok => exact absurd (ensureGranted_eq_ok_iff.mp hensured) h
  | error error => rw [(of_ensureGranted_eq_error hensured).1]

theorem metBy_singleton {r : Requirement} {granted : NameSet} :
    MetBy (SortedSet.singleton r) granted ↔ r.satisfiedBy granted = true := by
  constructor
  · intro h
    exact h r (SortedSet.mem_singleton.mpr rfl)
  · intro h r' hr'
    rw [SortedSet.mem_singleton.mp hr']
    exact h

/-- Two sets together are met when each of them is. -/
theorem metBy_union {some others : Requirements} {granted : NameSet} :
    MetBy (some.union others) granted ↔ some.MetBy granted ∧ others.MetBy granted := by
  constructor
  · intro h
    exact ⟨h.mono fun r hr => SortedSet.mem_union.mpr (Or.inl hr),
      h.mono fun r hr => SortedSet.mem_union.mpr (Or.inr hr)⟩
  · rintro ⟨hsome, hothers⟩ r hr
    rcases SortedSet.mem_union.mp hr with hmem | hmem
    · exact hsome r hmem
    · exact hothers r hmem

/-- The members of a union that is taken over a list. -/
theorem mem_foldl_union {α : Type} (f : α → Requirements) (xs : List α) (acc : Requirements)
    (r : Requirement) :
    r ∈ xs.foldl (fun acc x => acc.union (f x)) acc ↔ r ∈ acc ∨ ∃ x ∈ xs, r ∈ f x := by
  -- on the list, for whatever has been collected already
  induction xs generalizing acc with
  | nil => simp
  | cons x rest ih =>
    rw [List.foldl_cons, ih, SortedSet.mem_union, or_assoc]
    simp

end Requirements

/-! ## One parameter -/

/-- A scalar is its own only element. -/
theorem Json.mem_elements_of_scalarText? {value : Json} {text : String}
    (h : value.scalarText? = some text) : value ∈ value.elements := by
  cases value with
  | string | bool | number => exact List.mem_singleton_self _
  | null | array | object => cases h

namespace ParameterPolicy

theorem rejected_eq_nil_iff {p : ParameterPolicy} {value : Json} :
    p.rejected value = [] ↔
      ∀ element ∈ value.elements, ∃ needed, p.requirementsOn? element = some needed := by
  unfold rejected
  rw [List.map_eq_nil_iff, List.filter_eq_nil_iff]
  simp only [Option.isNone_iff_eq_none, Option.ne_none_iff_exists']

theorem mem_required {p : ParameterPolicy} {value : Json} {r : Requirement} :
    r ∈ p.required value ↔
      ∃ element ∈ value.elements, ∃ needed, p.requirementsOn? element = some needed ∧ r ∈ needed := by
  unfold required
  rw [Requirements.mem_foldl_union fun e => (p.requirementsOn? e).getD .empty]
  constructor
  · rintro (hempty | ⟨element, hmem, hr⟩)
    · exact absurd hempty SortedSet.not_mem_empty
    · cases hneeded : p.requirementsOn? element with
      | none =>
        rw [hneeded] at hr
        exact absurd hr SortedSet.not_mem_empty
      | some needed =>
        rw [hneeded] at hr
        exact ⟨element, hmem, needed, hneeded, hr⟩
  · rintro ⟨element, hmem, needed, hneeded, hr⟩
    refine Or.inr ⟨element, hmem, ?_⟩
    rw [hneeded]
    exact hr

/-- A supported element has a text, and the policy resolves it. -/
theorem requirementsOn?_eq_some {p : ParameterPolicy} {element : Json} {needed : Requirements}
    (h : p.requirementsOn? element = some needed) :
    ∃ text, element.scalarText? = some text ∧ p.requirementsFor? text = some needed :=
  Option.bind_eq_some_iff.mp h

/-- A policy with one value requires what that value requires. -/
theorem eq_of_requirementsFor?_withValue {value scope text : String} {needed : Requirements}
    (h : (empty.withValue value scope).requirementsFor? text = some needed) :
    needed = Requirements.ofScope scope := by
  have hvalues : (empty.withValue value scope).requirementsFor? text
      = (((Table.empty.insert value (Requirements.ofScope scope)).get? text).or none).or none := rfl
  rw [hvalues, Option.or_none, Option.or_none] at h
  by_cases htext : text = value
  · rw [htext, Table.get?_insert_self] at h
    exact (Option.some.inj h).symm
  · rw [Table.get?_insert_of_ne _ htext] at h
    cases h

end ParameterPolicy

/-! ## Whole rulesets -/

/-- Holds of the errors that find fault with the request itself, whoever sends it. -/
def PolicyError.isValidation : PolicyError → Bool
  | unknownParameter _ | unsupportedValue _ _ | missingParameter _ => true
  | permissionDenied _ _ => false

namespace Ruleset

variable {rules : Ruleset} {request : Payload}

theorem mem_unknownParameters {name : String} :
    name ∈ rules.unknownParameters request ↔
      name ∈ Members.names request ∧ rules.get? name = none := by
  unfold unknownParameters
  rw [SortedSet.mem_ofList, List.mem_filter, Option.isNone_iff_eq_none]

theorem unknownParameters_eq_nil_iff :
    (rules.unknownParameters request).toList = [] ↔
      ∀ name ∈ Members.names request, rules.get? name ≠ none := by
  rw [List.eq_nil_iff_forall_not_mem]
  refine forall_congr' fun name => ?_
  rw [SortedSet.mem_toList, mem_unknownParameters, not_and]

/-- The fault of a parameter is that its policy rejects something, and names all of it. -/
theorem faultOf?_eq_some_iff {entry : String × ParameterPolicy} {fault : PolicyError} :
    faultOf? request entry = some fault ↔
      ∃ value, Members.get? entry.1 request = some value ∧ entry.2.rejected value ≠ [] ∧
        fault = .unsupportedValue entry.1 (entry.2.rejected value) := by
  unfold faultOf?
  constructor
  · intro h
    split at h
    · cases h
    · rename_i value hvalue
      split at h
      · cases h
      · rename_i hrejected
        exact ⟨value, hvalue, hrejected, (Option.some.inj h).symm⟩
  · rintro ⟨value, hvalue, hrejected, rfl⟩
    rw [hvalue]
    dsimp only
    split
    · rename_i hnil
      exact absurd hnil hrejected
    · rfl

theorem faultOf?_eq_none_iff {entry : String × ParameterPolicy} :
    faultOf? request entry = none ↔
      ∀ value, Members.get? entry.1 request = some value → entry.2.rejected value = [] := by
  rw [Option.eq_none_iff_forall_ne_some]
  constructor
  · intro h value hvalue
    -- otherwise the entry would be at fault
    refine Classical.byContradiction fun hrejected => ?_
    exact h _ (faultOf?_eq_some_iff.mpr ⟨value, hvalue, hrejected, rfl⟩)
  · intro h fault hfault
    obtain ⟨value, hvalue, hrejected, -⟩ := faultOf?_eq_some_iff.mp hfault
    exact hrejected (h value hvalue)

theorem mem_requiredBy {entry : String × ParameterPolicy} {r : Requirement} :
    r ∈ requiredBy request entry ↔
      ∃ value, Members.get? entry.1 request = some value ∧ r ∈ entry.2.required value := by
  unfold requiredBy
  cases hvalue : Members.get? entry.1 request with
  | none => simp
  | some value => simp

theorem mem_union_requiredBy {r : Requirement} :
    r ∈ (rules.entries.foldl (fun acc e => acc.union (requiredBy request e)) .empty :
      Requirements) ↔ ∃ entry ∈ rules.entries, r ∈ requiredBy request entry := by
  rw [Requirements.mem_foldl_union (requiredBy request)]
  exact or_iff_right SortedSet.not_mem_empty

/-- A ruleset accepts a request when it knows all parameters of it and finds no fault; what is then
required is what the entries require. -/
theorem requiredScopes_eq_ok_iff {needed : Requirements} :
    rules.requiredScopes request = .ok needed ↔
      (∀ name ∈ Members.names request, rules.get? name ≠ none) ∧
      (∀ entry ∈ rules.entries, faultOf? request entry = none) ∧
      ∀ r, r ∈ needed ↔ ∃ entry ∈ rules.entries, r ∈ requiredBy request entry := by
  rw [← unknownParameters_eq_nil_iff, ← List.findSome?_eq_none_iff]
  unfold requiredScopes
  constructor
  · intro h
    -- an unknown parameter ends the evaluation, and then the first fault does
    split at h
    · cases h
    · rename_i hknown
      split at h
      · cases h
      · rename_i hfaultless
        cases h
        exact ⟨hknown, hfaultless, fun r => mem_union_requiredBy⟩
  · rintro ⟨hknown, hfaultless, hneeded⟩
    rw [hknown]
    dsimp only
    rw [hfaultless]
    exact congrArg Except.ok
      (SortedSet.ext_mem fun r => mem_union_requiredBy.trans (hneeded r).symm)

/-- A ruleset finds fault with requests, and denies nothing itself. -/
theorem isValidation_of_requiredScopes {error : PolicyError}
    (h : rules.requiredScopes request = .error error) : error.isValidation = true := by
  unfold requiredScopes at h
  split at h
  · cases h
    rfl
  · split at h
    · rename_i hfault
      cases h
      obtain ⟨entry, -, hentry⟩ := List.exists_of_findSome?_eq_some hfault
      obtain ⟨_, -, -, rfl⟩ := faultOf?_eq_some_iff.mp hentry
      rfl
    · cases h

/-- The policy that was put in is found under its own name; under any other name what was there
before. -/
theorem get?_insertEntry (name other : String) (policy : ParameterPolicy)
    (entries : List (String × ParameterPolicy)) :
    Members.get? other (insertEntry name policy entries)
      = if other = name then some policy else Members.get? other entries := by
  -- on the entries: the name is searched where it would be put
  induction entries with
  | nil =>
    by_cases h : other = name
    · simp [insertEntry, Members.get?, h]
    · simp [insertEntry, Members.get?, h, Ne.symm h]
  | cons e rest ih =>
    obtain ⟨k, p⟩ := e
    unfold insertEntry
    by_cases hk : k = name
    · rw [if_pos hk]
      by_cases h : other = name
      · simp [Members.get?, h]
      · have hko : k ≠ other := fun e => h (e ▸ hk)
        simp [Members.get?, h, Ne.symm h, hko]
    · rw [if_neg hk]
      by_cases hko : k = other
      · have h : other ≠ name := fun e => hk (hko.trans e)
        simp [Members.get?, hko, h]
      · simp only [Members.get?, if_neg hko]
        exact ih

/-- Declaring a parameter changes the policy of that parameter only. -/
theorem get?_insert (rules : Ruleset) (name other : String) (policy : ParameterPolicy) :
    (rules.insert name policy).get? other = if other = name then some policy else rules.get? other :=
  get?_insertEntry name other policy rules.entries

/-- When a ruleset accepts a request, each parameter of it has a policy, which supports every
element, and what it requires of an element is part of what the whole request requires. -/
theorem requiredScopes_sound {ruled : Requirements} (h : rules.requiredScopes request = .ok ruled)
    {name : String} {value : Json} (hvalue : Members.get? name request = some value) :
    ∃ policy, rules.get? name = some policy ∧
      ∀ element ∈ value.elements, ∃ needed,
        policy.requirementsOn? element = some needed ∧ ∀ r, r ∈ needed → r ∈ ruled := by
  obtain ⟨hknown, hfaultless, hruled⟩ := requiredScopes_eq_ok_iff.mp h
  obtain ⟨policy, hpolicy⟩ :=
    Option.ne_none_iff_exists'.mp (hknown name (Members.mem_names_of_get? hvalue))
  have hentry : (name, policy) ∈ rules.entries := Members.mem_of_get? hpolicy
  have hrejected := faultOf?_eq_none_iff.mp (hfaultless _ hentry) value hvalue
  refine ⟨policy, hpolicy, fun element helement => ?_⟩
  obtain ⟨needed, hneeded⟩ := ParameterPolicy.rejected_eq_nil_iff.mp hrejected element helement
  refine ⟨needed, hneeded, fun r hr => (hruled r).mpr ⟨_, hentry, mem_requiredBy.mpr ?_⟩⟩
  exact ⟨value, hvalue, ParameterPolicy.mem_required.mpr ⟨element, helement, needed, hneeded, hr⟩⟩

end Ruleset

end RegistryGate
