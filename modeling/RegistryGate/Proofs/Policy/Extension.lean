/-
  Parameters that change no verdict.

  A parameter is put into a request that did not have it.  Where its policy admits the value
  (`ParameterPolicy.Admits`), that is, supports every element of it and asks for nothing that the
  caller does not meet, the verdict on the request stays the same: the same fault, or the same
  requirements that the caller misses (`requiredScopes_insert`).

  The evaluation goes through all entries of a ruleset, so a parameter must have one policy only.
  Every ruleset that is built by declaring parameters is of that kind (`Distinct`).
-/
import RegistryGate.Proofs.Policy.Evaluation

namespace RegistryGate

/-! ## Names of members -/

theorem Members.mem_names_insert {α : Type} {name other : String} {value : α} {ms : Members α} :
    other ∈ names (insert name value ms) ↔ other = name ∨ other ∈ names ms := by
  induction ms with
  | nil => simp [insert, names]
  | cons e rest ih =>
    obtain ⟨k, v⟩ := e
    unfold insert
    split
    · rename_i hk
      subst hk
      simp [names]
    · split
      · simp [names]
      · simp only [names, List.map_cons, List.mem_cons] at ih ⊢
        rw [ih]
        exact or_left_comm

/-! ## Admitted values -/

/-- Every element of the value is supported, and the caller meets what it requires. -/
def ParameterPolicy.Admits (p : ParameterPolicy) (granted : NameSet) (value : Json) : Prop :=
  ∀ element ∈ value.elements, ∃ needed,
    p.requirementsOn? element = some needed ∧ needed.MetBy granted

namespace ParameterPolicy

variable {p : ParameterPolicy} {granted : NameSet} {value : Json}

/-- No element of an admitted value is rejected. -/
theorem Admits.rejected_eq_nil (h : p.Admits granted value) : p.rejected value = [] :=
  rejected_eq_nil_iff.mpr fun element helement =>
    let ⟨needed, hneeded, _⟩ := h element helement
    ⟨needed, hneeded⟩

/-- The caller meets all that is required of an admitted value. -/
theorem Admits.satisfied (h : p.Admits granted value) {r : Requirement} (hr : r ∈ p.required value) :
    r.satisfiedBy granted = true := by
  obtain ⟨element, helement, needed, hneeded, hmem⟩ := mem_required.mp hr
  obtain ⟨found, hfound, hmet⟩ := h element helement
  obtain rfl := Option.some.inj (hneeded.symm.trans hfound)
  exact hmet r hmem

end ParameterPolicy

namespace Ruleset

/-! ## Rulesets with one policy for each parameter -/

/-- Every parameter is declared once. -/
def Distinct (rules : Ruleset) : Prop := rules.parameters.Nodup

theorem distinct_empty : empty.Distinct := List.nodup_nil

/-- A declared parameter keeps its place; a new one comes behind all others. -/
theorem parameters_insert (rules : Ruleset) (name : String) (policy : ParameterPolicy) :
    (rules.insert name policy).parameters
      = if name ∈ rules.parameters then rules.parameters else rules.parameters ++ [name] := by
  obtain ⟨entries⟩ := rules
  show (insertEntry name policy entries).map Prod.fst
    = if name ∈ entries.map Prod.fst then entries.map Prod.fst else entries.map Prod.fst ++ [name]
  -- on the entries: a known name stops the search where it stands
  induction entries with
  | nil => rfl
  | cons e rest ih =>
    obtain ⟨k, p⟩ := e
    rw [insertEntry, List.map_cons]
    by_cases hk : k = name
    · have hmem : name ∈ k :: rest.map Prod.fst := hk ▸ List.mem_cons_self
      rw [if_pos hk, if_pos hmem, List.map_cons, hk]
    · rw [if_neg hk, List.map_cons, ih]
      by_cases hrest : name ∈ rest.map Prod.fst
      · rw [if_pos hrest, if_pos (List.mem_cons_of_mem k hrest)]
      · have hmem : name ∉ k :: rest.map Prod.fst :=
          fun h => (List.mem_cons.mp h).elim (Ne.symm hk) hrest
        rw [if_neg hrest, if_neg hmem, List.cons_append]

theorem mem_parameters_insert {rules : Ruleset} {name other : String} {policy : ParameterPolicy} :
    other ∈ (rules.insert name policy).parameters ↔ other = name ∨ other ∈ rules.parameters := by
  rw [parameters_insert]
  split
  · rename_i hknown
    exact ⟨Or.inr, fun h => h.elim (fun heq => heq ▸ hknown) id⟩
  · rw [List.mem_append, List.mem_singleton, or_comm]

/-- Declaring a parameter keeps every parameter declared once. -/
theorem Distinct.insert {rules : Ruleset} (h : rules.Distinct) (name : String)
    (policy : ParameterPolicy) : (rules.insert name policy).Distinct := by
  rw [Distinct, parameters_insert]
  split
  · exact h
  · rename_i hnew
    exact List.nodup_append.mpr ⟨h, List.pairwise_singleton _ name, fun other hother last hlast heq =>
      hnew (List.mem_singleton.mp hlast ▸ heq ▸ hother)⟩

/-- In a ruleset that declares every parameter once, an entry is what is found under its name. -/
theorem Distinct.get?_of_mem {rules : Ruleset} (h : rules.Distinct) {name : String}
    {policy : ParameterPolicy} (hmem : (name, policy) ∈ rules.entries) :
    rules.get? name = some policy := by
  obtain ⟨entries⟩ := rules
  change (entries.map Prod.fst).Nodup at h
  change (name, policy) ∈ entries at hmem
  show Members.get? name entries = some policy
  induction entries with
  | nil => exact absurd hmem List.not_mem_nil
  | cons e rest ih =>
    obtain ⟨k, p⟩ := e
    obtain ⟨hk, hrest⟩ := List.nodup_cons.mp h
    rcases List.mem_cons.mp hmem with heq | hin
    · cases heq
      exact if_pos rfl
    · have hne : k ≠ name := fun heq => hk (heq ▸ List.mem_map.mpr ⟨_, hin, rfl⟩)
      rw [Members.get?, if_neg hne]
      exact ih hrest hin

/-- The parameter is declared, and whatever policy it has admits the value. -/
structure Admits (rules : Ruleset) (granted : NameSet) (name : String) (value : Json) : Prop where
  /-- There is a policy. -/
  declared : (rules.get? name).isSome = true
  /-- Each entry for the parameter admits the value. -/
  admitted : ∀ policy, (name, policy) ∈ rules.entries → policy.Admits granted value

/-- Where every parameter is declared once, its policy decides. -/
theorem Distinct.admits {rules : Ruleset} (h : rules.Distinct) {granted : NameSet} {name : String}
    {value : Json} {policy : ParameterPolicy} (hpolicy : rules.get? name = some policy)
    (hadmits : policy.Admits granted value) : rules.Admits granted name value where
  declared := by
    rw [hpolicy]
    rfl
  admitted := by
    intro found hfound
    have hsame := h.get?_of_mem hfound
    rw [hpolicy] at hsame
    obtain rfl := Option.some.inj hsame
    exact hadmits

/-! ## The verdict on a longer request -/

variable {rules : Ruleset} {granted : NameSet} {name : String} {value : Json} {request : Payload}

/-- A declared parameter is not among the unknown ones. -/
theorem unknownParameters_insert (h : (rules.get? name).isSome = true) :
    rules.unknownParameters (Members.insert name value request) = rules.unknownParameters request := by
  refine SortedSet.ext_mem fun other => ?_
  rw [mem_unknownParameters, mem_unknownParameters, Members.mem_names_insert]
  constructor
  · rintro ⟨rfl | hold, hunknown⟩
    · rw [hunknown] at h
      cases h
    · exact ⟨hold, hunknown⟩
  · rintro ⟨hold, hunknown⟩
    exact ⟨Or.inr hold, hunknown⟩

/-- An admitted parameter has no fault, and the others have theirs. -/
theorem faultOf?_insert (hadmits : rules.Admits granted name value)
    (habsent : Members.get? name request = none) {entry : String × ParameterPolicy}
    (hentry : entry ∈ rules.entries) :
    faultOf? (Members.insert name value request) entry = faultOf? request entry := by
  obtain ⟨other, policy⟩ := entry
  unfold faultOf?
  dsimp only
  by_cases hname : other = name
  · subst hname
    rw [Members.get?_insert_self, habsent]
    dsimp only
    rw [(hadmits.admitted policy hentry).rejected_eq_nil]
  · rw [Members.get?_insert_of_ne hname]

/-- What the entries require of the longer request and the caller does not meet is what they require
of the shorter one. -/
theorem mem_requiredBy_insert (hadmits : rules.Admits granted name value)
    (habsent : Members.get? name request = none) {entry : String × ParameterPolicy}
    (hentry : entry ∈ rules.entries) {r : Requirement} (hunmet : ¬ r.satisfiedBy granted = true) :
    r ∈ requiredBy (Members.insert name value request) entry ↔ r ∈ requiredBy request entry := by
  obtain ⟨other, policy⟩ := entry
  unfold requiredBy
  dsimp only
  by_cases hname : other = name
  · -- what its value requires is met, so it is not what is asked for
    subst hname
    rw [Members.get?_insert_self, habsent]
    exact iff_of_false (fun hr => hunmet ((hadmits.admitted policy hentry).satisfied hr))
      SortedSet.not_mem_empty
  · rw [Members.get?_insert_of_ne hname]

theorem mem_missing {needed : Requirements} {r : Requirement} :
    r ∈ needed.missing granted ↔ r ∈ needed ∧ ¬ r.satisfiedBy granted = true := by
  rw [Requirements.missing, SortedSet.mem_filter]
  simp

/-- **An admitted parameter changes no verdict**: there is the same fault as without it, or the
caller misses the same requirements. -/
theorem requiredScopes_insert (hadmits : rules.Admits granted name value)
    (habsent : Members.get? name request = none) :
    (rules.requiredScopes (Members.insert name value request)).map (Requirements.missing granted)
      = (rules.requiredScopes request).map (Requirements.missing granted) := by
  have hfaults : rules.entries.findSome? (faultOf? (Members.insert name value request))
      = rules.entries.findSome? (faultOf? request) := by
    -- the faults are compared entry by entry, which `findSome?` allows once they are mapped out
    have hmap : ∀ request', rules.entries.findSome? (faultOf? request')
        = (rules.entries.map (faultOf? request')).findSome? id := fun request' => by
      rw [List.findSome?_map]
      rfl
    rw [hmap, hmap, List.map_congr_left fun entry hentry =>
      faultOf?_insert hadmits habsent hentry]
  unfold requiredScopes
  rw [unknownParameters_insert hadmits.declared, hfaults]
  split
  · rfl
  · split
    · rfl
    · -- both are accepted, and differ in requirements that the caller meets
      refine congrArg Except.ok (SortedSet.ext_mem fun r => ?_)
      rw [mem_missing, mem_missing]
      refine and_congr_left fun hunmet => ?_
      rw [mem_union_requiredBy, mem_union_requiredBy]
      exact exists_congr fun entry => and_congr_right fun hentry =>
        mem_requiredBy_insert hadmits habsent hentry hunmet

/-! ## The verdict on a parameter without elements -/

/-- A list without elements has no element that could be at fault or require something: the ruleset
that knows the parameter says the same of the request without it. -/
theorem requiredScopes_erase (hdeclared : (rules.get? name).isSome = true)
    (hempty : Members.get? name request = some (.array [])) :
    rules.requiredScopes (Members.erase name request) = rules.requiredScopes request := by
  have hunknown : rules.unknownParameters (Members.erase name request)
      = rules.unknownParameters request := by
    refine SortedSet.ext_mem fun other => ?_
    rw [mem_unknownParameters, mem_unknownParameters, Members.mem_names_erase, and_assoc,
      and_iff_right_iff_imp]
    rintro ⟨-, hnone⟩ rfl
    rw [hnone] at hdeclared
    cases hdeclared
  have hfaults : faultOf? (Members.erase name request) = faultOf? request := by
    funext entry
    unfold faultOf?
    by_cases hname : entry.1 = name
    · rw [hname, Members.get?_erase_self, hempty]
      rfl
    · rw [Members.get?_erase_of_ne hname]
  have hrequired : requiredBy (Members.erase name request) = requiredBy request := by
    funext entry
    unfold requiredBy
    by_cases hname : entry.1 = name
    · rw [hname, Members.get?_erase_self, hempty]
      rfl
    · rw [Members.get?_erase_of_ne hname]
  unfold requiredScopes
  rw [hunknown, hfaults, hrequired]

end Ruleset

end RegistryGate
