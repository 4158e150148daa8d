/-
  Requests that a ruleset accepts for a caller.

  Evaluation looks at whole requests: it yields one fault, or one set of requirements.  Yet whether
  a caller gets through is a matter of the single parameters: the ruleset has to admit each of them
  (`Ruleset.Accepts`).  Said this way acceptance survives changes of a request, of which there are
  two kinds: elements are taken out of a value (`Admits.narrow`), or texts give way to other texts
  under a policy that treats all texts alike (`Admits.reword`).

  `Distinct.accepts` leads from the evaluation to the parameters, `Accepts.exists_requiredScopes`
  back again.
-/
import RegistryGate.Proofs.Policy.Extension

namespace RegistryGate

/-! ## Changes of a value -/

/-- One value has, of another, some of the elements, and texts in the place of texts. -/
def Json.Rewords (new old : Json) : Prop :=
  ∀ element ∈ new.elements, element ∈ old.elements ∨
    ((∃ text, element = .string text) ∧ ∃ text, Json.string text ∈ old.elements)

theorem Json.Rewords.refl (value : Json) : value.Rewords value :=
  fun _ helement => Or.inl helement

/-- A list is reworded item by item. -/
theorem Json.Rewords.cons {item other : Json} {new old : List Json}
    (hitem : item = other ∨ ((∃ text, item = .string text) ∧ ∃ text, other = .string text))
    (hrest : Rewords (.array new) (.array old)) :
    Rewords (.array (item :: new)) (.array (other :: old)) := by
  intro element helement
  rcases List.mem_cons.mp helement with rfl | hin
  · rcases hitem with rfl | ⟨htext, text, rfl⟩
    · exact Or.inl List.mem_cons_self
    · exact Or.inr ⟨htext, text, List.mem_cons_self⟩
  · rcases hrest element hin with hold | ⟨htext, text, hmem⟩
    · exact Or.inl (List.mem_cons_of_mem other hold)
    · exact Or.inr ⟨htext, text, List.mem_cons_of_mem other hmem⟩

namespace ParameterPolicy

variable {p : ParameterPolicy} {granted : NameSet} {new old : Json}

/-- The policy treats all texts alike. -/
def Blind (p : ParameterPolicy) : Prop :=
  ∀ text other, p.requirementsFor? text = p.requirementsFor? other

theorem blind_allowAll : allowAll.Blind := fun _ _ => rfl

theorem blind_forAllValues (scope : String) : (forAllValues scope).Blind := fun _ _ => rfl

/-- Elements may be taken out of an admitted value. -/
theorem Admits.narrow (h : p.Admits granted old)
    (hsub : ∀ element ∈ new.elements, element ∈ old.elements) : p.Admits granted new :=
  fun element helement => h element (hsub element helement)

/-- Where the policy treats all texts alike, they may give way to others. -/
theorem Admits.reword (h : p.Admits granted old) (hblind : p.Blind) (hrewords : new.Rewords old) :
    p.Admits granted new := by
  intro element helement
  rcases hrewords element helement with hold | ⟨⟨text, rfl⟩, other, hother⟩
  · exact h element hold
  · obtain ⟨needed, hneeded, hmet⟩ := h _ hother
    have hsame : p.requirementsOn? (.string text) = p.requirementsOn? (.string other) :=
      hblind text other
    exact ⟨needed, hsame.trans hneeded, hmet⟩

end ParameterPolicy

namespace Ruleset

variable {rules : Ruleset} {granted : NameSet} {request : Payload} {name : String} {new old : Json}

theorem Admits.narrow (h : rules.Admits granted name old)
    (hsub : ∀ element ∈ new.elements, element ∈ old.elements) : rules.Admits granted name new where
  declared := h.declared
  admitted := fun policy hpolicy => (h.admitted policy hpolicy).narrow hsub

theorem Admits.reword (h : rules.Admits granted name old) (hdistinct : rules.Distinct)
    (hblind : ∀ policy, rules.get? name = some policy → policy.Blind)
    (hrewords : new.Rewords old) : rules.Admits granted name new where
  declared := h.declared
  admitted := fun policy hpolicy =>
    (h.admitted policy hpolicy).reword (hblind policy (hdistinct.get?_of_mem hpolicy)) hrewords

/-! ## Whole requests -/

/-- The ruleset admits every parameter of a request for a caller. -/
def Accepts (rules : Ruleset) (granted : NameSet) (request : Payload) : Prop :=
  ∀ name value, Members.get? name request = some value → rules.Admits granted name value

/-- A request with an admitted value put in is accepted like before. -/
theorem Accepts.insert {value : Json} (h : rules.Accepts granted request)
    (hadmits : rules.Admits granted name value) :
    rules.Accepts granted (Members.insert name value request) := by
  intro other found hfound
  rw [Members.get?_insert] at hfound
  split at hfound
  · rename_i hname
    rw [hname, ← Option.some.inj hfound]
    exact hadmits
  · exact h other found hfound

/-- A request whose requirements are met is accepted, parameter by parameter. -/
theorem Distinct.accepts (h : rules.Distinct) {needed : Requirements}
    (hneeded : rules.requiredScopes request = .ok needed) (hmet : needed.MetBy granted) :
    rules.Accepts granted request := by
  intro name value hvalue
  obtain ⟨policy, hpolicy, helements⟩ := requiredScopes_sound hneeded hvalue
  refine h.admits hpolicy fun element helement => ?_
  obtain ⟨own, hown, hsub⟩ := helements element helement
  exact ⟨own, hown, hmet.mono hsub⟩

namespace Accepts

variable (h : rules.Accepts granted request)
include h

/-- Every parameter of an accepted request is known. -/
theorem known : ∀ name ∈ Members.names request, rules.get? name ≠ none := by
  intro name hname
  obtain ⟨value, hvalue⟩ := Members.exists_get?_of_mem_names hname
  exact Option.isSome_iff_ne_none.mp (h name value hvalue).declared

/-- No entry finds a fault with it. -/
theorem faultOf?_eq_none {entry : String × ParameterPolicy} (hentry : entry ∈ rules.entries) :
    faultOf? request entry = none :=
  faultOf?_eq_none_iff.mpr fun value hvalue =>
    ((h entry.1 value hvalue).admitted entry.2 hentry).rejected_eq_nil

/-- The caller meets what each entry requires. -/
theorem satisfied {entry : String × ParameterPolicy} (hentry : entry ∈ rules.entries)
    {r : Requirement} (hr : r ∈ requiredBy request entry) : r.satisfiedBy granted = true := by
  obtain ⟨value, hvalue, hrequired⟩ := mem_requiredBy.mp hr
  exact ((h entry.1 value hvalue).admitted entry.2 hentry).satisfied hrequired

/-- **An accepted request passes**: the ruleset knows what it requires, and the caller meets it. -/
theorem exists_requiredScopes :
    ∃ needed, rules.requiredScopes request = .ok needed ∧ needed.MetBy granted := by
  -- the verdict is the union over the entries, and each entry is met by itself
  refine ⟨_, requiredScopes_eq_ok_iff.mpr
    ⟨h.known, fun _ hentry => h.faultOf?_eq_none hentry, fun r => mem_union_requiredBy⟩, ?_⟩
  intro r hr
  obtain ⟨entry, hentry, hrequired⟩ := mem_union_requiredBy.mp hr
  exact h.satisfied hentry hrequired

end Accepts

end Ruleset

end RegistryGate
