/-
  Rulesets as ordered maps.

  A ruleset is made by declaring parameters one after the other, and a parameter may be declared
  again.  The ruleset keeps a list that it searches from the front, so what it knows about a parameter
  rests on each parameter being on it once.  What the list is can be said in terms of the declarations
  alone (`Reflects`): the parameters stand in the order in which they were first declared, and each has
  the policy that was declared for it last.  One more declaration keeps this up (`Reflects.insert`), so
  it holds after any number of them (`reflects_ofDeclarations`).
-/
import Mathlib.Data.List.Induction
import RegistryGate.Proofs.Policy.Extension

namespace RegistryGate.Ruleset

/-! ## Declarations -/

/-- A parameter with the policy that is declared for it. -/
abbrev Declaration := String × ParameterPolicy

/-- The ruleset that declarations make, one after the other. -/
def ofDeclarations (declarations : List Declaration) : Ruleset :=
  declarations.foldl (fun rules declaration => rules.insert declaration.1 declaration.2) empty

/-- One parameter was declared at a time when the other one was not. -/
def DeclaredBefore (declarations : List Declaration) (first second : String) : Prop :=
  ∃ before policy after, declarations = before ++ (first, policy) :: after ∧
    second ≠ first ∧ ∀ earlier ∈ before, earlier.1 ≠ second

/-- The policy was declared for the parameter, and none was after it. -/
def LastDeclared (declarations : List Declaration) (name : String) (policy : ParameterPolicy) : Prop :=
  ∃ before after, declarations = before ++ (name, policy) :: after ∧ ∀ later ∈ after, later.1 ≠ name

variable {declarations : List Declaration} {name other : String} {policy last : ParameterPolicy}

/-- What was declared first stays so. -/
theorem DeclaredBefore.concat (h : DeclaredBefore declarations name other)
    (declaration : Declaration) : DeclaredBefore (declarations ++ [declaration]) name other := by
  obtain ⟨before, policy, after, rfl, hne, hbefore⟩ := h
  exact ⟨before, policy, after ++ [declaration], by simp, hne, hbefore⟩

/-- What was declared comes before what is declared for the first time. -/
theorem declaredBefore_concat (h : (name, policy) ∈ declarations)
    (hnew : ∀ earlier ∈ declarations, earlier.1 ≠ other) (last : ParameterPolicy) :
    DeclaredBefore (declarations ++ [(other, last)]) name other := by
  obtain ⟨before, after, rfl⟩ := List.append_of_mem h
  refine ⟨before, policy, after ++ [(other, last)], by simp, (hnew _ h).symm, fun earlier hearlier => ?_⟩
  exact hnew earlier (List.mem_append_left _ hearlier)

/-- One more declaration is the last one for its parameter, and no other parameter has a new last
one. -/
theorem lastDeclared_concat_iff :
    LastDeclared (declarations ++ [(name, last)]) other policy ↔
      (name = other ∧ last = policy) ∨ (name ≠ other ∧ LastDeclared declarations other policy) := by
  constructor
  · rintro ⟨before, after, heq, hafter⟩
    rcases List.eq_nil_or_concat after with rfl | ⟨more, declaration, rfl⟩
    · obtain ⟨-, hlast⟩ := List.append_inj' heq rfl
      cases hlast
      exact Or.inl ⟨rfl, rfl⟩
    · -- the declaration at the end is one of those behind the last one of the parameter
      rw [List.concat_eq_append] at heq hafter
      rw [← List.cons_append, ← List.append_assoc] at heq
      obtain ⟨rfl, hlast⟩ := List.append_inj' heq rfl
      cases hlast
      refine Or.inr ⟨hafter (name, last) (by simp), before, more, rfl, fun later hlater => ?_⟩
      exact hafter later (List.mem_append_left _ hlater)
  · rintro (⟨rfl, rfl⟩ | ⟨hne, before, after, rfl, hafter⟩)
    · exact ⟨declarations, [], rfl, fun _ hlater => absurd hlater List.not_mem_nil⟩
    · refine ⟨before, after ++ [(name, last)], by simp, fun later hlater => ?_⟩
      rcases List.mem_append.mp hlater with hmem | hmem
      · exact hafter later hmem
      · rw [List.mem_singleton.mp hmem]
        exact hne

/-! ## What a ruleset is made of -/

/-- The ruleset is what the declarations say. -/
structure Reflects (rules : Ruleset) (declarations : List Declaration) : Prop where
  /-- A parameter is listed when it was declared. -/
  declared : ∀ name, name ∈ rules.parameters ↔ ∃ policy, (name, policy) ∈ declarations
  /-- The parameters stand in the order of their first declarations. -/
  ordered : rules.parameters.Pairwise (DeclaredBefore declarations)
  /-- Each parameter has the policy that was declared for it last. -/
  policies : ∀ name policy,
    rules.get? name = some policy ↔ LastDeclared declarations name policy

theorem reflects_empty : empty.Reflects [] where
  declared _ := iff_of_false List.not_mem_nil fun ⟨_, hmem⟩ => absurd hmem List.not_mem_nil
  ordered := List.Pairwise.nil
  policies _ _ := iff_of_false (fun h => nomatch h) fun ⟨before, after, heq, _⟩ => by
    have hlength := congrArg List.length heq
    simp at hlength

/-- **One more declaration.**  The parameter that is declared now has the new policy.  The last
declaration of any other one is an earlier declaration, and it is still the last one, since what was
added behind it has another name. -/
theorem Reflects.insert {rules : Ruleset} (h : rules.Reflects declarations) (name : String)
    (policy : ParameterPolicy) :
    (rules.insert name policy).Reflects (declarations ++ [(name, policy)]) where
  declared other := by
    rw [mem_parameters_insert, h.declared]
    constructor
    · rintro (rfl | ⟨known, hknown⟩)
      · exact ⟨policy, List.mem_append_right _ (List.mem_singleton_self _)⟩
      · exact ⟨known, List.mem_append_left _ hknown⟩
    · rintro ⟨known, hknown⟩
      rcases List.mem_append.mp hknown with hold | hlast
      · exact Or.inr ⟨known, hold⟩
      · cases List.mem_singleton.mp hlast
        exact Or.inl rfl
  ordered := by
    have hordered : rules.parameters.Pairwise (DeclaredBefore (declarations ++ [(name, policy)])) :=
      h.ordered.imp fun hbefore => hbefore.concat (name, policy)
    rw [parameters_insert]
    split
    · exact hordered
    · rename_i hnew
      refine List.pairwise_append.mpr ⟨hordered, List.pairwise_singleton _ name, ?_⟩
      intro first hfirst second hsecond
      obtain rfl := List.mem_singleton.mp hsecond
      obtain ⟨known, hknown⟩ := (h.declared first).mp hfirst
      refine declaredBefore_concat hknown (fun earlier hearlier heq => hnew ?_) policy
      exact (h.declared second).mpr ⟨earlier.2, heq ▸ hearlier⟩
  policies other found := by
    rw [get?_insert, lastDeclared_concat_iff]
    split
    · rename_i heq
      rw [Option.some_inj, and_iff_right heq.symm, or_iff_left fun hne => hne.1 heq.symm]
    · -- the last declaration of any other parameter is an earlier one
      rename_i hne
      rw [h.policies, and_iff_right (Ne.symm hne), or_iff_right fun heq => hne heq.1.symm]

/-- **Any number of declarations.**  The induction is on the last one. -/
theorem reflects_ofDeclarations (declarations : List Declaration) :
    (ofDeclarations declarations).Reflects declarations := by
  induction declarations using List.reverseRecOn with
  | nil => exact reflects_empty
  | append_singleton declarations declaration ih =>
    rw [ofDeclarations, List.foldl_append]
    exact ih.insert declaration.1 declaration.2

/-! ## The ruleset as a map -/

variable {rules : Ruleset}

theorem get?_eq_none_iff : rules.get? name = none ↔ name ∉ rules.parameters :=
  Members.get?_eq_none_iff

/-- No parameter was declared before itself, so none is listed twice. -/
theorem Reflects.distinct (h : rules.Reflects declarations) : rules.Distinct :=
  h.ordered.imp fun ⟨_, _, _, _, hne, _⟩ => Ne.symm hne

/-- **A ruleset is an ordered map.**  Whatever is declared in whatever order, every parameter that was
declared is listed once, in the order of the first declarations; it has the policy of its last
declaration, and parameters that were not declared have none.  Declaring a known parameter again moves
none, and changes no policy but its own. -/
theorem ordered_map (declarations : List Declaration) :
    (ofDeclarations declarations).parameters.Nodup ∧
    (∀ name, name ∈ (ofDeclarations declarations).parameters ↔
      ∃ policy, (name, policy) ∈ declarations) ∧
    (ofDeclarations declarations).parameters.Pairwise (DeclaredBefore declarations) ∧
    (∀ name policy, (ofDeclarations declarations).get? name = some policy ↔
      LastDeclared declarations name policy) ∧
    (∀ name, (ofDeclarations declarations).get? name = none ↔
      ∀ policy, (name, policy) ∉ declarations) ∧
    ∀ name ∈ (ofDeclarations declarations).parameters, ∀ policy,
      ((ofDeclarations declarations).insert name policy).parameters
        = (ofDeclarations declarations).parameters ∧
      ((ofDeclarations declarations).insert name policy).get? name = some policy ∧
      ∀ other, other ≠ name → ((ofDeclarations declarations).insert name policy).get? other
        = (ofDeclarations declarations).get? other := by
  have hreflects := reflects_ofDeclarations declarations
  refine ⟨hreflects.distinct, hreflects.declared, hreflects.ordered, hreflects.policies,
    fun name => ?_, fun name hname policy => ⟨?_, ?_, fun other hother => ?_⟩⟩
  · rw [get?_eq_none_iff, hreflects.declared, not_exists]
  · rw [parameters_insert, if_pos hname]
  · rw [get?_insert, if_pos rfl]
  · rw [get?_insert, if_neg hother]

/-- The second policy of `type` takes the place of the first. -/
theorem ordered_map_of_replaced :
    let rules := ofDeclarations
      [("type", ParameterPolicy.allowAll), ("fields", .empty), ("type", .forAllValues "zoek")]
    rules.parameters = ["type", "fields"] ∧
      rules.get? "type" = some (.forAllValues "zoek") ∧
      "fields" ∈ rules.parameters ∧ (rules.insert "fields" .allowAll).parameters = rules.parameters := by
  intro rules
  have hfields : "fields" ∈ rules.parameters := by decide
  obtain ⟨-, -, -, hpolicies, -, hinsert⟩ := ordered_map
    [("type", ParameterPolicy.allowAll), ("fields", .empty), ("type", .forAllValues "zoek")]
  obtain ⟨hplaces, -⟩ := hinsert "fields" hfields .allowAll
  refine ⟨rfl, (hpolicies _ _).mpr ⟨[("type", .allowAll), ("fields", .empty)], [], rfl, ?_⟩, hfields,
    hplaces⟩
  exact fun _ hlater => absurd hlater List.not_mem_nil

end RegistryGate.Ruleset
