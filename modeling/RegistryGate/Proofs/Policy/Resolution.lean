/-
  How a policy resolves the values of a parameter.

  Three things may decide on a text, in this order: its own entry, the entry for everything below
  what stands before its last dot, and the requirements on all other values
  (`ParameterPolicy.Resolves`).  Where none of them is there, the text is not supported
  (`ParameterPolicy.Unsupported`), and neither is a value without a text (`ParameterPolicy.Offends`).
  Both are said without the lookup, which `requirementsFor?_eq_some_iff` and `offends_iff` bring in.
-/
import RegistryGate.Proofs.Policy.Evaluation
import RegistryGate.Proofs.Text.Cutting

namespace RegistryGate

namespace ParameterPolicy

/-! ## Texts with a dot -/

/-- The text is the parent, a dot and one more name. -/
def ChildOf (parent text : String) : Prop :=
  ∃ name, text = parent ++ "." ++ name ∧ '.' ∉ name.toList

theorem childOf_iff {parent text : String} :
    ChildOf parent text ↔ ∃ name, Text.splitLast? '.' text = some (parent, name) := by
  have hdot : String.singleton '.' = "." := rfl
  refine exists_congr fun name => ?_
  rw [Text.splitLast?_eq_some_iff, hdot]

/-- There is at most one parent. -/
theorem ChildOf.unique {parent other text : String} (h : ChildOf parent text)
    (h' : ChildOf other text) : parent = other := by
  obtain ⟨name, hsplit⟩ := childOf_iff.mp h
  obtain ⟨name', hsplit'⟩ := childOf_iff.mp h'
  have hpair := Option.some.inj (hsplit.symm.trans hsplit')
  exact congrArg Prod.fst hpair

/-! ## Texts -/

/-- What a policy requires for a text, and why. -/
inductive Resolves (p : ParameterPolicy) (text : String) : Requirements → Prop where
  /-- The text has an entry. -/
  | entry {needed : Requirements} (h : p.values.get? text = some needed) : Resolves p text needed
  /-- It has none, but there is one for everything below its parent. -/
  | wildcard {parent : String} {needed : Requirements} (hentry : p.values.get? text = none)
      (hon : p.fieldWildcards = true) (hchild : ChildOf parent text)
      (h : p.values.get? (parent ++ ".*") = some needed) : Resolves p text needed
  /-- It has neither, but there are requirements on all other values. -/
  | fallback {needed : Requirements} (hentry : p.values.get? text = none)
      (habove : p.fieldWildcards = true → ∀ parent, ChildOf parent text →
        p.values.get? (parent ++ ".*") = none)
      (h : p.fallback = some needed) : Resolves p text needed

/-- A policy has nothing on a text. -/
structure Unsupported (p : ParameterPolicy) (text : String) : Prop where
  /-- There is no entry for the text. -/
  entry : p.values.get? text = none
  /-- There is none for everything below its parent, or such entries do not count. -/
  above : p.fieldWildcards = true → ∀ parent, ChildOf parent text →
    p.values.get? (parent ++ ".*") = none
  /-- There are no requirements on all other values. -/
  fallback : p.fallback = none

variable {p : ParameterPolicy} {text : String} {needed : Requirements}

theorem wildcardRequirements?_eq_some_iff :
    p.wildcardRequirements? text = some needed ↔
      p.fieldWildcards = true ∧
        ∃ parent, ChildOf parent text ∧ p.values.get? (parent ++ ".*") = some needed := by
  unfold wildcardRequirements?
  split
  · rename_i hon
    rw [Option.bind_eq_some_iff]
    constructor
    · -- the text is split at its last dot, and what comes before is the only parent
      rintro ⟨⟨parent, name⟩, hsplit, hneeded⟩
      exact ⟨hon, parent, childOf_iff.mpr ⟨name, hsplit⟩, hneeded⟩
    · rintro ⟨-, parent, hchild, hneeded⟩
      obtain ⟨name, hsplit⟩ := childOf_iff.mp hchild
      exact ⟨(parent, name), hsplit, hneeded⟩
  · rename_i hoff
    constructor
    · intro h
      cases h
    · rintro ⟨hon, -⟩
      exact absurd hon hoff

theorem wildcardRequirements?_eq_none_iff :
    p.wildcardRequirements? text = none ↔
      (p.fieldWildcards = true → ∀ parent, ChildOf parent text →
        p.values.get? (parent ++ ".*") = none) := by
  rw [Option.eq_none_iff_forall_ne_some]
  constructor
  · intro h hon parent hchild
    rw [Option.eq_none_iff_forall_ne_some]
    intro needed hneeded
    exact h needed (wildcardRequirements?_eq_some_iff.mpr ⟨hon, parent, hchild, hneeded⟩)
  · intro h needed hneeded
    obtain ⟨hon, parent, hchild, hsome⟩ := wildcardRequirements?_eq_some_iff.mp hneeded
    rw [h hon parent hchild] at hsome
    cases hsome

/-- **The lookup of a text** finds what the policy requires for it. -/
theorem requirementsFor?_eq_some_iff :
    p.requirementsFor? text = some needed ↔ p.Resolves text needed := by
  unfold requirementsFor?
  rw [Option.or_eq_some_iff, Option.or_eq_some_iff, Option.or_eq_none_iff,
    wildcardRequirements?_eq_some_iff, wildcardRequirements?_eq_none_iff]
  constructor
  · -- the three sources are asked in turn, each when those before it have nothing
    rintro ((hentry | ⟨hnone, hon, parent, hchild, hsome⟩) | ⟨⟨hnone, habove⟩, hfallback⟩)
    · exact .entry hentry
    · exact .wildcard hnone hon hchild hsome
    · exact .fallback hnone habove hfallback
  · rintro (hentry | ⟨hnone, hon, hchild, hsome⟩ | ⟨hnone, habove, hfallback⟩)
    · exact Or.inl (Or.inl hentry)
    · exact Or.inl (Or.inr ⟨hnone, hon, _, hchild, hsome⟩)
    · exact Or.inr ⟨⟨hnone, habove⟩, hfallback⟩

/-- It finds nothing where the policy has nothing on the text. -/
theorem requirementsFor?_eq_none_iff : p.requirementsFor? text = none ↔ p.Unsupported text := by
  unfold requirementsFor?
  rw [Option.or_eq_none_iff, Option.or_eq_none_iff, wildcardRequirements?_eq_none_iff]
  constructor
  · rintro ⟨⟨hentry, habove⟩, hfallback⟩
    exact ⟨hentry, habove, hfallback⟩
  · intro h
    exact ⟨⟨h.entry, h.above⟩, h.fallback⟩

/-- The policy supports a value, and its requirements are met exactly by the callers of whom the
condition holds. -/
def Demands (p : ParameterPolicy) (value : String) (condition : NameSet → Prop) : Prop :=
  ∃ needed, p.requirementsFor? value = some needed ∧ ∀ granted, needed.MetBy granted ↔ condition granted

theorem Demands.metBy_iff {value : String} {condition : NameSet → Prop} {granted : NameSet}
    (h : p.Demands value condition) (hneeded : p.requirementsFor? value = some needed) :
    needed.MetBy granted ↔ condition granted := by
  obtain ⟨found, hfound, hiff⟩ := h
  obtain rfl := Option.some.inj (hneeded.symm.trans hfound)
  exact hiff granted

/-! ## Elements -/

/-- The element is not supported: it is the absent value or a container, or the policy has nothing
on its text. -/
inductive Offends (p : ParameterPolicy) : Json → Prop where
  | null : Offends p .null
  | array (items : List Json) : Offends p (.array items)
  | object (members : Payload) : Offends p (.object members)
  | text {element : Json} {text : String} (htext : element.scalarText? = some text)
      (h : p.Unsupported text) : Offends p element

theorem offends_iff {element : Json} : p.Offends element ↔ p.requirementsOn? element = none := by
  constructor
  · -- only texts, truth values and numbers have a text to look up
    rintro (- | ⟨items⟩ | ⟨members⟩ | ⟨htext, hunsupported⟩)
    · rfl
    · rfl
    · rfl
    · rw [requirementsOn?, htext]
      exact requirementsFor?_eq_none_iff.mpr hunsupported
  · intro h
    cases element with
    | null => exact .null
    | array items => exact .array items
    | object members => exact .object members
    | string s => exact .text rfl (requirementsFor?_eq_none_iff.mp h)
    | bool b => exact .text rfl (requirementsFor?_eq_none_iff.mp h)
    | number n => exact .text rfl (requirementsFor?_eq_none_iff.mp h)

instance (p : ParameterPolicy) : DecidablePred p.Offends := fun _ =>
  decidable_of_iff _ offends_iff.symm

/-- The rejected texts are those of the offending elements, in the order of the request. -/
theorem rejected_eq (p : ParameterPolicy) (value : Json) :
    p.rejected value = (value.elements.filter fun e => p.Offends e).map Json.displayText := by
  unfold rejected
  congr 1
  refine List.filter_congr fun e _ => ?_
  rw [Bool.eq_iff_iff, Option.isNone_iff_eq_none, decide_eq_true_eq, offends_iff]

/-- There are some exactly when an element offends. -/
theorem rejected_ne_nil_iff {value : Json} :
    p.rejected value ≠ [] ↔ ∃ element ∈ value.elements, p.Offends element := by
  rw [rejected_eq, Ne, List.map_eq_nil_iff, List.filter_eq_nil_iff]
  push Not
  refine exists_congr fun element => and_congr_right fun _ => ?_
  rw [decide_eq_true_eq]

/-- A text that is not supported is rejected wherever it stands. -/
theorem mem_rejected {element value : Json} (hin : element ∈ value.elements)
    (htext : element.scalarText? = some text) (h : p.Unsupported text) :
    text ∈ p.rejected value := by
  rw [rejected_eq]
  refine List.mem_map.mpr ⟨element, List.mem_filter.mpr ⟨hin, ?_⟩, ?_⟩
  · exact decide_eq_true (Offends.text htext h)
  · rw [Json.displayText, htext]
    rfl

end ParameterPolicy

end RegistryGate
