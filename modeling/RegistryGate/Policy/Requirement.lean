/-
  Scope requirements.

  A caller holds a set of scopes.  A requirement is met by one named scope, by any one of several
  scopes, or by none at all; a set of requirements is met when each of its members is.  The order of
  a requirement set puts single scopes first, by name, then the any-of requirements, by their
  scopes, then the unattainable one.
-/
import RegistryGate.Ordered.SortedSet
import RegistryGate.Text.Split

namespace RegistryGate

/-- What a caller must hold. -/
inductive Requirement where
  /-- The named scope. -/
  | scope (name : String)
  /-- Any one of the scopes; at least two of them when built by `Requirement.anyOfList`. -/
  | anyOf (names : NameSet)
  /-- Nothing that a caller can hold. -/
  | unattainable
deriving DecidableEq

namespace Requirement

/-- The requirement met by any of the scopes: of no scope it is unattainable, of one scope it is
that scope. -/
def ofNames (names : NameSet) : Requirement :=
  match names.toList with
  | [] => unattainable
  | [name] => scope name
  | _ => anyOf names

/-- The requirement met by any of the listed scopes. -/
def anyOfList (names : List String) : Requirement := ofNames (SortedSet.ofList names)

/-- Holds when the granted scopes meet the requirement. -/
def satisfiedBy (granted : NameSet) : Requirement → Bool
  | scope name => granted.contains name
  | anyOf names => names.toList.any granted.contains
  | unattainable => false

/-- The text that stands for the requirement in errors and audit records. -/
def label : Requirement → String
  | scope name => name
  | anyOf names => Text.joinWith "|" names.toList
  | unattainable => "<unattainable>"

/-! ## The order of requirements -/

/-- What the order compares: the kind, then the names. -/
def sortKey : Requirement → List String
  | scope name => ["0", name]
  | anyOf names => "1" :: names.toList
  | unattainable => ["2"]

instance : Ord Requirement := ⟨fun a b => compare a.sortKey b.sortKey⟩

theorem sortKey_injective {a b : Requirement} (h : a.sortKey = b.sortKey) : a = b := by
  cases a <;> cases b <;> simp_all [sortKey]
  exact SortedSet.ext h

theorem compare_eq (a b : Requirement) : compare a b = compare a.sortKey b.sortKey := rfl

instance : Std.TransOrd Requirement where
  eq_swap {a b} := by rw [compare_eq, compare_eq]; exact Std.OrientedCmp.eq_swap
  isLE_trans {a b c} h h' := by
    rw [compare_eq] at *
    exact Std.TransCmp.isLE_trans h h'

instance : Std.LawfulEqOrd Requirement where
  compare_self {a} := by rw [compare_eq]; exact Std.ReflCmp.compare_self
  eq_of_compare {a b} h := by
    rw [compare_eq] at h
    exact sortKey_injective (Std.LawfulEqOrd.eq_of_compare h)

end Requirement

/-- A set of requirements; the empty one is met by every caller. -/
abbrev Requirements := SortedSet Requirement

namespace Requirements

/-- The set that asks for one scope. -/
def ofScope (name : String) : Requirements := SortedSet.singleton (.scope name)

/-- The requirements that the granted scopes do not meet. -/
def missing (granted : NameSet) (needed : Requirements) : Requirements :=
  needed.filter fun r => !r.satisfiedBy granted

/-- The texts of the requirements, in the order of the set. -/
def labels (needed : Requirements) : List String := needed.toList.map Requirement.label

end Requirements

end RegistryGate
