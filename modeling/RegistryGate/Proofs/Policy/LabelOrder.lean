/-
  The order of requirement texts.

  A set of requirements is kept in the order of the requirements: single scopes come first, by name,
  then the any-of requirements, by their lists of names, then the unattainable one.  Their texts are
  listed in the order of the set, so it depends on the set whether the texts ascend.  `ReadsInOrder`
  says of which sets they do: between two kinds the texts have to agree with the order of the kinds,
  and among any-of requirements no list of names may overtake another when it is joined.

  What is missing of a set is a set of requirements again, so that the same condition decides about
  both lists of a denial (`ascend_of_ensureGranted`).
-/
import RegistryGate.Proofs.Policy.Evaluation
import RegistryGate.Proofs.Text.JoinedOrder

namespace RegistryGate

/-- Texts in ascending order, where a text may be repeated. -/
def Text.Ascend (texts : List String) : Prop := texts.Pairwise (· ≤ ·)

instance (texts : List String) : Decidable (Text.Ascend texts) :=
  inferInstanceAs (Decidable (texts.Pairwise (· ≤ ·)))

/-! ## Members in their order -/

/-- What holds along an ascending list holds of any two of its elements, the smaller one first. -/
theorem Ascending.pairwise_iff {α : Type} [Ord α] [Std.TransOrd α] {xs : List α}
    (h : Ascending xs) {related : α → α → Prop} :
    xs.Pairwise related ↔ ∀ a ∈ xs, ∀ b ∈ xs, compare a b = .lt → related a b := by
  constructor
  · intro hrelated
    have hself : ∀ a ∈ xs, compare a a = .lt → related a a := fun a _ hlt =>
      absurd hlt (by simp)
    -- elements that are met in the other order are not the smaller ones first
    have hflip : xs.Pairwise fun a b => compare b a = .lt → related b a :=
      h.imp fun hlt hgt => absurd hgt (Std.OrientedCmp.not_lt_of_lt hlt)
    have halong : xs.Pairwise fun a b => compare a b = .lt → related a b := by
      refine hrelated.imp fun hab => ?_
      exact fun _ => hab
    have hforall := List.Pairwise.forall_of_forall_of_flip hself halong hflip
    exact fun a ha b hb => hforall ha hb
  · exact fun hall => h.imp_of_mem fun ha hb hlt => hall _ ha _ hb hlt

theorem compare_text_eq_lt_iff {s t : String} : compare s t = .lt ↔ s < t :=
  compareOfLessAndEq_eq_lt

/-- Lists of texts are compared text by text. -/
theorem compare_texts_eq_lt_iff {xs ys : List String} : compare xs ys = .lt ↔ xs < ys := by
  -- on the lists: the first texts decide, or the rests if they are equal
  induction xs generalizing ys with
  | nil => cases ys <;> simp
  | cons x xs ih =>
    cases ys with
    | nil => simp
    | cons y ys =>
      rw [List.compare_cons_cons, Ordering.then_eq_lt, List.cons_lt_cons_iff, ih,
        compare_text_eq_lt_iff, Std.compare_eq_iff_eq]

namespace Requirement

/-! ## The order of requirements -/

section

variable {name other : String} {names others : NameSet}

/-- Requirements are in the order of their keys. -/
theorem compare_eq_lt_iff_sortKey {r r' : Requirement} :
    compare r r' = .lt ↔ r.sortKey < r'.sortKey := by
  rw [compare_eq, compare_texts_eq_lt_iff]

theorem compare_scope_scope : compare (scope name) (scope other) = .lt ↔ name < other := by
  rw [compare_eq_lt_iff_sortKey, sortKey, sortKey, List.cons_lt_cons_iff, List.cons_lt_cons_iff]
  simp

theorem compare_scope_anyOf : compare (scope name) (anyOf names) = .lt :=
  compare_eq_lt_iff_sortKey.mpr (List.cons_lt_cons_iff.mpr (Or.inl (by decide)))

theorem compare_anyOf_anyOf :
    compare (anyOf names) (anyOf others) = .lt ↔ names.toList < others.toList := by
  rw [compare_eq_lt_iff_sortKey, sortKey, sortKey, List.cons_lt_cons_iff]
  simp

/-- The unattainable requirement comes after every other one. -/
theorem compare_unattainable {r : Requirement} (h : r ≠ unattainable) :
    compare r unattainable = .lt := by
  cases r with
  | scope | anyOf =>
    exact compare_eq_lt_iff_sortKey.mpr (List.cons_lt_cons_iff.mpr (Or.inl (by decide)))
  | unattainable => exact absurd rfl h

/-- A requirement comes before another one: of the same kind by the names, and else by the kind. -/
inductive Before : Requirement → Requirement → Prop where
  /-- Single scopes by their names. -/
  | scopes {name other : String} (h : name < other) : Before (scope name) (scope other)
  /-- A single scope before an any-of requirement. -/
  | scopeAnyOf {name : String} {names : NameSet} : Before (scope name) (anyOf names)
  /-- Any-of requirements by their lists of names. -/
  | anyOfs {names others : NameSet} (h : names.toList < others.toList) :
      Before (anyOf names) (anyOf others)
  /-- The unattainable requirement last. -/
  | unattainable {r : Requirement} (h : r ≠ unattainable) : Before r unattainable

theorem compare_eq_lt_iff {r r' : Requirement} : compare r r' = .lt ↔ Before r r' := by
  constructor
  · intro hlt
    -- nine pairs of kinds; where the kinds differ, the first entry of the key decides
    cases r with
    | scope =>
      cases r' with
      | scope => exact .scopes (compare_scope_scope.mp hlt)
      | anyOf => exact .scopeAnyOf
      | unattainable => exact .unattainable (by simp)
    | anyOf =>
      cases r' with
      | scope => exact absurd hlt (Std.OrientedCmp.not_lt_of_lt compare_scope_anyOf)
      | anyOf => exact .anyOfs (compare_anyOf_anyOf.mp hlt)
      | unattainable => exact .unattainable (by simp)
    | unattainable =>
      cases r' with
      | scope | anyOf =>
        exact absurd hlt (Std.OrientedCmp.not_lt_of_lt (compare_unattainable (by simp)))
      | unattainable => exact absurd hlt (by simp)
  · intro hbefore
    cases hbefore with
    | scopes h => exact compare_scope_scope.mpr h
    | scopeAnyOf => exact compare_scope_anyOf
    | anyOfs h => exact compare_anyOf_anyOf.mpr h
    | unattainable h => exact compare_unattainable h

end

end Requirement

namespace Requirements

/-! ## Which sets have their texts in order -/

/-- The texts of the requirements are in the order of the requirements themselves. -/
structure ReadsInOrder (needed : Requirements) : Prop where
  /-- No single scope is greater than the text of an any-of requirement. -/
  scopes : ∀ name names, Requirement.scope name ∈ needed → Requirement.anyOf names ∈ needed →
    name ≤ (Requirement.anyOf names).label
  /-- No any-of requirement overtakes another one when its names are joined. -/
  anyOfs : ∀ names others, Requirement.anyOf names ∈ needed → Requirement.anyOf others ∈ needed →
    ¬ Text.Overtakes '|' names.toList others.toList
  /-- Where there is the unattainable requirement, no text is greater than its text. -/
  unattainable : Requirement.unattainable ∈ needed →
    ∀ r ∈ needed, r.label ≤ Requirement.unattainable.label

variable {needed : Requirements}

/-- The texts of a set ascend when any two requirements have their texts in their own order. -/
theorem ascend_labels_iff : Text.Ascend needed.labels ↔
    ∀ r ∈ needed, ∀ r' ∈ needed, r.Before r' → r.label ≤ r'.label := by
  rw [Text.Ascend, labels, List.pairwise_map, needed.ascending.pairwise_iff]
  simp only [Requirement.compare_eq_lt_iff, SortedSet.mem_toList]

/-- **Which requirement texts ascend.** -/
theorem ascend_labels_iff_readsInOrder : Text.Ascend needed.labels ↔ needed.ReadsInOrder := by
  rw [ascend_labels_iff]
  constructor
  · intro hordered
    exact
      { scopes := fun name names hname hnames => hordered _ hname _ hnames .scopeAnyOf
        anyOfs := fun names others hnames hothers hover =>
          absurd hover.joinWith_lt
            (String.not_lt.mpr (hordered _ hnames _ hothers (.anyOfs hover.lt)))
        unattainable := fun hlast r hr => by
          by_cases hsame : r = .unattainable
          · subst hsame
            exact String.le_refl _
          · exact hordered r hr _ hlast (.unattainable hsame) }
  · intro hreads r hr r' hr' hbefore
    cases hbefore with
    | scopes hlt => exact Std.le_of_lt hlt
    | scopeAnyOf => exact hreads.scopes _ _ hr hr'
    | anyOfs hlt =>
      -- if the texts went backwards, one list would overtake the other
      refine String.not_lt.mp fun hback => ?_
      exact hreads.anyOfs _ _ hr hr' (Text.overtakes_iff.mpr ⟨hlt, hback⟩)
    | unattainable => exact hreads.unattainable hr' r hr

instance (needed : Requirements) : Decidable needed.ReadsInOrder :=
  decidable_of_iff _ ascend_labels_iff_readsInOrder

example : ReadsInOrder (SortedSet.ofList [.scope "api", .anyOfList ["set-1", "set-2"]]) := by
  decide +kernel

example : ¬ ReadsInOrder (SortedSet.ofList [.scope "api", .unattainable]) := by decide +kernel

/-! ## Denials -/

variable {granted : NameSet}

/-- Nothing is listed as missing where everything is satisfied. -/
theorem labels_missing_of_metBy (h : needed.MetBy granted) :
    labels (needed.missing granted) = [] := by
  rw [labels, List.map_eq_nil_iff]
  exact List.isEmpty_iff.mp (missing_isEmpty_iff.mpr h)

/-- Both lists of a denial are the texts of sets: of what is required, and of what is missing. -/
theorem ascend_of_ensureGranted {all missing : List String}
    (h : needed.ensureGranted granted = .error (.permissionDenied all missing)) :
    (Text.Ascend all ↔ needed.ReadsInOrder) ∧
      (Text.Ascend missing ↔ ReadsInOrder (needed.missing granted)) := by
  obtain ⟨hlists, -⟩ := of_ensureGranted_eq_error h
  cases hlists
  exact ⟨ascend_labels_iff_readsInOrder, ascend_labels_iff_readsInOrder⟩

end Requirements

end RegistryGate
