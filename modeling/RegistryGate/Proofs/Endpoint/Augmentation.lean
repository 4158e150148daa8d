/-
  What is filled in before a request is judged.

  Each augmentation gives a caller at most one value for one parameter (`Augmentation.Gives`).  The
  augmentations of a variant work one after the other on a request that changes under them, but what
  comes out is known in advance: a parameter that was sent is kept, and one that was not gets the
  value of the first augmentation that gives one (`Variant.get?_augment`).  After that every
  augmentation finds its parameter there, so that filling in once more changes nothing.
-/
import Mathlib.Logic.Basic
import RegistryGate.Endpoint.Basic
import RegistryGate.Proofs.Ordered.Lookup

namespace RegistryGate

/-! ## One augmentation -/

namespace Augmentation

/-- What an augmentation gives to a caller: a default value, unless the caller holds the scope that
lifts it, or the flag of a scope that the caller holds. -/
inductive Gives (granted : NameSet) : Augmentation → String → Json → Prop where
  /-- A default value that is not lifted. -/
  | defaultValue {parameter : String} {value : Json} {unlessScope : Option String} :
    (∀ scope, unlessScope = some scope → scope ∉ granted) →
    Gives granted (.defaultValue parameter value unlessScope) parameter value
  /-- A flag that is enabled. -/
  | enableFlag {parameter scope : String} : scope ∈ granted →
    Gives granted (.enableFlag parameter scope) parameter (.bool true)

variable {granted : NameSet} {a : Augmentation} {name : String} {value : Json}

theorem gives_iff : a.Gives granted name value ↔
    a.parameter = name ∧ a.valueFor? granted = some value := by
  constructor
  · intro h
    cases h with
    | @defaultValue _ _ unlessScope hlifted =>
      refine ⟨rfl, if_neg ?_⟩
      rw [Option.any_eq_true]
      rintro ⟨scope, hscope, hheld⟩
      exact hlifted scope hscope (SortedSet.contains_iff.mp hheld)
    | enableFlag hheld => exact ⟨rfl, if_pos (SortedSet.contains_iff.mpr hheld)⟩
  · rintro ⟨rfl, hvalue⟩
    cases a with
    | defaultValue parameter found unlessScope =>
      rw [valueFor?] at hvalue
      split at hvalue
      · cases hvalue
      · rename_i hlifted
        cases hvalue
        refine .defaultValue fun scope hscope hheld => hlifted ?_
        rw [hscope]
        exact SortedSet.contains_iff.mpr hheld
    | enableFlag parameter scope =>
      rw [valueFor?] at hvalue
      split at hvalue
      · rename_i hheld
        cases hvalue
        exact .enableFlag (SortedSet.contains_iff.mp hheld)
      · cases hvalue

/-- What is given under a name, as the look-up of a name asks for it. -/
theorem eq_some_iff_gives :
    (if a.parameter = name then a.valueFor? granted else none) = some value ↔
      a.Gives granted name value := by
  rw [gives_iff]
  by_cases hname : a.parameter = name
  · rw [if_pos hname]
    exact (and_iff_right hname).symm
  · rw [if_neg hname]
    exact iff_of_false (fun h => nomatch h) fun h => hname h.1

theorem eq_none_iff_gives_nothing :
    (if a.parameter = name then a.valueFor? granted else none) = none ↔
      ∀ value, ¬ a.Gives granted name value := by
  rw [Option.eq_none_iff_forall_not_mem]
  exact forall_congr' fun _ => not_congr eq_some_iff_gives

theorem get?_apply (a : Augmentation) (granted : NameSet) (request : Payload)
    (name : String) :
    Members.get? name (a.apply granted request)
      = (Members.get? name request).or (if a.parameter = name then a.valueFor? granted else none) := by
  unfold Augmentation.apply
  -- nothing is given, or something under one name; then it counts whether that name was sent
  cases hvalue : a.valueFor? granted with
  | none => simp
  | some value =>
    by_cases hname : a.parameter = name
    · subst hname
      cases hsent : Members.get? a.parameter request with
      | none => simp [Members.contains, hsent, Members.get?_insert_self]
      | some sent => simp [Members.contains, hsent]
    · simp only [if_neg hname, Option.or_none]
      split
      · rfl
      · exact Members.get?_insert_of_ne (Ne.symm hname) value request

/-- Nothing is filled in where the parameter is there. -/
theorem apply_eq_self {request : Payload}
    (h : ∀ value, a.valueFor? granted = some value → request.contains a.parameter = true) :
    a.apply granted request = request := by
  unfold apply
  split
  · rename_i value hvalue
    rw [if_pos (h value hvalue)]
  · rfl

/-- A request keeps its members, whatever is filled in between them. -/
theorem sublist_apply (a : Augmentation) (granted : NameSet) (request : Payload) :
    request.Sublist (a.apply granted request) := by
  unfold apply
  split
  · split
    · exact List.Sublist.refl request
    · rename_i habsent
      exact Members.sublist_insert
        (Members.get?_eq_none_iff.mp (Members.get?_eq_none_of_not_contains habsent)) _
  · exact List.Sublist.refl request

end Augmentation

/-! ## All augmentations of a variant -/

namespace Variant

/-- **Filling in only adds.**  A parameter that was sent is kept; one that was not gets the value of
the first augmentation for it that applies to the caller.  A value that an earlier augmentation has
put in counts as sent for a later one. -/
theorem get?_augment (v : Variant) (granted : NameSet) (request : Payload) (name : String) :
    Members.get? name (v.augment granted request)
      = (Members.get? name request).or
          (v.augmentations.findSome? fun a =>
            if a.parameter = name then a.valueFor? granted else none) := by
  unfold Variant.augment
  generalize v.augmentations = steps
  -- by induction on the augmentations, for the request that the ones before have left
  induction steps generalizing request with
  | nil => simp
  | cons a rest ih =>
    rw [List.foldl_cons, ih, Augmentation.get?_apply, Option.or_assoc, List.findSome?_cons]
    cases (if a.parameter = name then a.valueFor? granted else none) <;> simp

theorem sublist_augment (v : Variant) (granted : NameSet) (request : Payload) :
    request.Sublist (v.augment granted request) := by
  unfold augment
  generalize v.augmentations = steps
  induction steps generalizing request with
  | nil => exact List.Sublist.refl request
  | cons a rest ih => exact (a.sublist_apply granted request).trans (ih _)

/-- Where every augmentation finds its parameter, nothing is filled in.  Each one in turn sees the
same request as the first. -/
theorem augment_eq_self {v : Variant} {granted : NameSet} {request : Payload}
    (h : ∀ a ∈ v.augmentations, ∀ value, a.valueFor? granted = some value →
      request.contains a.parameter = true) : v.augment granted request = request := by
  unfold augment
  generalize v.augmentations = steps at h
  induction steps with
  | nil => rfl
  | cons a rest ih =>
    obtain ⟨ha, hrest⟩ := List.forall_mem_cons.mp h
    rw [List.foldl_cons, Augmentation.apply_eq_self ha, ih hrest]

/-- After filling in, the parameter of every augmentation that gives something is there. -/
theorem contains_augment {v : Variant} {granted : NameSet} {a : Augmentation} {value : Json}
    (ha : a ∈ v.augmentations) (hvalue : a.valueFor? granted = some value) (request : Payload) :
    (v.augment granted request).contains a.parameter = true := by
  rw [Members.contains, get?_augment, Option.isSome_or, Bool.or_eq_true]
  refine Or.inr (List.findSome?_isSome_iff.mpr ⟨a, ha, ?_⟩)
  rw [if_pos rfl, hvalue]
  rfl

/-- **Filling in only adds, the first augmentation wins, and once is enough.**  All members that were
sent stay as they are.  A parameter is added exactly when it was not sent and some augmentation gives
the caller a value for it, and then it has the value of the first one that does.  Filling in a second
time changes nothing. -/
theorem augment_exact (v : Variant) (granted : NameSet) (request : Payload) :
    request.Sublist (v.augment granted request) ∧
    (∀ name value, Members.get? name request = some value →
      Members.get? name (v.augment granted request) = some value) ∧
    (∀ name, name ∉ Members.names request →
      (name ∈ Members.names (v.augment granted request) ↔
        ∃ a ∈ v.augmentations, ∃ value, a.Gives granted name value) ∧
      ∀ value, Members.get? name (v.augment granted request) = some value ↔
        ∃ before a after, v.augmentations = before ++ a :: after ∧ a.Gives granted name value ∧
          ∀ earlier ∈ before, ∀ other, ¬ earlier.Gives granted name other) ∧
    v.augment granted (v.augment granted request) = v.augment granted request := by
  refine ⟨v.sublist_augment granted request, ?_, ?_, ?_⟩
  · intro name value hsent
    rw [get?_augment, hsent, Option.some_or]
  · intro name habsent
    have hadded : Members.get? name (v.augment granted request)
        = v.augmentations.findSome? fun a =>
            if a.parameter = name then a.valueFor? granted else none := by
      rw [get?_augment, Members.get?_eq_none_iff.mpr habsent, Option.none_or]
    constructor
    · rw [← not_iff_not, ← Members.get?_eq_none_iff, hadded, List.findSome?_eq_none_iff]
      simp only [Augmentation.eq_none_iff_gives_nothing, not_exists, not_and]
    · intro value
      rw [hadded, List.findSome?_eq_some_iff]
      simp only [Augmentation.eq_some_iff_gives, Augmentation.eq_none_iff_gives_nothing]
  · -- every parameter that could be filled in is there by now
    exact augment_eq_self fun a ha value hvalue => contains_augment ha hvalue request

/-- A variant that fills in a municipality by three augmentations and a flag by a fourth. -/
def sampleVariant : Variant where
  name := "search"
  ruleset := .empty
  augmentations :=
    [.defaultValue "municipality" (.string "0363") (some "nationwide"),
      .enableFlag "deceased" "seeDeceased",
      .defaultValue "municipality" (.string "0518") none,
      .enableFlag "municipality" "nationwide"]
  fields := none
  insertedIdentifiers := []

/-- For a caller who holds both scopes, the first augmentation is lifted and the third one wins, and
the flag that was sent as false stays false. -/
theorem augment_exact_of_lifted :
    let granted : NameSet := SortedSet.ofList ["nationwide", "seeDeceased"]
    let request : Payload := [("deceased", .bool false), ("name", .string "Jansen")]
    Members.get? "deceased" (sampleVariant.augment granted request) = some (.bool false) ∧
      "municipality" ∉ Members.names request ∧
      "municipality" ∈ Members.names (sampleVariant.augment granted request) ∧
      Members.get? "municipality" (sampleVariant.augment granted request) = some (.string "0518") ∧
      sampleVariant.augment granted (sampleVariant.augment granted request)
        = sampleVariant.augment granted request := by
  intro granted request
  obtain ⟨-, hkept, hadded, hagain⟩ := sampleVariant.augment_exact granted request
  have habsent : "municipality" ∉ Members.names request := by decide
  obtain ⟨hnames, hvalue⟩ := hadded "municipality" habsent
  have hgives : Augmentation.Gives granted
      (.defaultValue "municipality" (.string "0518") none) "municipality" (.string "0518") :=
    .defaultValue fun _ hscope => nomatch hscope
  refine ⟨hkept "deceased" (.bool false) rfl, habsent, ?_, ?_, hagain⟩
  · exact hnames.mpr ⟨_, by simp [sampleVariant], _, hgives⟩
  · refine (hvalue _).mpr ⟨[_, _], _, [_], rfl, hgives, ?_⟩
    rintro earlier hearlier other hother
    obtain ⟨hparameter, hfound⟩ := Augmentation.gives_iff.mp hother
    rcases List.mem_cons.mp hearlier with rfl | hsecond
    · cases hfound
    · obtain rfl := List.mem_singleton.mp hsecond
      revert hparameter
      decide

end Variant

end RegistryGate
