/-
  Documents compared place by place.

  What a step of the gateway does to a document is said place by place: something is found where it
  was, as it was or changed inside (`Kept`), or nothing is found any more.  Such statements can be
  put one behind the other (`relKept_trans`) and turned around (`relKept_symm`).

  They also say all there is to say.  Ordered documents of which each place holds the same, up to
  what is inside, are equal (`eq_of_alike`): scalars are compared themselves, lists by their lengths
  and their items, objects by the lookups of their members.
-/
import RegistryGate.Proofs.Document.Completion
import RegistryGate.Proofs.Json.Order

namespace RegistryGate.Document

/-! ## What is kept at one place -/

theorem Kept.symm {before after : Json} (h : Kept before after) : Kept after before := by
  cases before with
  | null | bool | number | string =>
    obtain rfl : _ = after := h
    rfl
  | array items =>
    cases after with
    | array found => exact Eq.symm h
    | null | bool | number | string | object => cases h
  | object members =>
    cases after with
    | object found => trivial
    | null | bool | number | string | array => cases h

/-- A text or a number is kept as it is. The value after tells what kind the value before has. -/
theorem Kept.eq_of_text {before after : Json} {text : String} (h : Kept before after)
    (htext : identifierText? after = some text) : before = after := by
  cases after with
  | null | bool | array | object => cases htext
  | number | string =>
    cases before with
    | array | object => cases h
    | null | bool | number | string => exact h

/-- Whatever is found is kept when nothing changes. -/
theorem relKept_refl (found : Option Json) : Option.Rel Kept found found := by
  cases found with
  | none => exact .none
  | some value => exact .some (Kept.refl value)

theorem relKept_symm {before after : Option Json} (h : Option.Rel Kept before after) :
    Option.Rel Kept after before := by
  cases h with
  | none => exact .none
  | some hkept => exact .some hkept.symm

theorem relKept_trans {before middle after : Option Json} (h : Option.Rel Kept before middle)
    (h' : Option.Rel Kept middle after) : Option.Rel Kept before after := by
  cases h with
  | none =>
    cases h' with
    | none => exact .none
  | some hkept =>
    cases h' with
    | some hkept' => exact .some (hkept.trans hkept')

/-! ## What is kept at every place -/

/-- Holds of values that have the same at every place, up to what is inside. -/
def Alike (before after : Json) : Prop :=
  ∀ place, Option.Rel Kept (before.nested? place) (after.nested? place)

namespace Alike

variable {before after : Json}

/-- Alike values are kept as a whole. -/
theorem kept (h : Alike before after) : Kept before after :=
  Option.rel_some_some.mp (h [])

/-- One step further in there are alike values, or there is nothing on either side. -/
theorem step (h : Alike before after) (step : Step) :
    Option.Rel Alike (before.step? step) (after.step? step) := by
  -- where one side has nothing, the place of this single step would tell the two apart
  cases hbefore : before.step? step with
  | none =>
    cases hafter : after.step? step with
    | none => exact .none
    | some found =>
      have hplace := h [step]
      rw [Json.nested?_cons, Json.nested?_cons, hbefore, hafter] at hplace
      cases hplace
  | some value =>
    cases hafter : after.step? step with
    | none =>
      have hplace := h [step]
      rw [Json.nested?_cons, Json.nested?_cons, hbefore, hafter] at hplace
      cases hplace
    | some found =>
      refine .some fun rest => ?_
      have hplace := h (step :: rest)
      rwa [Json.nested?_cons, Json.nested?_cons, hbefore, hafter] at hplace

end Alike

/-- What is found on both sides is the same when related values that are found are. -/
theorem eq_of_rel {R : Json → Json → Prop} {before after : Option Json}
    (h : Option.Rel R before after)
    (heq : ∀ value found, before = some value → after = some found → R value found →
      value = found) : before = after := by
  cases h with
  | none => rfl
  | some hrel => rw [heq _ _ rfl rfl hrel]

/-- **Ordered documents that have the same at every place are equal.** -/
theorem eq_of_alike {before after : Json} (hbefore : before.Ordered) (hafter : after.Ordered)
    (h : Alike before after) : before = after := by
  -- by induction on the value, for whatever is compared with it
  induction before generalizing after with
  | null | bool | number | string => exact h.kept
  | array items ih =>
    cases after with
    | null | bool | number | string | object => cases h.kept
    | array found =>
      have hitems : items = found := by
        refine List.ext_getElem? fun index => eq_of_rel (h.step (.item index)) ?_
        intro item other hitem hother halike
        have hmem : item ∈ items := List.mem_of_getElem? hitem
        have hmem' : other ∈ found := List.mem_of_getElem? hother
        exact ih item hmem (hbefore.of_item item hmem) (hafter.of_item other hmem') halike
      rw [hitems]
  -- objects are ordered, so looking up every name compares them
  | object members ih =>
    cases after with
    | null | bool | number | string | array => cases h.kept
    | object found =>
      have hmembers : members = found := by
        refine Members.ext_get? hbefore.sorted hafter.sorted fun name =>
          eq_of_rel (h.step (.member name)) ?_
        intro value other hvalue hother halike
        exact ih (name, value) (Members.mem_of_get? hvalue) (hbefore.get? hvalue)
          (hafter.get? hother) halike
      rw [hmembers]

end RegistryGate.Document
