/-
  Induction over documents.

  A value is nested in lists of items and of members, for which Lean's own recursor has a motive
  each.  What is proved of a value needs one only: it holds of a list when it holds of its items,
  and of an object when it holds of the values of its members.
-/
import RegistryGate.Json.Basic

namespace RegistryGate.Json

/-- Induction over a value, its items and the values of its members. -/
@[elab_as_elim, induction_eliminator]
theorem nestedInduction {motive : Json → Prop} (null : motive .null) (bool : ∀ b, motive (.bool b))
    (number : ∀ n, motive (.number n)) (string : ∀ s, motive (.string s))
    (array : ∀ items, (∀ item ∈ items, motive item) → motive (.array items))
    (object : ∀ members, (∀ member ∈ members, motive member.2) → motive (.object members))
    (value : Json) : motive value :=
  match value with
  | .null => null
  | .bool b => bool b
  | .number n => number n
  | .string s => string s
  | .array items =>
    array items fun item _ => nestedInduction null bool number string array object item
  | .object members => object members fun member hmember =>
    -- a member's value is smaller than the member, which is smaller than the list
    have hvalue : sizeOf member.2 < sizeOf members := by
      have hlist := List.sizeOf_lt_of_mem hmember
      obtain ⟨name, value⟩ := member
      rw [Prod.mk.sizeOf_spec] at hlist
      dsimp only
      omega
    nestedInduction null bool number string array object member.2
termination_by sizeOf value

end RegistryGate.Json
