/-
  Steps that may fail, one after the other.

  A sequence of steps succeeds exactly when each of them does, on what the one before gave.  For a
  list that is treated item by item this is `mapM_cons_eq_ok_iff`; that every item can be treated
  is all that it takes (`exists_mapM_eq_ok_iff`), and nothing else comes out (`mem_mapM_iff`).
-/

namespace RegistryGate.Fallible

variable {ε α β : Type}

/-- Two steps succeed when the second one succeeds on what the first one gave. -/
theorem bind_eq_ok_iff {x : Except ε α} {f : α → Except ε β} {b : β} :
    x >>= f = .ok b ↔ ∃ a, x = .ok a ∧ f a = .ok b := by
  constructor
  · intro h
    cases x with
    | error fault => cases h
    | ok a => exact ⟨a, rfl, h⟩
  · rintro ⟨a, rfl, h⟩
    exact h

/-- There is a fault or a result, and never both. -/
theorem exists_eq_error_iff {x : Except ε α} :
    (∃ fault, x = .error fault) ↔ ¬ ∃ a, x = .ok a := by
  cases x with
  | error fault => exact iff_of_true ⟨fault, rfl⟩ (fun ⟨_, h⟩ => nomatch h)
  | ok a => exact iff_of_false (fun ⟨_, h⟩ => nomatch h) (not_not_intro ⟨a, rfl⟩)

/-- What a result is turned into afterwards does not decide whether there is one. -/
theorem map_eq_ok_iff {f : α → β} {x : Except ε α} {b : β} :
    x.map f = .ok b ↔ ∃ a, x = .ok a ∧ f a = b := by
  cases x with
  | error fault => exact ⟨fun h => (by cases h), fun ⟨_, h, _⟩ => (by cases h)⟩
  | ok a =>
    constructor
    · intro h
      exact ⟨a, rfl, Except.ok.inj h⟩
    · rintro ⟨a, ha, rfl⟩
      cases ha
      rfl

theorem map_eq_error_iff {f : α → β} {x : Except ε α} {fault : ε} :
    x.map f = .error fault ↔ x = .error fault := by
  cases x with
  | error other =>
    exact ⟨fun h => congrArg _ (Except.error.inj h), fun h => congrArg _ (Except.error.inj h)⟩
  | ok a => exact iff_of_false (fun h => nomatch h) fun h => nomatch h

/-- What a failure is turned into does not matter to results. -/
theorem mapError_eq_ok_iff {ε' : Type} {f : ε → ε'} {x : Except ε α} {a : α} :
    x.mapError f = .ok a ↔ x = .ok a := by
  cases x with
  | error fault => exact iff_of_false (fun h => nomatch h) fun h => nomatch h
  | ok b => exact ⟨fun h => congrArg _ (Except.ok.inj h), fun h => congrArg _ (Except.ok.inj h)⟩

/-- Two results of which the same is computed fail alike, or succeed alike. -/
theorem of_map_eq_map {f : α → β} {x y : Except ε α} (h : x.map f = y.map f) :
    (∀ fault, x = .error fault ↔ y = .error fault) ∧
      ∀ b, y = .ok b → ∃ a, x = .ok a ∧ f a = f b := by
  cases x with
  | error fault =>
    cases y with
    | error fault' =>
      cases h
      exact ⟨fun _ => Iff.rfl, fun _ h => nomatch h⟩
    | ok b => cases h
  | ok a =>
    cases y with
    | error fault => cases h
    | ok b =>
      refine ⟨fun _ => iff_of_false (fun h => nomatch h) (fun h => nomatch h), ?_⟩
      rintro _ ⟨rfl⟩
      exact ⟨a, rfl, Except.ok.inj h⟩

theorem eq_ok_of_toOption {x : Except ε α} {a : α} (h : x.toOption = some a) : x = .ok a := by
  cases x with
  | error fault => cases h
  | ok b => exact congrArg Except.ok (Option.some.inj h)

theorem exists_of_isOk {x : Except ε α} (h : x.isOk = true) : ∃ a, x = .ok a := by
  cases x with
  | error fault => cases h
  | ok a => exact ⟨a, rfl⟩

/-- What is computed from a result shows that there is one. -/
theorem exists_of_toOption_map {x : Except ε α} {f : α → β} {b : β}
    (h : x.toOption.map f = some b) : ∃ a, x = .ok a ∧ f a = b := by
  cases x with
  | error fault => cases h
  | ok a => exact ⟨a, rfl, Option.some.inj h⟩

/-- A list is treated when its first item and its other items are. -/
theorem mapM_cons_eq_ok_iff {f : α → Except ε β} {x : α} {xs : List α} {out : List β} :
    (x :: xs).mapM f = .ok out ↔
      ∃ y ys, f x = .ok y ∧ xs.mapM f = .ok ys ∧ out = y :: ys := by
  rw [List.mapM_cons, bind_eq_ok_iff]
  constructor
  · rintro ⟨y, hy, h⟩
    obtain ⟨ys, hys, hout⟩ := bind_eq_ok_iff.mp h
    exact ⟨y, ys, hy, hys, (Except.ok.inj hout).symm⟩
  · rintro ⟨y, ys, hy, hys, rfl⟩
    exact ⟨y, hy, bind_eq_ok_iff.mpr ⟨ys, hys, rfl⟩⟩

/-- What was treated into a value was there. -/
theorem exists_of_mapM_eq_some {f : α → Except ε β} {x : Option α} {y : β}
    (h : x.mapM f = .ok (some y)) : ∃ a, x = some a ∧ f a = .ok y := by
  cases x with
  | none => cases h
  | some a =>
    obtain ⟨b, hb, hsome⟩ := map_eq_ok_iff.mp h
    exact ⟨a, rfl, hb.trans (congrArg _ (Option.some.inj hsome))⟩

/-- What stands at a place of a treated list is the treated item of that place.  One result comes
for each item, in their order. -/
theorem getElem?_mapM {f : α → Except ε β} {xs : List α} {out : List β} (h : xs.mapM f = .ok out)
    (index : Nat) : xs[index]?.mapM f = .ok out[index]? := by
  -- the induction walks to the index
  induction xs generalizing out index with
  | nil =>
    cases h
    rfl
  | cons x xs ih =>
    obtain ⟨y, ys, hy, hys, rfl⟩ := mapM_cons_eq_ok_iff.mp h
    cases index with
    | zero =>
      rw [List.getElem?_cons_zero, List.getElem?_cons_zero, Option.mapM_some, hy]
      rfl
    | succ index =>
      rw [List.getElem?_cons_succ, List.getElem?_cons_succ]
      exact ih hys index

/-- A treated list has what its items are treated into.  What comes out is that of the first item or
of a later one. -/
theorem mem_mapM_iff {f : α → Except ε β} {xs : List α} {out : List β} (h : xs.mapM f = .ok out)
    {y : β} : y ∈ out ↔ ∃ x ∈ xs, f x = .ok y := by
  induction xs generalizing out with
  | nil =>
    cases h
    exact iff_of_false List.not_mem_nil fun ⟨_, hmem, _⟩ => absurd hmem List.not_mem_nil
  | cons x xs ih =>
    obtain ⟨first, rest, hfirst, hrest, rfl⟩ := mapM_cons_eq_ok_iff.mp h
    rw [List.mem_cons, ih hrest]
    constructor
    · rintro (rfl | ⟨other, hmem, hother⟩)
      · exact ⟨x, List.mem_cons_self, hfirst⟩
      · exact ⟨other, List.mem_cons_of_mem x hmem, hother⟩
    · rintro ⟨other, hmem, hother⟩
      rcases List.mem_cons.mp hmem with rfl | hmem
      · exact Or.inl (Except.ok.inj (hother.symm.trans hfirst))
      · exact Or.inr ⟨other, hmem, hother⟩

/-- A treated list has as many items as before. -/
theorem length_eq_of_mapM {f : α → Except ε β} {xs : List α} {out : List β}
    (h : xs.mapM f = .ok out) : out.length = xs.length := by
  induction xs generalizing out with
  | nil =>
    cases h
    rfl
  | cons x xs ih =>
    obtain ⟨y, ys, -, hys, rfl⟩ := mapM_cons_eq_ok_iff.mp h
    rw [List.length_cons, List.length_cons, ih hys]

/-- A treatment of a list is undone item by item. -/
theorem mapM_eq_ok_of_mapM {f : α → Except ε β} {g : β → Except ε α} {xs : List α} {out : List β}
    (h : xs.mapM f = .ok out) (hback : ∀ x ∈ xs, ∀ y, f x = .ok y → g y = .ok x) :
    out.mapM g = .ok xs := by
  -- the results are as many as the items, and each leads back to its own
  induction xs generalizing out with
  | nil =>
    cases h
    rfl
  | cons x xs ih =>
    obtain ⟨hx, hxs⟩ := List.forall_mem_cons.mp hback
    obtain ⟨y, ys, hy, hys, rfl⟩ := mapM_cons_eq_ok_iff.mp h
    exact mapM_cons_eq_ok_iff.mpr ⟨x, xs, hx y hy, ih hys hxs, rfl⟩

/-- A list of which every item is kept is kept. -/
theorem mapM_eq_ok_self {f : α → Except ε α} {xs : List α} (h : ∀ x ∈ xs, f x = .ok x) :
    xs.mapM f = .ok xs := by
  induction xs with
  | nil => rfl
  | cons x xs ih =>
    obtain ⟨hx, hxs⟩ := List.forall_mem_cons.mp h
    exact mapM_cons_eq_ok_iff.mpr ⟨x, xs, hx, ih hxs, rfl⟩

/-- A list can be treated when every item of it can.  One item that fails is enough for the list to
fail. -/
theorem exists_mapM_eq_ok_iff {f : α → Except ε β} {xs : List α} :
    (∃ out, xs.mapM f = .ok out) ↔ ∀ x ∈ xs, ∃ y, f x = .ok y := by
  induction xs with
  | nil => exact ⟨fun _ x hx => absurd hx List.not_mem_nil, fun _ => ⟨[], rfl⟩⟩
  | cons x xs ih =>
    rw [List.forall_mem_cons, ← ih]
    constructor
    · rintro ⟨out, h⟩
      obtain ⟨y, ys, hy, hys, -⟩ := mapM_cons_eq_ok_iff.mp h
      exact ⟨⟨y, hy⟩, ys, hys⟩
    · rintro ⟨⟨y, hy⟩, ys, hys⟩
      exact ⟨y :: ys, mapM_cons_eq_ok_iff.mpr ⟨y, ys, hy, hys, rfl⟩⟩

end RegistryGate.Fallible
