/-
  Lists of texts, and the order of what they are joined to.

  Lists of texts are put in order text by text, and so are sets of names.  Joined with a separator
  each list is a single text, and in the order of those two of them can have changed places: where
  one list has a text and the other a longer one that begins with it, the first goes on with the
  separator and the second with the rest of its text, which may be the smaller one.  `Overtakes`
  says that in terms of the two lists, and `overtakes_iff` that there is no other way.

  Of two texts the smaller one begins the other or parts from it at some character
  (`begins_or_parts_of_lt`); in the second case nothing that comes behind can change the order.
-/
import RegistryGate.Proofs.Text.Cutting

namespace RegistryGate.Text

/-! ## The order of texts that begin alike -/

theorem list_append_lt_append_iff {α : Type} [LT α] [Std.Irrefl (· < · : α → α → Prop)]
    {front xs ys : List α} : front ++ xs < front ++ ys ↔ xs < ys := by
  induction front with
  | nil => rfl
  | cons x front ih =>
    rw [List.cons_append, List.cons_append, List.cons_lt_cons_iff, ih]
    constructor
    · rintro (hlt | ⟨-, hlt⟩)
      · exact absurd hlt (Std.Irrefl.irrefl x)
      · exact hlt
    · exact fun hlt => Or.inr ⟨rfl, hlt⟩

/-- A common beginning does not count. -/
theorem append_lt_append_iff {front s t : String} : front ++ s < front ++ t ↔ s < t := by
  rw [String.lt_iff, String.lt_iff, String.toList_append, String.toList_append,
    list_append_lt_append_iff]

/-- The first character counts before what follows it. -/
theorem singleton_append_lt_iff {c d : Char} {s t : String} :
    String.singleton c ++ s < String.singleton d ++ t ↔ c < d ∨ c = d ∧ s < t := by
  rw [String.lt_iff, String.lt_iff, String.toList_append, String.toList_append,
    String.toList_singleton, String.toList_singleton]
  exact List.cons_lt_cons_iff

/-- No text is greater than one that begins with it. -/
theorem not_append_lt {s t : String} : ¬ s ++ t < s := by
  intro h
  rw [String.lt_iff, String.toList_append] at h
  -- the longer text would have to be smaller behind the common beginning, where the other has
  -- nothing
  have hnil : s.toList ++ t.toList < s.toList ++ [] := by rwa [List.append_nil]
  exact List.not_lt_nil _ (list_append_lt_append_iff.mp hnil)

/-- A smaller list begins the greater one, or there is an element at which the two part, and then
nothing that comes behind can change their order. -/
theorem list_begins_or_parts_of_lt {α : Type} [LT α] {xs ys : List α} (h : xs < ys) :
    (∃ y rest, ys = xs ++ y :: rest) ∨ ∀ more more', xs ++ more < ys ++ more' := by
  -- on the comparison: a list ends, an element is smaller, or the two go on alike
  induction h with
  | @nil y rest => exact Or.inl ⟨y, rest, rfl⟩
  | rel hlt => exact Or.inr fun more more' => List.cons_lt_cons_iff.mpr (Or.inl hlt)
  | @cons x xs ys _ ih =>
    rcases ih with ⟨y, rest, rfl⟩ | hparts
    · exact Or.inl ⟨y, rest, rfl⟩
    · exact Or.inr fun more more' => List.cons_lt_cons_iff.mpr (Or.inr ⟨rfl, hparts more more'⟩)

/-- A smaller text begins the greater one, or stays smaller whatever comes behind the two. -/
theorem begins_or_parts_of_lt {s t : String} (h : s < t) :
    (∃ c rest, t = s ++ (String.singleton c ++ rest)) ∨ ∀ more more', s ++ more < t ++ more' := by
  rcases list_begins_or_parts_of_lt (String.lt_iff.mp h) with ⟨c, rest, heq⟩ | hparts
  · refine Or.inl ⟨c, String.ofList rest, String.toList_inj.mp ?_⟩
    rw [heq, String.toList_append, String.toList_append, String.toList_singleton,
      String.toList_ofList]
    rfl
  · refine Or.inr fun more more' => String.lt_iff.mpr ?_
    rw [String.toList_append, String.toList_append]
    exact hparts _ _

/-! ## Joined texts -/

/-- The beginning of the first part begins the joined text. -/
theorem joinWith_append_cons {sep front part : String} {more : List String} :
    joinWith sep ((front ++ part) :: more) = front ++ joinWith sep (part :: more) :=
  String.intercalate_cons_append

/-- What the joined text goes on with after its first part. -/
theorem exists_joinWith_cons (sep part : String) (more : List String) :
    ∃ rest, joinWith sep (part :: more) = part ++ rest := by
  refine ⟨joinWith sep ("" :: more), ?_⟩
  rw [← joinWith_append_cons, String.append_empty]

/-- The first list comes before the second one, and behind it once the two are joined.  Up to some
place they have the same texts.  There the text of the first list begins that of the second, and the
first list goes on: with the separator, where the second one has the rest of its text. -/
inductive Overtakes (sep : Char) : List String → List String → Prop where
  /-- The rest starts with a character smaller than the separator. -/
  | less {part next rest : String} {more others : List String} {c : Char} (h : c < sep) :
      Overtakes sep (part :: next :: more) ((part ++ (String.singleton c ++ rest)) :: others)
  /-- The rest starts with the separator itself, and what follows in the one joined text is smaller
  than what follows in the other. -/
  | level {part next rest : String} {more others : List String}
      (h : joinWith (String.singleton sep) (rest :: others)
        < joinWith (String.singleton sep) (next :: more)) :
      Overtakes sep (part :: next :: more) ((part ++ (String.singleton sep ++ rest)) :: others)
  /-- The two lists have a text in common before that. -/
  | later {part : String} {first second : List String} (h : Overtakes sep first second) :
      Overtakes sep (part :: first) (part :: second)

section

variable {sep : Char} {first second : List String}

theorem Overtakes.exists_cons (h : Overtakes sep first second) :
    ∃ part more part' more', first = part :: more ∧ second = part' :: more' := by
  cases h with
  | less | level | later => exact ⟨_, _, _, _, rfl, rfl⟩

/-- A text comes before a longer one that begins with it. -/
theorem lt_append_singleton {s rest : String} {c : Char} :
    s < s ++ (String.singleton c ++ rest) := by
  rw [String.lt_iff, String.toList_append, String.toList_append, String.toList_singleton]
  have hnil : s.toList ++ [] < s.toList ++ c :: rest.toList :=
    list_append_lt_append_iff.mpr (List.nil_lt_cons c _)
  rwa [List.append_nil] at hnil

/-- What overtakes comes first in the order of lists. -/
theorem Overtakes.lt (h : Overtakes sep first second) : first < second := by
  induction h with
  | less | level => exact List.cons_lt_cons_iff.mpr (Or.inl lt_append_singleton)
  | later _ ih => exact List.cons_lt_cons_iff.mpr (Or.inr ⟨rfl, ih⟩)

/-- Where the one text begins the other, the order of the joined texts is that of the separator and
the rest. -/
theorem joinWith_begun_lt_iff {part next rest : String} {more others : List String} {c : Char} :
    joinWith (String.singleton sep) ((part ++ (String.singleton c ++ rest)) :: others)
        < joinWith (String.singleton sep) (part :: next :: more) ↔
      c < sep ∨ c = sep ∧ joinWith (String.singleton sep) (rest :: others)
        < joinWith (String.singleton sep) (next :: more) := by
  rw [joinWith_append_cons, joinWith_append_cons, joinWith_cons_cons, String.append_assoc,
    append_lt_append_iff, singleton_append_lt_iff]

/-- A common first text does not count where both lists go on. -/
theorem joinWith_cons_lt_iff {part next next' : String} {more more' : List String} :
    joinWith (String.singleton sep) (part :: next' :: more')
        < joinWith (String.singleton sep) (part :: next :: more) ↔
      joinWith (String.singleton sep) (next' :: more')
        < joinWith (String.singleton sep) (next :: more) := by
  rw [joinWith_cons_cons, joinWith_cons_cons, append_lt_append_iff]

/-- What overtakes comes last in the order of the joined texts. -/
theorem Overtakes.joinWith_lt (h : Overtakes sep first second) :
    joinWith (String.singleton sep) second < joinWith (String.singleton sep) first := by
  -- along the texts that the two lists have in common
  induction h with
  | less hlt => exact joinWith_begun_lt_iff.mpr (Or.inl hlt)
  | level hlt => exact joinWith_begun_lt_iff.mpr (Or.inr ⟨rfl, hlt⟩)
  | later hover ih =>
    obtain ⟨next, more, next', more', rfl, rfl⟩ := hover.exists_cons
    exact joinWith_cons_lt_iff.mpr ih

/-- A list with one text is never behind a list that starts with the same characters. -/
theorem not_joinWith_lt_singleton {part rest : String} {others : List String} :
    ¬ joinWith (String.singleton sep) ((part ++ rest) :: others)
      < joinWith (String.singleton sep) [part] := by
  rw [joinWith_append_cons, joinWith_singleton]
  exact not_append_lt

/-- Lists that change places when they are joined do so where one text begins another. -/
theorem overtakes_of_lt (hlt : first < second)
    (hjoined : joinWith (String.singleton sep) second < joinWith (String.singleton sep) first) :
    Overtakes sep first second := by
  -- on the first list, and the second one must have a text as long as the first has one
  induction first generalizing second with
  | nil =>
    rw [String.lt_iff] at hjoined
    exact absurd hjoined (List.not_lt_nil _)
  | cons part more ih =>
    cases second with
    | nil => exact absurd hlt (List.not_lt_nil _)
    | cons part' others =>
      rcases List.cons_lt_cons_iff.mp hlt with hpart | ⟨rfl, hmore⟩
      · rcases begins_or_parts_of_lt hpart with ⟨c, rest, rfl⟩ | hparts
        · cases more with
          | nil => exact absurd hjoined not_joinWith_lt_singleton
          | cons next more =>
            -- the character behind the beginning meets the separator
            rcases joinWith_begun_lt_iff.mp hjoined with hc | ⟨rfl, hrest⟩
            · exact .less hc
            · exact .level hrest
        · -- texts that part keep their order when they are joined to others
          obtain ⟨behind, hbehind⟩ := exists_joinWith_cons (String.singleton sep) part more
          obtain ⟨behind', hbehind'⟩ := exists_joinWith_cons (String.singleton sep) part' others
          rw [hbehind, hbehind'] at hjoined
          exact absurd (hparts behind behind') (String.lt_asymm hjoined)
      · cases others with
        | nil => exact absurd hmore (List.not_lt_nil _)
        | cons next' others =>
          cases more with
          -- the first list ends here, so its joined text begins the other one
          | nil =>
            rw [joinWith_cons_cons, joinWith_singleton, String.append_assoc] at hjoined
            exact absurd hjoined not_append_lt
          | cons next more => exact .later (ih hmore (joinWith_cons_lt_iff.mp hjoined))

/-- **Lists that change places.**  One list overtakes another exactly when it comes before the other
and its joined text behind. -/
theorem overtakes_iff : Overtakes sep first second ↔ first < second ∧
    joinWith (String.singleton sep) second < joinWith (String.singleton sep) first :=
  ⟨fun h => ⟨h.lt, h.joinWith_lt⟩, fun ⟨hlt, hjoined⟩ => overtakes_of_lt hlt hjoined⟩

instance : Decidable (Overtakes sep first second) := decidable_of_iff _ overtakes_iff.symm

end

example : Overtakes '|' ["set", "zoek"] ["set-1", "zoek"] := by decide

end RegistryGate.Text
