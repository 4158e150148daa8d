/-
  Replacing named texts, item by item and member by member.

  The walk treats the items of a list one after the other, and so the members of an object: each
  member is treated as its name and its value say (`replaceMember`), whatever stands beside it
  (`get?_of_replaceTexts`); what is found at a position was there before
  (`exists_nested?_of_replaceTexts`).  The walk succeeds exactly when the replacement does on every
  text that stands under one of the names, at any depth (`exists_replaceTexts_iff`).
-/
import RegistryGate.Document.Tokens
import RegistryGate.Proofs.Json.Induction
import RegistryGate.Proofs.Json.Position
import RegistryGate.Proofs.Ordered.Lookup

namespace RegistryGate.Document

variable {ε : Type} {fields : List String} {replacement : String → Except ε String}

/-! ## One member -/

/-- What becomes of the value of a member. -/
def replaceMember (fields : List String) (replacement : String → Except ε String) (name : String) :
    Json → Except ε Json
  | .string text =>
    if fields.contains name then (replacement text).map .string else .ok (.string text)
  | value => replaceTexts fields replacement value

theorem replaceTextsIn_eq_mapM (items : List Json) :
    replaceTextsIn fields replacement items = items.mapM (replaceTexts fields replacement) := by
  induction items with
  | nil => rfl
  | cons item rest ih =>
    rw [List.mapM_cons, replaceTextsIn, ih]

/-- Members are treated one by one: the text of a named member is replaced, any other value is
walked through. -/
theorem replaceTextsOf_eq_mapM (members : List (String × Json)) :
    replaceTextsOf fields replacement members
      = members.mapM fun e => (replaceMember fields replacement e.1 e.2).map (e.1, ·) := by
  induction members with
  | nil => rfl
  | cons member rest ih =>
    obtain ⟨name, value⟩ := member
    rw [List.mapM_cons, ← ih]
    cases value with
    | string text =>
      rw [replaceTextsOf, replaceMember]
      cases fields.contains name with
      | false => rfl
      | true => cases replacement text <;> rfl
    | null | bool | number | array | object =>
      rw [replaceTextsOf, replaceMember]
      · cases replaceTexts fields replacement _ <;> rfl
      all_goals exact fun _ h => nomatch h

/-! ## Lists and objects -/

/-- The items of a list are treated one by one. -/
theorem replaceTexts_array {items : List Json} {out : Json} :
    replaceTexts fields replacement (.array items) = .ok out ↔
      ∃ shown, items.mapM (replaceTexts fields replacement) = .ok shown ∧ out = .array shown := by
  rw [replaceTexts, replaceTextsIn_eq_mapM, Fallible.bind_eq_ok_iff]
  exact exists_congr fun shown => and_congr_right fun _ =>
    ⟨fun h => (Except.ok.inj h).symm, fun h => congrArg _ h.symm⟩

/-- The members of an object are treated one by one. -/
theorem replaceTexts_object {members : Members Json} {out : Json} :
    replaceTexts fields replacement (.object members) = .ok out ↔
      ∃ shown, members.mapM (fun e => (replaceMember fields replacement e.1 e.2).map (e.1, ·))
        = .ok shown ∧ out = .object shown := by
  rw [replaceTexts, replaceTextsOf_eq_mapM, Fallible.bind_eq_ok_iff]
  exact exists_congr fun shown => and_congr_right fun _ =>
    ⟨fun h => (Except.ok.inj h).symm, fun h => congrArg _ h.symm⟩

/-- What is found under a name was treated as that name says. -/
theorem get?_of_replaceTexts {document out : Json}
    (h : replaceTexts fields replacement document = .ok out) (name : String) :
    (document.get? name).mapM (replaceMember fields replacement name) = .ok (out.get? name) := by
  cases document with
  | object members =>
    obtain ⟨shown, hshown, rfl⟩ := replaceTexts_object.mp h
    exact Members.get?_mapM hshown name
  | array items =>
    obtain ⟨shown, -, rfl⟩ := replaceTexts_array.mp h
    rfl
  | null | bool | number | string =>
    cases h
    rfl

/-- A member was treated, and is still there. -/
theorem get?_eq_some_of_replaceTexts {document out value : Json} {name : String}
    (h : replaceTexts fields replacement document = .ok out)
    (hvalue : document.get? name = some value) :
    ∃ found, replaceMember fields replacement name value = .ok found ∧
      out.get? name = some found := by
  have hout := get?_of_replaceTexts h name
  rw [hvalue] at hout
  obtain ⟨found, hfound, hget⟩ := Fallible.map_eq_ok_iff.mp hout
  exact ⟨found, hfound, hget.symm⟩

/-- No member was added. -/
theorem get?_eq_none_of_replaceTexts {document out : Json} {name : String}
    (h : replaceTexts fields replacement document = .ok out) (hnone : document.get? name = none) :
    out.get? name = none := by
  have hout := get?_of_replaceTexts h name
  rw [hnone] at hout
  exact (Except.ok.inj hout).symm

/-! ## Positions -/

/-- What becomes of a value that is reached by a step, or is the whole document. -/
def replaceBehind (fields : List String) (replacement : String → Except ε String) :
    Option Step → Json → Except ε Json
  | some (.member name) => replaceMember fields replacement name
  | some (.item _) | none => replaceTexts fields replacement

/-- What is found one step further in was treated as that step says. -/
theorem exists_step?_of_replaceTexts {document out found : Json} {step : Step}
    (h : replaceTexts fields replacement document = .ok out) (hfound : out.step? step = some found) :
    ∃ inner, document.step? step = some inner ∧
      replaceBehind fields replacement (some step) inner = .ok found := by
  cases step with
  | member name =>
    have hget := get?_of_replaceTexts h name
    rw [show out.get? name = some found from hfound] at hget
    exact Fallible.exists_of_mapM_eq_some hget
  | item index =>
    cases document with
    | array items =>
      obtain ⟨shown, hshown, rfl⟩ := replaceTexts_array.mp h
      have hitem := Fallible.getElem?_mapM hshown index
      rw [show shown[index]? = some found from hfound] at hitem
      exact Fallible.exists_of_mapM_eq_some hitem
    | object members =>
      obtain ⟨shown, -, rfl⟩ := replaceTexts_object.mp h
      cases hfound
    | null | bool | number | string =>
      cases h
      cases hfound

/-- A value that something is found inside of was walked through. -/
theorem replaceTexts_of_replaceBehind {value found : Json} {step next : Step} {inner : Json}
    (h : replaceBehind fields replacement (some step) value = .ok found)
    (hinner : found.step? next = some inner) : replaceTexts fields replacement value = .ok found := by
  cases step with
  | item index => exact h
  | member name =>
    cases value with
    | null | bool | number | array | object => exact h
    | string text =>
      rw [replaceBehind, replaceMember] at h
      split at h
      · obtain ⟨replaced, -, rfl⟩ := Fallible.map_eq_ok_iff.mp h
        cases next <;> cases hinner
      · cases h
        cases next <;> cases hinner

/-- **The walk moves nothing.**  What is found at a place was there before, and was treated as the
last step to it says.  Members keep their names and items their indices, so every step leads to
where it led before. -/
theorem exists_nested?_of_replaceTexts {document out value : Json} {place : Position}
    (h : replaceTexts fields replacement document = .ok out)
    (hvalue : out.nested? place = some value) :
    ∃ sent, document.nested? place = some sent ∧
      replaceBehind fields replacement place.getLast? sent = .ok value := by
  -- by induction on the place, one step after the other into what the step leads to
  induction place generalizing document out with
  | nil =>
    obtain rfl := Option.some.inj hvalue
    exact ⟨document, rfl, h⟩
  | cons step rest ih =>
    rw [Json.nested?_cons] at hvalue
    obtain ⟨found, hfound, hrest⟩ := Option.bind_eq_some_iff.mp hvalue
    obtain ⟨inner, hinner, hreplaced⟩ := exists_step?_of_replaceTexts h hfound
    -- the last step decides what became of the value; on the way to it values were only walked
    -- through
    cases rest with
    | nil =>
      obtain rfl := Option.some.inj hrest
      refine ⟨inner, ?_, hreplaced⟩
      rw [Json.nested?_cons, hinner]
      rfl
    | cons next rest =>
      obtain ⟨deeper, hdeeper, -⟩ := Option.bind_eq_some_iff.mp hrest
      obtain ⟨sent, hsent, hlast⟩ := ih (replaceTexts_of_replaceBehind hreplaced hdeeper) hrest
      refine ⟨sent, ?_, ?_⟩
      · rw [Json.nested?_cons, hinner]
        exact hsent
      · rw [List.getLast?_cons_cons]
        exact hlast

/-! ## One member alone -/

/-- A document with a single member shows what becomes of that member anywhere. -/
theorem replaceTexts_single {name : String} {value out : Json} :
    replaceTexts fields replacement (.object [(name, value)]) = .ok (.object [(name, out)]) ↔
      replaceMember fields replacement name value = .ok out := by
  rw [replaceTexts_object]
  constructor
  · rintro ⟨shown, hshown, hout⟩
    obtain ⟨entry, rest, hentry, -, rfl⟩ := Fallible.mapM_cons_eq_ok_iff.mp hshown
    obtain ⟨found, hfound, rfl⟩ := Fallible.map_eq_ok_iff.mp hentry
    cases hout
    exact hfound
  · intro h
    exact ⟨[(name, out)], Fallible.mapM_cons_eq_ok_iff.mpr
      ⟨(name, out), [], Fallible.map_eq_ok_iff.mpr ⟨out, h, rfl⟩, rfl, rfl⟩, rfl⟩

/-- Without names nothing is replaced.  No member is named, so every walk goes on into the parts and
comes out with them. -/
theorem replaceTexts_nil (replacement : String → Except ε String) (value : Json) :
    replaceTexts [] replacement value = .ok value := by
  -- every value comes out as it was, its members and items included
  induction value with
  | null | bool | number | string => rfl
  | array items ih =>
    exact replaceTexts_array.mpr ⟨items, Fallible.mapM_eq_ok_self ih, rfl⟩
  | object members ih =>
    refine replaceTexts_object.mpr ⟨members, Fallible.mapM_eq_ok_self ?_, rfl⟩
    rintro ⟨name, value⟩ hmember
    have hvalue : replaceMember [] replacement name value = .ok value := by
      cases value with
      | string text => rfl
      | null | bool | number | array | object => exact ih _ hmember
    exact Fallible.map_eq_ok_iff.mpr ⟨value, hvalue, rfl⟩

/-! ## When the walk succeeds -/

/-- A value has a text under one of the names, at some depth. -/
inductive HasText (fields : List String) (text : String) : Json → Prop
  /-- It is the value of a member with such a name. -/
  | here {name : String} {members : Members Json} (hname : name ∈ fields)
      (hmember : (name, .string text) ∈ members) : HasText fields text (.object members)
  /-- It is inside of a member's value. -/
  | member {member : String × Json} {members : Members Json} (hmember : member ∈ members)
      (hvalue : HasText fields text member.2) : HasText fields text (.object members)
  /-- It is inside of an item. -/
  | item {item : Json} {items : List Json} (hitem : item ∈ items)
      (hvalue : HasText fields text item) : HasText fields text (.array items)

/-- A member can be treated when what is inside of it can, and its own text if it is named. -/
theorem exists_replaceMember_iff {name : String} {value : Json} :
    (∃ out, replaceMember fields replacement name value = .ok out) ↔
      (∀ text, value = .string text → name ∈ fields → ∃ replaced, replacement text = .ok replaced) ∧
      ∃ out, replaceTexts fields replacement value = .ok out := by
  cases value with
  | string text =>
    rw [replaceMember]
    by_cases hname : name ∈ fields
    · rw [if_pos (List.contains_iff_mem.mpr hname)]
      constructor
      · rintro ⟨out, hout⟩
        obtain ⟨replaced, hreplaced, -⟩ := Fallible.map_eq_ok_iff.mp hout
        refine ⟨fun other hother _ => ?_, .string text, rfl⟩
        cases hother
        exact ⟨replaced, hreplaced⟩
      · rintro ⟨hown, -⟩
        obtain ⟨replaced, hreplaced⟩ := hown text rfl hname
        exact ⟨.string replaced, Fallible.map_eq_ok_iff.mpr ⟨replaced, hreplaced, rfl⟩⟩
    · rw [if_neg fun h => hname (List.contains_iff_mem.mp h)]
      exact iff_of_true ⟨.string text, rfl⟩ ⟨fun _ _ h => absurd h hname, .string text, rfl⟩
  | null | bool | number | array | object =>
    exact ⟨fun h => ⟨fun _ heq => (nomatch heq), h⟩, fun h => h.2⟩

/-- **The walk succeeds exactly when every named text can be replaced.**  A list can be walked
through when its items can, and an object when each member can be treated; below a member a text is
that of the member itself or inside of its value. -/
theorem exists_replaceTexts_iff {value : Json} :
    (∃ out, replaceTexts fields replacement value = .ok out) ↔
      ∀ text, HasText fields text value → ∃ replaced, replacement text = .ok replaced := by
  induction value with
  | null | bool | number | string =>
    exact ⟨fun _ _ h => (nomatch h), fun _ => ⟨_, rfl⟩⟩
  | array items ih =>
    have hitems : (∃ out, replaceTexts fields replacement (.array items) = .ok out) ↔
        ∃ shown, items.mapM (replaceTexts fields replacement) = .ok shown := by
      constructor
      · rintro ⟨out, h⟩
        obtain ⟨shown, hshown, -⟩ := replaceTexts_array.mp h
        exact ⟨shown, hshown⟩
      · rintro ⟨shown, hshown⟩
        exact ⟨.array shown, replaceTexts_array.mpr ⟨shown, hshown, rfl⟩⟩
    rw [hitems, Fallible.exists_mapM_eq_ok_iff]
    constructor
    · intro h text htext
      cases htext with
      | item hitem hvalue => exact (ih _ hitem).mp (h _ hitem) text hvalue
    · intro h item hitem
      exact (ih item hitem).mpr fun text htext => h text (.item hitem htext)
  | object members ih =>
    have hmembers : (∃ out, replaceTexts fields replacement (.object members) = .ok out) ↔
        ∀ member ∈ members, ∃ out,
          replaceMember fields replacement member.1 member.2 = .ok out := by
      constructor
      · rintro ⟨out, h⟩ member hmember
        obtain ⟨shown, hshown, -⟩ := replaceTexts_object.mp h
        obtain ⟨entry, hentry⟩ := Fallible.exists_mapM_eq_ok_iff.mp ⟨shown, hshown⟩ member hmember
        obtain ⟨out, hout, -⟩ := Fallible.map_eq_ok_iff.mp hentry
        exact ⟨out, hout⟩
      · intro h
        obtain ⟨shown, hshown⟩ := Fallible.exists_mapM_eq_ok_iff.mpr fun member hmember =>
          (h member hmember).imp' (member.1, ·) fun out hout =>
            Fallible.map_eq_ok_iff.mpr ⟨out, hout, rfl⟩
        exact ⟨.object shown, replaceTexts_object.mpr ⟨shown, hshown, rfl⟩⟩
    rw [hmembers]
    constructor
    · intro h text htext
      cases htext with
      | here hname hmember =>
        exact (exists_replaceMember_iff.mp (h _ hmember)).1 text rfl hname
      | member hmember hvalue =>
        exact (ih _ hmember).mp (exists_replaceMember_iff.mp (h _ hmember)).2 text hvalue
    · intro h member hmember
      refine exists_replaceMember_iff.mpr ⟨?_, (ih member hmember).mpr ?_⟩
      · intro text htext hname
        refine h text (.here hname ?_)
        rw [← htext]
        exact hmember
      · intro text htext
        exact h text (.member hmember htext)

end RegistryGate.Document
