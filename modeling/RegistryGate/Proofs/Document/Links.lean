/-
  The walk that redirects links, step by step.

  The target of a link is a text under the name of a target, inside of a links section
  (`Position.IsLinkTarget`).  The walk carries along whether it is inside of one: members and items
  are treated one by one (`step?_redirectIn`), and at the end of a way what counts is whether the way
  has entered one (`nested?_redirectIn_concat`).  The lengths of lists do not change, so that a
  document may lose some of its records before its links are redirected or after
  (`redirectLinks_filter`).
-/
import RegistryGate.Proofs.Document.Records
import RegistryGate.Proofs.Json.Position

namespace RegistryGate

/-- Holds of the places of link targets: under the name of a target, inside of a links section. -/
def Position.IsLinkTarget (place : Position) : Prop :=
  ∃ front, place = front ++ [.member Document.hrefKey] ∧ Step.member Document.linksKey ∈ front

namespace Document

variable {source target : String}

/-! ## Members and items -/

/-- What redirecting makes of the value of a member, inside of a links section or outside. -/
def redirectValue (source target : String) (inLinks : Bool) (name : String) : Json → Json
  | .string text =>
    .string (if inLinks && name == hrefKey then redirect source target text else text)
  | value => redirectIn source target (inLinks || name == linksKey) value

/-- The members of an object are treated one by one. -/
theorem redirectMembers_eq_map_value (inLinks : Bool) (members : List (String × Json)) :
    redirectMembers source target inLinks members
      = members.map fun e => (e.1, redirectValue source target inLinks e.1 e.2) := by
  induction members with
  | nil => rfl
  | cons member rest ih =>
    obtain ⟨name, value⟩ := member
    rw [List.map_cons, ← ih]
    cases value <;> rfl

/-- The items of a list are treated one by one. -/
theorem redirectItems_eq_map (inLinks : Bool) (items : List Json) :
    redirectItems source target inLinks items = items.map (redirectIn source target inLinks) := by
  induction items with
  | nil => rfl
  | cons item rest ih => rw [redirectItems, ih, List.map_cons]

/-- What redirecting makes of a value that is reached by a step. -/
def redirectBehind (source target : String) (inLinks : Bool) : Step → Json → Json
  | .member name => redirectValue source target inLinks name
  | .item _ => redirectIn source target inLinks

/-- What is found one step further in was treated as that step says. -/
theorem step?_redirectIn (inLinks : Bool) (value : Json) (step : Step) :
    (redirectIn source target inLinks value).step? step
      = (value.step? step).map (redirectBehind source target inLinks step) := by
  cases value with
  | null | bool | number | string => cases step <;> rfl
  | array items =>
    cases step with
    | member name => rfl
    | item index =>
      show (redirectItems source target inLinks items)[index]? = _
      rw [redirectItems_eq_map, List.getElem?_map]
      rfl
  | object members =>
    cases step with
    | item index => rfl
    | member name =>
      show Members.get? name (redirectMembers source target inLinks members) = _
      rw [redirectMembers_eq_map_value, Members.get?_map]
      rfl

/-! ## Places -/

/-- A place is that of a link target when its last step and the ones before say so. -/
theorem isLinkTarget_concat {front : Position} {step : Step} :
    Position.IsLinkTarget (front ++ [step]) ↔
      step = .member hrefKey ∧ Step.member linksKey ∈ front := by
  constructor
  · rintro ⟨front', heq, hmem⟩
    obtain ⟨rfl, hstep⟩ := List.append_inj' heq rfl
    exact ⟨List.head_eq_of_cons_eq hstep, hmem⟩
  · rintro ⟨rfl, hmem⟩
    exact ⟨front, rfl, hmem⟩

/-- A step that enters a links section is one to a member of that name. -/
theorem member_beq_links (name : String) :
    (Step.member name == Step.member linksKey) = (name == linksKey) := by
  rw [Bool.eq_iff_iff, beq_iff_eq, beq_iff_eq, Step.member.injEq]

/-- Further inside, what became of a value is what redirecting inside of it makes. -/
theorem nested?_redirectBehind (inLinks : Bool) (step next : Step) (rest : Position)
    (value : Json) :
    (redirectBehind source target inLinks step value).nested? (next :: rest)
      = (redirectIn source target (inLinks || step == .member linksKey) value).nested?
          (next :: rest) := by
  cases step with
  | item index =>
    have hitem : (Step.item index == Step.member linksKey) = false := beq_false_of_ne nofun
    rw [hitem, Bool.or_false]
    rfl
  | member name =>
    rw [member_beq_links]
    show (redirectValue source target inLinks name value).nested? _ = _
    cases value with
    | null | bool | number | array | object => rfl
    | string text => cases next <;> rfl

/-- At the end of a way, a value was treated as its last step says, inside of links sections if the
way has entered one. -/
theorem nested?_redirectIn_concat (inLinks : Bool) (value : Json) (front : Position)
    (step : Step) :
    (redirectIn source target inLinks value).nested? (front ++ [step])
      = (value.nested? (front ++ [step])).map
          (redirectBehind source target (inLinks || front.contains (.member linksKey)) step) := by
  -- by induction on the way, along which the flag gathers the sections that are entered
  induction front generalizing inLinks value with
  | nil =>
    rw [List.contains_nil, Bool.or_false, List.nil_append, Json.nested?_cons, Json.nested?_cons,
      step?_redirectIn]
    cases value.step? step with
    | none => rfl
    | some found => rfl
  | cons first rest ih =>
    rw [List.cons_append, Json.nested?_cons, Json.nested?_cons, step?_redirectIn]
    cases value.step? first with
    | none => rfl
    | some found =>
      rw [Option.map_some, Option.bind_some, Option.bind_some]
      have hinside : (redirectBehind source target inLinks first found).nested? (rest ++ [step])
          = (redirectIn source target (inLinks || first == .member linksKey) found).nested?
              (rest ++ [step]) := by
        obtain ⟨next, others, hcons⟩ := List.exists_cons_of_ne_nil
          (List.append_ne_nil_of_right_ne_nil rest (List.cons_ne_nil step []))
        rw [hcons]
        exact nested?_redirectBehind inLinks first next others found
      have hflag : (first :: rest).contains (Step.member linksKey)
          = (first == .member linksKey || rest.contains (.member linksKey)) := by
        rw [List.contains_cons, BEq.comm]
      rw [hinside, ih, hflag, Bool.or_assoc]

/-! ## Records -/

/-- A list is redirected to a list only. -/
theorem exists_of_redirectMember_array {name : String} {value : Json} {items : List Json}
    (h : redirectMember source target name value = .array items) :
    ∃ found, value = .array found := by
  unfold redirectMember at h
  split at h
  · exact ⟨items, h⟩
  · cases value with
    | array found => exact ⟨found, rfl⟩
    | null | bool | number | string | object => cases h

/-- Records are dropped before their links are redirected, or after. -/
theorem redirectLinks_filter (key : String) (keep : Json → Bool) (document : Json) :
    redirectLinks source target (modifyRecords key
        (List.filter fun record => keep (redirectMember source target key record)) document)
      = modifyRecords key (List.filter keep) (redirectLinks source target document) := by
  rcases modifyRecords_cases key document with
    ⟨members, records, rfl, hrecords, hchanged⟩ | ⟨hnone, hsame⟩
  · rw [hchanged]
    unfold redirectLinks redirectMember
    -- with an empty source no link is redirected at all
    by_cases hsource : source.isEmpty = true
    · simp only [if_pos hsource]
      exact (hchanged _).symm
    · simp only [if_neg hsource]
      have hobject : ∀ ms : Members Json, redirectIn source target false (.object ms)
          = .object (ms.map fun e => (e.1, redirectIn source target (e.1 == linksKey) e.2)) :=
        fun ms => by rw [redirectIn, redirectMembers_eq_map]
      -- dropping and redirecting meet at the record list, whose length redirecting keeps
      have hlinked : Members.get? key (members.map fun e =>
          (e.1, redirectIn source target (e.1 == linksKey) e.2))
          = some (.array (records.map (redirectIn source target (key == linksKey)))) := by
        rw [Members.get?_map (fun name => redirectIn source target (name == linksKey)), hrecords,
          Option.map_some, redirectIn, redirectItems_eq_map]
      rw [hobject, hobject, Members.map_insert
          (fun name => redirectIn source target (name == linksKey)), modifyRecords, hlinked]
      dsimp only
      rw [redirectIn, redirectItems_eq_map, List.filter_map]
      rfl
  · have hnone' : ∀ records, (redirectLinks source target document).get? key
        ≠ some (.array records) := by
      intro records hget
      rw [get?_redirectLinks] at hget
      obtain ⟨value, hvalue, hredirected⟩ := Option.map_eq_some_iff.mp hget
      obtain ⟨found, rfl⟩ := exists_of_redirectMember_array hredirected
      exact hnone found hvalue
    rw [hsame]
    rcases modifyRecords_cases key (redirectLinks source target document) with
      ⟨members, records, hmembers, hrecords, -⟩ | ⟨-, hsame'⟩
    · rw [hmembers] at hnone'
      exact absurd hrecords (hnone' records)
    · exact (hsame' _).symm

end Document

end RegistryGate
