/-
  The verdict of a ruleset on a request.

  A ruleset has one of three things to say about a request: that it does not know a parameter, that
  some values of a parameter are not supported, or what the request requires.
  `Ruleset.Evaluates` tells when it says which, and with what in it: the least of the unknown names,
  the first declared parameter that is at fault, all the offending texts, and exactly the
  requirements of the elements.  For a caller there are again three verdicts (`Ruleset.Judges`): the
  request's own fault, the requirements if they are met, or a denial that names those that are not.

  Both relations describe the evaluation completely (`evaluation_exact`).  That the verdict is one of
  the three is `evaluates_requiredScopes`, and that there is no other one
  `Evaluates.requiredScopes_eq`; each goes by the three cases.
-/
import RegistryGate.Proofs.Policy.Resolution
import RegistryGate.Proofs.Text.ByteOrder

namespace RegistryGate

namespace Ruleset

open Text (Utf8.encode)

/-! ## What the verdict is about -/

/-- The request has the parameter, with an element that the policy does not support. -/
def Faulty (request : Payload) (entry : String × ParameterPolicy) : Prop :=
  ∃ value, Members.get? entry.1 request = some value ∧
    ∃ element ∈ value.elements, entry.2.Offends element

/-- Some element of a declared parameter resolves to requirements with this one among them. -/
def Requires (rules : Ruleset) (request : Payload) (r : Requirement) : Prop :=
  ∃ name policy value, (name, policy) ∈ rules.entries ∧ Members.get? name request = some value ∧
    ∃ element ∈ value.elements, ∃ text needed,
      element.scalarText? = some text ∧ policy.Resolves text needed ∧ r ∈ needed

/-- The verdict on a request, whatever scopes are granted. -/
inductive Evaluates (rules : Ruleset) (request : Payload) :
    Except PolicyError Requirements → Prop where
  /-- A parameter has no policy; of several such names the least one in the order of bytes. -/
  | unknown {name : String} (hsent : name ∈ Members.names request)
      (hunknown : rules.get? name = none)
      (hleast : ∀ other ∈ Members.names request, rules.get? other = none →
        Utf8.encode name ≤ Utf8.encode other) :
      Evaluates rules request (.error (.unknownParameter name))
  /-- All parameters have one, and this is the first declared one with elements that are not
  supported. -/
  | unsupported {name : String} {policy : ParameterPolicy} {value : Json}
      {before after : List (String × ParameterPolicy)}
      (hknown : ∀ name ∈ Members.names request, rules.get? name ≠ none)
      (hentries : rules.entries = before ++ (name, policy) :: after)
      (hbefore : ∀ entry ∈ before, ¬ Faulty request entry)
      (hvalue : Members.get? name request = some value)
      (hoffends : ∃ element ∈ value.elements, policy.Offends element) :
      Evaluates rules request (.error (.unsupportedValue name
        ((value.elements.filter fun e => policy.Offends e).map Json.displayText)))
  /-- All parameters have one, and no declared one is at fault. -/
  | accepted {needed : Requirements}
      (hknown : ∀ name ∈ Members.names request, rules.get? name ≠ none)
      (hfaultless : ∀ entry ∈ rules.entries, ¬ Faulty request entry)
      (hneeded : ∀ r, r ∈ needed ↔ rules.Requires request r) :
      Evaluates rules request (.ok needed)

/-- The verdict on a request of a caller. -/
inductive Judges (rules : Ruleset) (request : Payload) (granted : NameSet) :
    Except PolicyError Requirements → Prop where
  /-- The request is at fault, whoever sends it. -/
  | faulty {error : PolicyError} (h : rules.Evaluates request (.error error)) :
      Judges rules request granted (.error error)
  /-- The caller satisfies all that is required. -/
  | passed {needed : Requirements} (h : rules.Evaluates request (.ok needed))
      (hmet : needed.MetBy granted) : Judges rules request granted (.ok needed)
  /-- The caller does not, and what is missing are the requirements that the caller does not
  satisfy. -/
  | denied {needed : Requirements} (h : rules.Evaluates request (.ok needed))
      (hunmet : ¬ needed.MetBy granted) :
      Judges rules request granted (.error (.permissionDenied needed.labels
        ((needed.toList.filter fun r => !r.satisfiedBy granted).map Requirement.label)))

variable {rules : Ruleset} {request : Payload} {granted : NameSet}

/-! ## Unknown parameters -/

/-- The first unknown parameter is the least one in the order of bytes. -/
theorem least_of_unknownParameters {name : String} {rest : List String}
    (h : (rules.unknownParameters request).toList = name :: rest) :
    name ∈ Members.names request ∧ rules.get? name = none ∧
      ∀ other ∈ Members.names request, rules.get? other = none →
        Utf8.encode name ≤ Utf8.encode other := by
  have hmem : ∀ other, other ∈ rules.unknownParameters request ↔ other ∈ name :: rest := by
    intro other
    rw [← h]
    exact Iff.rfl
  obtain ⟨hsent, hunknown⟩ := mem_unknownParameters.mp ((hmem name).mpr List.mem_cons_self)
  refine ⟨hsent, hunknown, fun other hother hnone => ?_⟩
  -- the unknown names ascend, and names ascend as their bytes do
  have hascending := (rules.unknownParameters request).ascending
  rw [h] at hascending
  rcases List.mem_cons.mp ((hmem other).mp (mem_unknownParameters.mpr ⟨hother, hnone⟩)) with
    rfl | hrest
  · exact List.le_refl _
  · have hlt := (List.pairwise_cons.mp hascending).1 other hrest
    exact List.le_of_lt (Text.Utf8.compare_eq_lt_iff.mp hlt)

/-! ## Faults -/

theorem not_faulty_iff {entry : String × ParameterPolicy} :
    ¬ Faulty request entry ↔ faultOf? request entry = none := by
  rw [faultOf?_eq_none_iff]
  unfold Faulty
  rw [not_exists]
  refine forall_congr' fun value => ?_
  rw [not_and, ← ParameterPolicy.rejected_ne_nil_iff, not_not]

/-! ## Requirements -/

/-- What the entries require together is what the request requires. -/
theorem requires_iff {r : Requirement} :
    rules.Requires request r ↔ ∃ entry ∈ rules.entries, r ∈ requiredBy request entry := by
  constructor
  · rintro ⟨name, policy, value, hentry, hvalue, element, helement, text, needed, htext,
      hresolves, hmem⟩
    refine ⟨(name, policy), hentry, mem_requiredBy.mpr ⟨value, hvalue, ?_⟩⟩
    refine ParameterPolicy.mem_required.mpr ⟨element, helement, needed, ?_, hmem⟩
    rw [ParameterPolicy.requirementsOn?, htext]
    exact ParameterPolicy.requirementsFor?_eq_some_iff.mpr hresolves
  · rintro ⟨⟨name, policy⟩, hentry, hr⟩
    obtain ⟨value, hvalue, hrequired⟩ := mem_requiredBy.mp hr
    obtain ⟨element, helement, needed, hneeded, hmem⟩ := ParameterPolicy.mem_required.mp hrequired
    obtain ⟨text, htext, hfor⟩ := ParameterPolicy.requirementsOn?_eq_some hneeded
    exact ⟨name, policy, value, hentry, hvalue, element, helement, text, needed, htext,
      ParameterPolicy.requirementsFor?_eq_some_iff.mp hfor, hmem⟩

/-! ## The verdict on a request -/

/-- **The evaluation gives one of the verdicts.** -/
theorem evaluates_requiredScopes (rules : Ruleset) (request : Payload) :
    rules.Evaluates request (rules.requiredScopes request) := by
  unfold requiredScopes
  -- unknown parameters come first, then faults, then the requirements
  split
  · rename_i name rest hunknown
    obtain ⟨hsent, hnone, hleast⟩ := least_of_unknownParameters hunknown
    exact .unknown hsent hnone hleast
  · rename_i hnil
    have hknown := unknownParameters_eq_nil_iff.mp hnil
    split
    · rename_i fault hfault
      obtain ⟨before, ⟨name, policy⟩, after, hentries, hfirst, hbefore⟩ :=
        List.findSome?_eq_some_iff.mp hfault
      obtain ⟨value, hvalue, hrejected, rfl⟩ := faultOf?_eq_some_iff.mp hfirst
      rw [ParameterPolicy.rejected_eq]
      exact .unsupported hknown hentries
        (fun entry hentry => not_faulty_iff.mpr (hbefore entry hentry)) hvalue
        (ParameterPolicy.rejected_ne_nil_iff.mp hrejected)
    · rename_i hfaultless
      refine .accepted hknown (fun entry hentry => ?_)
        fun r => mem_union_requiredBy.trans requires_iff.symm
      exact not_faulty_iff.mpr (List.findSome?_eq_none_iff.mp hfaultless entry hentry)

/-- **There is no other verdict.**  The unknown parameters are in ascending order, and of two least
names each is below the other.  A fault is found at the first entry that has one, since those before
it have none; and what is required is a set, which is determined by its members. -/
theorem Evaluates.requiredScopes_eq {result : Except PolicyError Requirements}
    (h : rules.Evaluates request result) : rules.requiredScopes request = result := by
  cases h with
  | @unknown name hsent hunknown hleast =>
    have hmem : name ∈ (rules.unknownParameters request).toList :=
      mem_unknownParameters.mpr ⟨hsent, hunknown⟩
    unfold requiredScopes
    cases hlist : (rules.unknownParameters request).toList with
    | nil =>
      rw [hlist] at hmem
      exact absurd hmem List.not_mem_nil
    | cons first rest =>
      -- two least names have the same bytes
      obtain ⟨hfirst, hnone, hfirstLeast⟩ := least_of_unknownParameters hlist
      have hbytes := List.le_antisymm (hfirstLeast name hsent hunknown) (hleast first hfirst hnone)
      rw [Text.Utf8.encode_injective hbytes]
  -- the entries before this one have no fault, so the search stops here
  | @unsupported name policy value before after hknown hentries hbefore hvalue hoffends =>
    have hfault : rules.entries.findSome? (faultOf? request)
        = some (.unsupportedValue name (policy.rejected value)) := by
      refine List.findSome?_eq_some_iff.mpr ⟨before, (name, policy), after, hentries, ?_, ?_⟩
      · exact faultOf?_eq_some_iff.mpr
          ⟨value, hvalue, ParameterPolicy.rejected_ne_nil_iff.mpr hoffends, rfl⟩
      · intro entry hentry
        exact not_faulty_iff.mp (hbefore entry hentry)
    rw [ParameterPolicy.rejected_eq] at hfault
    unfold requiredScopes
    rw [unknownParameters_eq_nil_iff.mpr hknown]
    dsimp only
    rw [hfault]
  -- the requirements are a set, which is settled by its members
  | accepted hknown hfaultless hneeded =>
    exact requiredScopes_eq_ok_iff.mpr ⟨hknown,
      fun entry hentry => not_faulty_iff.mp (hfaultless entry hentry),
      fun r => (hneeded r).trans requires_iff⟩

theorem requiredScopes_eq_iff {result : Except PolicyError Requirements} :
    rules.requiredScopes request = result ↔ rules.Evaluates request result := by
  constructor
  · rintro rfl
    exact evaluates_requiredScopes rules request
  · exact Evaluates.requiredScopes_eq

/-! ## The verdict for a caller -/

/-- A request at fault is refused as it would be from anyone. -/
theorem validate_of_error {error : PolicyError} (h : rules.requiredScopes request = .error error) :
    rules.validate request granted = .error error := by
  unfold validate
  rw [h]
  rfl

theorem validate_of_ok {needed : Requirements} (h : rules.requiredScopes request = .ok needed) :
    rules.validate request granted = (needed.ensureGranted granted).map fun _ => needed := by
  unfold validate
  rw [h]
  show (needed.ensureGranted granted >>= fun _ => pure needed) = _
  cases needed.ensureGranted granted <;> rfl

theorem judges_validate (rules : Ruleset) (request : Payload) (granted : NameSet) :
    rules.Judges request granted (rules.validate request granted) := by
  have hevaluates := rules.evaluates_requiredScopes request
  cases hneeded : rules.requiredScopes request with
  | error error =>
    rw [hneeded] at hevaluates
    rw [validate_of_error hneeded]
    exact .faulty hevaluates
  | ok needed =>
    rw [hneeded] at hevaluates
    rw [validate_of_ok hneeded]
    by_cases hmet : needed.MetBy granted
    · rw [Requirements.ensureGranted_eq_ok_iff.mpr hmet]
      exact .passed hevaluates hmet
    · rw [Requirements.ensureGranted_of_not_metBy hmet]
      exact .denied hevaluates hmet

theorem Judges.validate_eq {result : Except PolicyError Requirements}
    (h : rules.Judges request granted result) : rules.validate request granted = result := by
  cases h with
  | faulty hevaluates => exact validate_of_error hevaluates.requiredScopes_eq
  | passed hevaluates hmet =>
    rw [validate_of_ok hevaluates.requiredScopes_eq, Requirements.ensureGranted_eq_ok_iff.mpr hmet]
    rfl
  | denied hevaluates hunmet =>
    rw [validate_of_ok hevaluates.requiredScopes_eq, Requirements.ensureGranted_of_not_metBy hunmet]
    rfl

/-- Whoever holds more scopes passes as well, with the same requirements. -/
theorem validate_mono {larger : NameSet} {needed : Requirements}
    (hlarger : ∀ scope, scope ∈ granted → scope ∈ larger)
    (h : rules.validate request granted = .ok needed) :
    rules.validate request larger = .ok needed := by
  have hjudges := rules.judges_validate request granted
  rw [h] at hjudges
  cases hjudges with
  | passed hevaluates hmet =>
    exact (Judges.passed hevaluates (hmet.of_granted hlarger)).validate_eq

/-- **The evaluation of a ruleset is its specification.**  Of a request alone and of a request of a
caller, the verdict is the one that is specified, and no other.  More scopes do not change a verdict
that lets the caller pass. -/
theorem evaluation_exact (rules : Ruleset) (request : Payload) :
    (∀ result, rules.requiredScopes request = result ↔ rules.Evaluates request result) ∧
    (∀ granted result,
      rules.validate request granted = result ↔ rules.Judges request granted result) ∧
    ∀ (granted larger : NameSet) (needed : Requirements),
      (∀ scope, scope ∈ granted → scope ∈ larger) →
        rules.validate request granted = .ok needed →
          rules.validate request larger = .ok needed := by
  refine ⟨fun result => requiredScopes_eq_iff, fun granted result => ⟨?_, ?_⟩,
    fun granted larger needed hlarger h => validate_mono hlarger h⟩
  · rintro rfl
    exact judges_validate rules request granted
  · exact Judges.validate_eq

end Ruleset

end RegistryGate
