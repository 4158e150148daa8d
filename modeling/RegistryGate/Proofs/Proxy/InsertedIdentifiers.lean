/-
  Identifying fields that the audit record needs, and the caller does not see.

  On the way out the register is asked for what the caller asked for, followed by the identifying
  fields that the caller did not name.  On the way back these are taken out of every record again,
  after completion, which could have put them in.  A field that the caller named was not inserted,
  so it is not taken out.

  Both ends are tied together by `prepare`: what it inserts is what the last stages take out
  (`inserted_identifiers_invisible`).
-/
import RegistryGate.Proofs.Document.Completion
import RegistryGate.Proofs.Field.Names
import RegistryGate.Proofs.Proxy.FieldAuthorization
import RegistryGate.Proofs.Proxy.RecordWise

namespace RegistryGate

namespace Document

/-! ## Stripped records -/

/-- Names without dots are taken out of a record; every other field stays. -/
theorem get?_stripRecord {fields : List String} (hdots : ∀ field ∈ fields, '.' ∉ field.toList)
    (name : String) (record : Json) :
    (stripRecord fields record).get? name = if name ∈ fields then none else record.get? name := by
  cases record with
  | null | bool | number | string | array => exact (ite_self none).symm
  | object members =>
    show Members.get? name (fields.foldl _ members)
      = if name ∈ fields then none else Members.get? name members
    -- on the fields, each of which takes its own name out
    induction fields generalizing members with
    | nil => simp
    | cons field rest ih =>
      obtain ⟨hdot, hrest⟩ := List.forall_mem_cons.mp hdots
      rw [List.foldl_cons, ih hrest, Field.segments_of_no_dot hdot, removeSegments]
      by_cases hmem : name ∈ rest
      · simp [hmem]
      · by_cases hname : name = field
        · subst hname
          simp [hmem, Members.get?_erase_self]
        · simp [hmem, hname, Members.get?_erase_of_ne hname]

/-- Completing a record takes no field out of it. -/
theorem isSome_get?_completeRecord {name : String} {record : Json}
    (h : (record.get? name).isSome = true) (requested : FieldTree) (shape : Shape) :
    ((completeRecord requested shape record).get? name).isSome = true := by
  obtain ⟨value, hvalue⟩ := Option.isSome_iff_exists.mp h
  have hbefore : record.nested? [.member name] = some value := by
    -- completion only adds, so what is found before is found after it
    rw [Json.nested?_cons]
    exact Option.bind_eq_some_iff.mpr ⟨value, hvalue, rfl⟩
  obtain ⟨found, hfound, -⟩ := (grows_completeRecord requested shape record).kept _ _ hbefore
  rw [Json.nested?_cons] at hfound
  obtain ⟨inner, hinner, -⟩ := Option.bind_eq_some_iff.mp hfound
  exact Option.isSome_iff_exists.mpr ⟨inner, hinner⟩

end Document

namespace Proxy

open Token (Cipher TokenError)

variable {endpoint : Endpoint} {cipher : Cipher} {request : Request} {prepared : Prepared}
variable {key name : String} {records : List Json} {body : Json}

/-! ## Names on the way out -/

/-- The fields that a caller gets: the ones that were sent, or else the ones that were filled in. -/
def askedFields (variant : Variant) (granted : NameSet) (payload : Payload) : List String :=
  requestedFields (judgedPayload variant granted payload)

/-- What a caller sent is what the caller gets. -/
theorem askedFields_of_sent {payload : Payload} (h : payload.contains fieldsParameter = true)
    (variant : Variant) (granted : NameSet) :
    askedFields variant granted payload = requestedFields payload := by
  obtain ⟨value, hvalue⟩ := Option.isSome_iff_exists.mp h
  unfold askedFields requestedFields
  rw [get?_judgedPayload_of_some hvalue, hvalue]

/-- Where nothing else fills in the parameter, the caller gets the default fields. -/
theorem askedFields_of_absent {variant : Variant} {fields : VariantFields} {granted : NameSet}
    {payload : Payload} (hfields : variant.fields = some fields)
    (habsent : (variant.augment granted payload).contains fieldsParameter = false) :
    askedFields variant granted payload = fields.defaults granted := by
  have hnone : Members.get? fieldsParameter (variant.augment granted payload) = none :=
    Option.isNone_iff_eq_none.mp (Option.isSome_eq_false_iff.mp habsent)
  unfold askedFields judgedPayload resolveFields
  rw [hfields]
  dsimp only
  rw [habsent, if_neg Bool.false_ne_true]
  cases hdefaults : fields.defaults granted with
  | nil => simp [requestedFields, hnone]
  | cons first rest => exact requestedFields_insert _ _

/-- The identifying fields that are inserted for a caller who does not get them. -/
def unaskedIdentifiers (variant : Variant) (granted : NameSet) (payload : Payload) : List String :=
  variant.insertedIdentifiers.filter fun field =>
    !(askedFields variant granted payload).contains field

theorem not_mem_of_mem_unaskedIdentifiers {variant : Variant} {granted : NameSet}
    {payload : Payload} (h : name ∈ unaskedIdentifiers variant granted payload) :
    name ∉ askedFields variant granted payload := by
  intro hasked
  have hcontains := (List.mem_filter.mp h).2
  rw [List.contains_iff_mem.mpr hasked] at hcontains
  cases hcontains

/-- What is inserted, and what the register is asked for, in terms of what the caller gets. -/
theorem Admission.names (h : Admission endpoint cipher request prepared)
    (hfields : prepared.variant.fields.isSome = true)
    (htokens : ∀ rule, endpoint.tokenization = some rule → fieldsParameter ∉ rule.parameters) :
    prepared.inserted
        = unaskedIdentifiers prepared.variant request.principal.scopes request.payload ∧
      requestedFields prepared.payload
        = askedFields prepared.variant request.principal.scopes request.payload
            ++ prepared.inserted := by
  obtain ⟨resolved, hresolved, hinserted⟩ := h.forwarded
  have hsame : requestedFields resolved
      = askedFields prepared.variant request.principal.scopes request.payload := by
    unfold askedFields requestedFields
    rw [get?_resolveTokens_of_not_mem hresolved htokens]
  have hnames := requestedFields_insertIdentifiers prepared.variant resolved
  have hlist : prepared.inserted = identifiersToInsert prepared.variant resolved := by
    rw [insertIdentifiers_eq] at hinserted
    exact (congrArg Prod.fst hinserted).symm
  rw [hinserted, ← hlist, hsame] at hnames
  refine ⟨?_, hnames⟩
  rw [hlist, identifiersToInsert, hsame, unaskedIdentifiers, if_neg]
  rw [Option.isNone_eq_false_iff.mpr hfields]
  exact Bool.false_ne_true

/-! ## Records on the way back -/

/-- An inserted field is taken out of every record. -/
theorem get?_shapedRecord_of_mem (hdots : ∀ field ∈ prepared.inserted, '.' ∉ field.toList)
    (h : name ∈ prepared.inserted) (record : Json) :
    (shapedRecord endpoint request prepared record).get? name = none := by
  rw [shapedRecord, Document.get?_stripRecord hdots, if_pos h]

/-- Any other field of a record is still there. -/
theorem isSome_get?_shapedRecord (hdots : ∀ field ∈ prepared.inserted, '.' ∉ field.toList)
    (hname : name ∉ prepared.inserted) {record : Json} (h : (record.get? name).isSome = true) :
    ((shapedRecord endpoint request prepared record).get? name).isSome = true := by
  have hlinked : ((Document.redirectLinks endpoint.registerUrl endpoint.publicUrl record).get?
      name).isSome = true := by
    rw [Document.get?_redirectLinks, Option.isSome_map]
    exact h
  -- stripping takes out other names, and before it the record was only added to
  rw [shapedRecord, Document.get?_stripRecord hdots, if_neg hname]
  unfold completedRecord
  split
  · split
    · exact Document.isSome_get?_completeRecord hlinked _ _
    · exact hlinked
  · exact hlinked

/-- The records of an answer, place by place: each is a kept record after shaping, of which texts
may have been replaced, and no field is added or taken out by that. -/
theorem exists_shown_of_transform {result : Json} (hkey : endpoint.recordsKey = some key)
    (hlinks : key ≠ "_links") (hbody : body.get? key = some (.array records))
    (h : transform endpoint cipher request prepared body = .ok result) :
    ∃ shown, result.get? key = some (.array shown) ∧
      ∀ index : Nat, (records.filter fun record =>
          !hides endpoint request.principal.scopes record)[index]?.mapM
            (shownRecord endpoint cipher request prepared) = .ok shown[index]? := by
  obtain ⟨fields, replacement, htokens⟩ :=
    exists_tokenStage_eq endpoint cipher prepared.tokenizing
  rw [transform_eq hkey, htokens] at h
  obtain ⟨found, hfound, hget⟩ :=
    Document.get?_eq_some_of_replaceTexts h (get?_shaped_self hlinks hbody)
  obtain ⟨shown, hshown, rfl⟩ := Document.replaceTexts_array.mp hfound
  rw [List.mapM_map, ← htokens] at hshown
  exact ⟨shown, hget, fun index => Fallible.getElem?_mapM hshown index⟩

/-- Replacing its identifiers neither adds a field to a record nor takes one out. -/
theorem isSome_get?_shownRecord {record shown : Json}
    (h : shownRecord endpoint cipher request prepared record = .ok shown) (name : String) :
    (shown.get? name).isSome
      = ((shapedRecord endpoint request prepared record).get? name).isSome := by
  obtain ⟨fields, replacement, htokens⟩ :=
    exists_tokenStage_eq endpoint cipher prepared.tokenizing
  rw [shownRecord, htokens] at h
  cases hshaped : (shapedRecord endpoint request prepared record).get? name with
  | none => rw [Document.get?_eq_none_of_replaceTexts h hshaped]
  | some value =>
    obtain ⟨found, -, hget⟩ := Document.get?_eq_some_of_replaceTexts h hshaped
    rw [hget]
    rfl

/-- **The records of an answer have no inserted field, and every other field that they had.** -/
theorem exists_stripped_of_transform {result : Json} (hkey : endpoint.recordsKey = some key)
    (hlinks : key ≠ "_links") (hbody : body.get? key = some (.array records))
    (hdots : ∀ field ∈ prepared.inserted, '.' ∉ field.toList)
    (h : transform endpoint cipher request prepared body = .ok result) :
    ∃ shown, result.get? key = some (.array shown) ∧
      (∀ record ∈ shown, ∀ field ∈ prepared.inserted, record.get? field = none) ∧
      ∀ (index : Nat) (record : Json),
        (records.filter fun record =>
          !hides endpoint request.principal.scopes record)[index]? = some record →
        ∃ out, shown[index]? = some out ∧
          ∀ field, field ∉ prepared.inserted →
            (record.get? field).isSome = true → (out.get? field).isSome = true := by
  obtain ⟨shown, hshown, hplaces⟩ := exists_shown_of_transform hkey hlinks hbody h
  refine ⟨shown, hshown, ?_, ?_⟩
  · intro record hrecord field hfield
    obtain ⟨index, hindex⟩ := List.getElem?_of_mem hrecord
    have hplace := hplaces index
    rw [hindex] at hplace
    obtain ⟨kept, -, hkept⟩ := Fallible.exists_of_mapM_eq_some hplace
    rw [← Option.not_isSome_iff_eq_none, isSome_get?_shownRecord hkept,
      get?_shapedRecord_of_mem hdots hfield]
    exact Bool.false_ne_true
  · intro index record hrecord
    have hplace := hplaces index
    rw [hrecord] at hplace
    obtain ⟨out, hout, hget⟩ := Fallible.map_eq_ok_iff.mp hplace
    refine ⟨out, hget.symm, fun field hfield hhad => ?_⟩
    rw [isSome_get?_shownRecord hout]
    exact isSome_get?_shapedRecord hdots hfield hhad

/-! ## Both ends -/

/-- Without the identifying fields that were put behind it, a list is the caller's again. -/
theorem filter_append_unaskedIdentifiers (variant : Variant) (granted : NameSet)
    (payload : Payload) :
    ((askedFields variant granted payload ++ unaskedIdentifiers variant granted payload).filter
        fun field => !(unaskedIdentifiers variant granted payload).contains field)
      = askedFields variant granted payload := by
  -- the caller's own fields are none of those that were put behind them
  have hkept : ∀ field ∈ askedFields variant granted payload,
      (!(unaskedIdentifiers variant granted payload).contains field) = true := by
    intro field hasked
    rw [Bool.not_eq_true', List.contains_eq_mem, decide_eq_false_iff_not]
    exact fun hunasked => not_mem_of_mem_unaskedIdentifiers hunasked hasked
  have hdropped : ∀ field ∈ unaskedIdentifiers variant granted payload,
      ¬ (!(unaskedIdentifiers variant granted payload).contains field) = true := by
    intro field hunasked
    rw [List.contains_iff_mem.mpr hunasked]
    exact Bool.false_ne_true
  rw [List.filter_append, List.filter_eq_self.mpr hkept, List.filter_eq_nil_iff.mpr hdropped,
    List.append_nil]

/-- **Identifying fields that are inserted stay between the gateway and the register.**  The register
is asked for what the caller gets, in the caller's order, and then for the identifying fields that
the caller does not get; without these it is the caller's list again.  No record of the answer has
such a field, full results included.  An identifying field that the caller gets is in every record
of the answer where the register had it. -/
theorem inserted_identifiers_invisible {register : RegisterCall → RegisterResult}
    {call : RegisterCall} {variant : Variant} {fields : VariantFields} {answer : RegisterResponse}
    {response : Response} (hkey : endpoint.recordsKey = some key) (hlinks : key ≠ "_links")
    (htokens : ∀ rule, endpoint.tokenization = some rule → fieldsParameter ∉ rule.parameters)
    (hselected : endpoint.select request.payload = .ok variant)
    (hfields : variant.fields = some fields)
    (hdots : ∀ field ∈ variant.insertedIdentifiers, '.' ∉ field.toList)
    (hcall : call ∈ (run endpoint cipher register request).calls)
    (hanswer : register call = .ok answer)
    (hrecords : answer.body.get? key = some (.array records))
    (hresponse : (run endpoint cipher register request).result = .ok response) :
    ((request.payload.contains fieldsParameter = true →
        askedFields variant request.principal.scopes request.payload
          = requestedFields request.payload) ∧
      ((variant.augment request.principal.scopes request.payload).contains fieldsParameter = false →
        askedFields variant request.principal.scopes request.payload
          = fields.defaults request.principal.scopes)) ∧
    (∃ forwarded, call.payload = .object forwarded ∧
      requestedFields forwarded
        = askedFields variant request.principal.scopes request.payload
            ++ unaskedIdentifiers variant request.principal.scopes request.payload ∧
      ((requestedFields forwarded).filter fun field =>
          !(unaskedIdentifiers variant request.principal.scopes request.payload).contains field)
        = askedFields variant request.principal.scopes request.payload) ∧
    ∃ shown, response.body.get? key = some (.array shown) ∧
      (∀ record ∈ shown,
        ∀ field ∈ unaskedIdentifiers variant request.principal.scopes request.payload,
          record.get? field = none) ∧
      ∀ (index : Nat) (record : Json),
        (records.filter fun record =>
          !hides endpoint request.principal.scopes record)[index]? = some record →
        ∃ out, shown[index]? = some out ∧
          ∀ field ∈ variant.insertedIdentifiers,
            field ∈ askedFields variant request.principal.scopes request.payload →
            (record.get? field).isSome = true → (out.get? field).isSome = true := by
  obtain ⟨prepared, rfl, hadmitted, htransform⟩ :=
    exists_transform_of_answered hcall hanswer hresponse
  obtain rfl := hadmitted.variant_eq hselected
  obtain ⟨hinserted, hnames⟩ := hadmitted.names (Option.isSome_of_eq_some hfields) htokens
  have hdotless : ∀ field ∈ prepared.inserted, '.' ∉ field.toList := by
    intro field hfield
    rw [hinserted] at hfield
    exact hdots field (List.mem_filter.mp hfield).1
  obtain ⟨shown, hshown, hstripped, hkept⟩ :=
    exists_stripped_of_transform hkey hlinks hrecords hdotless htransform
  rw [hinserted] at hnames hstripped hkept
  refine ⟨⟨fun hsent => askedFields_of_sent hsent _ _, askedFields_of_absent hfields⟩,
    ⟨prepared.payload, rfl, hnames, ?_⟩, shown, hshown, hstripped, fun index record hrecord => ?_⟩
  · rw [hnames]
    exact filter_append_unaskedIdentifiers ..
  · obtain ⟨out, hout, hfields⟩ := hkept index record hrecord
    exact ⟨out, hout, fun field _ hasked hhad => hfields field
      (fun hunasked => not_mem_of_mem_unaskedIdentifiers hunasked hasked) hhad⟩

/-- A variant of the register of names and ages that is always asked for the age and the number of a
person. -/
def numberedVariant : Variant := nameVariant.withInsertedIdentifiers ["leeftijd", "nummer"]

/-- An endpoint with that variant that completes its records. -/
def numberedEndpoint : Endpoint :=
  { Endpoint.ofService "namen" "https://register.example/namen" "/namen" .empty with
      recordsKey := some "personen"
      shape := some nameShape }.withVariant numberedVariant

/-- A caller who asks for ages and names, and for the full result. -/
def numberedRequest : Request where
  payload := [("fields", .array [.string "leeftijd", .string "naam.voornamen"]),
    ("type", .string "Zoek")]
  principal := ⟨"caller", SortedSet.ofList ["dataset-ages", "dataset-names"]⟩
  correlationId := none
  taskDescription := none
  fullResult := true

/-- What the register is asked for. -/
def numberedCall : RegisterCall where
  url := "https://register.example/namen"
  payload := .object
    [("fields", .array [.string "leeftijd", .string "naam.voornamen", .string "nummer"]),
      ("type", .string "Zoek")]

/-- It has the age and the number of one person. -/
def numberedRegister : RegisterCall → RegisterResult := fun _ =>
  .ok ⟨200, none, .object [("personen", .array
    [.object [("leeftijd", .number (.integer 40)), ("nummer", .string "7")]])]⟩

/-- The caller's document. -/
def numberedShown : Json :=
  .object [("personen", .array
    [.object [("leeftijd", .number (.integer 40)), ("naam", .object [("voornamen", .null)])]])]

/-- The register is asked for the number, which the caller does not get; the age, which the caller
asked for, stays. -/
theorem inserted_identifiers_invisible_of_numbers :
    ∃ forwarded, numberedCall.payload = .object forwarded ∧
      requestedFields forwarded = ["leeftijd", "naam.voornamen", "nummer"] ∧
      ∃ shown, numberedShown.get? "personen" = some (.array shown) ∧
        (∀ record ∈ shown, record.get? "nummer" = none) ∧
        ∃ out, shown[0]? = some out ∧ (out.get? "leeftijd").isSome = true := by
  have hcall : numberedCall ∈ (run numberedEndpoint ⟨Digest.hmacSha256, []⟩ numberedRegister
      numberedRequest).calls := by decide +kernel
  have hresponse : (run numberedEndpoint ⟨Digest.hmacSha256, []⟩ numberedRegister
      numberedRequest).result = .ok ⟨200, none, numberedShown⟩ :=
    Fallible.eq_ok_of_toOption (by decide +kernel)
  have htokens : ∀ rule, numberedEndpoint.tokenization = some rule →
      fieldsParameter ∉ rule.parameters := fun _ hrule => nomatch hrule
  have hselected : numberedEndpoint.select numberedRequest.payload = .ok numberedVariant := rfl
  obtain ⟨-, ⟨forwarded, hforwarded, hnames, -⟩, shown, hshown, hstripped, hkept⟩ :=
    inserted_identifiers_invisible rfl (by decide) htokens hselected rfl (by decide) hcall rfl rfl
      hresponse
  have hunasked : unaskedIdentifiers numberedVariant numberedRequest.principal.scopes
      numberedRequest.payload = ["nummer"] := by decide +kernel
  have hasked : askedFields numberedVariant numberedRequest.principal.scopes
      numberedRequest.payload = ["leeftijd", "naam.voornamen"] := by decide +kernel
  rw [hunasked] at hnames hstripped
  rw [hasked] at hnames hkept
  obtain ⟨out, hout, hfields⟩ := hkept 0 _ rfl
  exact ⟨forwarded, hforwarded, hnames, shown, hshown,
    fun record hrecord => hstripped record hrecord _ List.mem_cons_self, out, hout,
    hfields "leeftijd" List.mem_cons_self List.mem_cons_self rfl⟩

end Proxy

end RegistryGate
