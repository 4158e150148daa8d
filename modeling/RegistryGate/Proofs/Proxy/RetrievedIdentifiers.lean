/-
  The audit trail keeps every identifier that came back.

  The identifiers of an answer are recorded in the middle of its way to the caller: its links have
  been redirected by then, and it has not yet been completed, cleared of confidential records,
  stripped and put into tokens.  So the stages behind have no say in the record.  The one before
  changes the targets of links only (`identifierText?_redirectLinks`), and no target is at the path of
  an identifier that does not go through a links section.

  What is recorded is therefore a matter of the answer as it came.  `NamesRecords` says of a list of
  entries that it has the identifiers of every record, in order; there is one such list for each
  answer (`NamesRecords.unique`), and the audit record has it (`retrieved_exactly`).
-/
import RegistryGate.Proofs.Document.Redirection
import RegistryGate.Proofs.Proxy.AskedFields

namespace RegistryGate

namespace Document

variable {source target key : String}

/-! ## Texts off the links -/

/-- A value that is kept is the same text or number as before, or none in both cases. -/
theorem Kept.identifierText?_eq {sent found : Json} (h : Kept sent found) :
    identifierText? found = identifierText? sent := by
  cases sent with
  | null | bool | number | string =>
    obtain rfl : _ = found := h
    rfl
  | array items =>
    cases found with
    | array => rfl
    | null | bool | number | string | object => cases h
  | object members =>
    cases found with
    | object => rfl
    | null | bool | number | string | array => cases h

/-- Off the targets of links every place has the same text or number as before. -/
theorem identifierText?_redirectLinks {place : Position} (hplace : ¬ place.IsLinkTarget)
    (document : Json) :
    ((redirectLinks source target document).nested? place).bind identifierText?
      = (document.nested? place).bind identifierText? := by
  unfold redirectLinks
  split
  · rfl
  · -- place by place the value was kept, unless the place is the target of a link
    have hrel := rel_redirectIn source target document place
    generalize document.nested? place = sent at hrel ⊢
    generalize (redirectIn source target false document).nested? place = found at hrel ⊢
    cases hrel with
    | none => rfl
    | some hredirected =>
      cases hredirected with
      | link htarget => exact absurd htarget hplace
      | other _ hkept => exact hkept.identifierText?_eq

/-- A way down objects is a place. -/
theorem valueAt?_eq_nested? (value : Json) (names : List String) :
    valueAt? value names = value.nested? (names.map Step.member) := by
  -- on the names
  induction names generalizing value with
  | nil => rfl
  | cons name rest ih =>
    have hinside : (fun inner => valueAt? inner rest)
        = fun inner => inner.nested? (rest.map Step.member) := funext ih
    rw [valueAt?, hinside, List.map_cons, Json.nested?_cons]
    rfl

/-- The identifiers of a record are the same before and after its links are redirected. -/
theorem identifierOf_redirectLinks {path : String} (h : linksKey ∉ Field.segments path)
    (record : Json) :
    identifierOf (redirectLinks source target record) path = identifierOf record path := by
  -- a name of the links section would be among the names of the path
  have hplace : ¬ Position.IsLinkTarget ((Field.segments path).map Step.member) := by
    rintro ⟨front, hfront, hlinks⟩
    have hmem : Step.member linksKey ∈ (Field.segments path).map Step.member := by
      rw [hfront]
      exact List.mem_append_left _ hlinks
    obtain ⟨name, hname, heq⟩ := List.mem_map.mp hmem
    obtain rfl := Step.member.inj heq
    exact h hname
  rw [identifierOf, identifierOf, valueAt?_eq_nested?, valueAt?_eq_nested?,
    identifierText?_redirectLinks hplace]

/-- The records of an answer whose links were redirected are its records, each by itself. -/
theorem records_redirectLinks (h : key ≠ linksKey) (document : Json) :
    records key (redirectLinks source target document)
      = (records key document).map (redirectLinks source target) := by
  rw [records, records, get?_redirectLinks, redirectMember_of_ne h]
  cases document.get? key with
  | none => rfl
  | some value =>
    rw [Option.map_some, Option.bind_some, Option.bind_some]
    cases value with
    | array items =>
      rw [redirectLinks_array]
      rfl
    | null | bool | number | string | object =>
      unfold redirectLinks
      split <;> rfl

end Document

namespace Proxy

open Token (Cipher)

variable {endpoint : Endpoint} {cipher : Cipher} {request : Request}
variable {register : RegisterCall → RegisterResult} {key : String} {paths : List String}
variable {body : Json} {entries : List (Members String)}

/-! ## Entries of an answer -/

/-- The text that is recorded of a place: that of the text or number there, or else the mark of an
absent identifier. -/
def recordedAt (body : Json) (place : Position) : String :=
  ((body.nested? place).bind Document.identifierText?).getD Document.absentIdentifier

/-- The entry of one record: a text for each of the paths and for nothing else, namely the one that
the answer has there. -/
structure NamesRecord (key : String) (paths : List String) (body : Json) (index : Nat)
    (entry : Members String) : Prop where
  /-- The entry has each name once. -/
  sorted : Members.Sorted entry
  /-- Its names are the paths. -/
  names : ∀ path, path ∈ Members.names entry ↔ path ∈ paths
  /-- Each path has the text of its place in the record. -/
  texts : ∀ path ∈ paths, Members.get? path entry = some (recordedAt body (placeOf key index path))

/-- The entries of an answer: one for each of its records, in order. -/
structure NamesRecords (key : String) (paths : List String) (body : Json)
    (entries : List (Members String)) : Prop where
  /-- There is an entry for each item of the record list. -/
  length : ∀ items, body.get? key = some (.array items) → entries.length = items.length
  /-- Without a record list there is none. -/
  none : (∀ items, body.get? key ≠ some (.array items)) → entries = []
  /-- Each entry is that of the record at its place. -/
  entry : ∀ index entry, entries[index]? = some entry → NamesRecord key paths body index entry

/-- A record has one entry. -/
theorem NamesRecord.unique {index : Nat} {entry other : Members String}
    (h : NamesRecord key paths body index entry) (h' : NamesRecord key paths body index other) :
    entry = other := by
  refine Members.ext_get? h.sorted h'.sorted fun path => ?_
  by_cases hpath : path ∈ paths
  · rw [h.texts path hpath, h'.texts path hpath]
  · have habsent : ∀ ms : Members String, (path ∈ Members.names ms ↔ path ∈ paths) →
        Members.get? path ms = none := fun ms hnames =>
      Option.eq_none_iff_forall_ne_some.mpr fun _ hget =>
        hpath (hnames.mp (Members.mem_names_of_get? hget))
    rw [habsent entry (h.names path), habsent other (h'.names path)]

/-- **An answer has one list of entries.** -/
theorem NamesRecords.unique {others : List (Members String)}
    (h : NamesRecords key paths body entries) (h' : NamesRecords key paths body others) :
    entries = others := by
  by_cases hrecords : ∃ items, body.get? key = some (.array items)
  · obtain ⟨items, hitems⟩ := hrecords
    refine List.ext_getElem ((h.length items hitems).trans (h'.length items hitems).symm) ?_
    intro index hindex hindex'
    exact (h.entry index _ (List.getElem?_eq_getElem hindex)).unique
      (h'.entry index _ (List.getElem?_eq_getElem hindex'))
  · rw [h.none (not_exists.mp hrecords), h'.none (not_exists.mp hrecords)]

/-! ## What is captured -/

/-- What is recorded of a place in a record is the identifier of that record. -/
theorem recordedAt_placeOf {items : List Json} {record : Json} {index : Nat}
    (hitems : body.get? key = some (.array items)) (hrecord : items[index]? = some record)
    (path : String) :
    recordedAt body (placeOf key index path) = Document.identifierOf record path := by
  have hplace : body.nested? (placeOf key index path)
      = record.nested? ((Field.segments path).map Step.member) := by
    rw [placeOf, Json.nested?_cons, show body.step? (.member key) = _ from hitems, Option.bind_some,
      Json.nested?_array_item, hrecord, Option.bind_some]
  rw [recordedAt, hplace, Document.identifierOf, Document.valueAt?_eq_nested?]

/-- The identifiers of a record, under their paths, are its entry. -/
theorem namesRecord_identifiersOf {items : List Json} {record : Json} {index : Nat}
    (hitems : body.get? key = some (.array items)) (hrecord : items[index]? = some record)
    (paths : List String) :
    NamesRecord key paths body index (Document.identifiersOf paths record) := by
  have hget : ∀ path, Members.get? path (Document.identifiersOf paths record)
      = if path ∈ paths then some (Document.identifierOf record path) else none := fun path =>
    Members.get?_foldl_insert_map (Document.identifierOf record) path paths []
  refine ⟨Members.sorted_ofList _, fun path => ⟨fun hname => ?_, fun hpath => ?_⟩,
    fun path hpath => ?_⟩
  · obtain ⟨text, htext⟩ := Members.exists_get?_of_mem_names hname
    rw [hget] at htext
    split at htext
    · assumption
    · cases htext
  · exact Members.mem_names_of_get? ((hget path).trans (if_pos hpath))
  · rw [hget, if_pos hpath, recordedAt_placeOf hitems hrecord]

/-- **What is captured of an answer whose links were redirected are the entries of the answer as it
came.**  Links are redirected under one name only, which is none of those that a path to an
identifier consists of; so record by record the same texts are captured. -/
theorem namesRecords_captureIdentifiers (hkey : key ≠ Document.linksKey) (hsome : paths ≠ [])
    (hpaths : ∀ path ∈ paths, Document.linksKey ∉ Field.segments path) (source target : String)
    (body : Json) :
    NamesRecords key paths body (Document.captureIdentifiers key paths
      (Document.redirectLinks source target body)) := by
  -- with something to capture, the links of a record do not matter
  have hentries : Document.captureIdentifiers key paths (Document.redirectLinks source target body)
      = (Document.records key body).map (Document.identifiersOf paths) := by
    have hnonempty : ¬ paths.isEmpty = true := fun hempty => hsome (List.isEmpty_iff.mp hempty)
    rw [Document.captureIdentifiers, if_neg hnonempty, Document.records_redirectLinks hkey,
      List.map_map]
    refine List.map_congr_left fun record _ => congrArg Members.ofList ?_
    exact List.map_congr_left fun path hpath =>
      congrArg (Prod.mk path) (Document.identifierOf_redirectLinks (hpaths path hpath) record)
  rw [hentries]
  by_cases hrecords : ∃ items, body.get? key = some (.array items)
  · obtain ⟨items, hitems⟩ := hrecords
    have hlist : Document.records key body = items := by
      rw [Document.records, hitems]
      rfl
    rw [hlist]
    refine ⟨fun items' hitems' => ?_, fun hnone => absurd hitems (hnone items), ?_⟩
    · obtain rfl := Json.array.inj (Option.some.inj (hitems.symm.trans hitems'))
      exact List.length_map _
    · intro index entry hentry
      rw [List.getElem?_map] at hentry
      obtain ⟨record, hrecord, rfl⟩ := Option.map_eq_some_iff.mp hentry
      exact namesRecord_identifiersOf hitems hrecord paths
  · have hlist : Document.records key body = [] := by
      rw [Document.records]
      cases hget : body.get? key with
      | none => rfl
      | some value =>
        cases value with
        | array items => exact absurd ⟨items, hget⟩ hrecords
        | null | bool | number | string | object => rfl
    rw [hlist]
    exact ⟨fun items hitems => absurd ⟨items, hitems⟩ hrecords, fun _ => rfl,
      fun _ _ hentry => by cases hentry⟩

/-! ## Runs -/

/-- A run answers the caller and leaves one record, which lists the entries; `body` is what the
register has answered. -/
structure Run.Lists (r : Run) (register : RegisterCall → RegisterResult) (body : Json)
    (entries : List (Members String)) : Prop where
  /-- The caller gets an answer. -/
  answered : ∃ response, r.result = .ok response
  /-- The register was called once and has answered. -/
  called : ∃ call answer, r.calls = [call] ∧ register call = .ok answer ∧ answer.body = body
  /-- The one record of the run grants the request and lists the entries. -/
  recorded : ∃ record, r.audit = [record] ∧ record.outcome = .granted ∧ record.retrieved = entries

/-- An answered run lists what was captured of the register's answer. -/
theorem lists_of_answered {response : Response}
    (hresponse : (run endpoint cipher register request).result = .ok response) :
    ∃ body, (run endpoint cipher register request).Lists register body
      (retrievedFrom endpoint body) := by
  have hend := ending_run endpoint cipher register request
  generalize run endpoint cipher register request = r at hend hresponse
  -- only the end with an answer has a response
  cases hend with
  | refused | failed | untold => cases hresponse
  | answered _ hregister _ =>
    exact ⟨_, ⟨_, rfl⟩, ⟨_, _, rfl, hregister, rfl⟩, ⟨_, rfl, rfl, rfl⟩⟩

/-- A run lists one thing, of one answer. -/
theorem Run.Lists.unique {r : Run} {other : Json} {others : List (Members String)}
    (h : r.Lists register body entries) (h' : r.Lists register other others) :
    body = other ∧ entries = others := by
  obtain ⟨call, answer, hcall, hanswer, rfl⟩ := h.called
  obtain ⟨call', answer', hcall', hanswer', rfl⟩ := h'.called
  obtain ⟨record, hrecord, -, rfl⟩ := h.recorded
  obtain ⟨record', hrecord', -, rfl⟩ := h'.recorded
  obtain rfl := List.singleton_inj.mp (hcall.symm.trans hcall')
  obtain rfl := List.singleton_inj.mp (hrecord.symm.trans hrecord')
  exact ⟨congrArg RegisterResponse.body (Except.ok.inj (hanswer.symm.trans hanswer')), rfl⟩

/-- **The audit record keeps the identifiers of every record that came back.**  Take an endpoint
whose records are not the links section and whose identifiers do not lie in one.  A run that is
answered leaves one record, which has an entry for each item of the register's record list, in
order, also for those that the caller does not get; an entry has the text that the register has sent
for each identifier, or the mark of an absent one.  Nothing else matters: any other answered run on
the same answer lists the same entries, whatever the endpoint hides, strips, completes or puts into
tokens, and whoever asks. -/
theorem retrieved_exactly {response : Response} (hkey : endpoint.recordsKey = some key)
    (hlinks : key ≠ Document.linksKey) (hsome : endpoint.auditIdentifiers ≠ [])
    (hpaths : ∀ path ∈ endpoint.auditIdentifiers, Document.linksKey ∉ Field.segments path)
    (hresponse : (run endpoint cipher register request).result = .ok response) :
    ∃ body entries, (run endpoint cipher register request).Lists register body entries ∧
      NamesRecords key endpoint.auditIdentifiers body entries ∧
      ∀ (endpoint' : Endpoint) (cipher' : Cipher) (register' : RegisterCall → RegisterResult)
        (request' : Request) (entries' : List (Members String)),
        endpoint'.recordsKey = some key →
        endpoint'.auditIdentifiers = endpoint.auditIdentifiers →
        (run endpoint' cipher' register' request').Lists register' body entries' →
        entries' = entries := by
  -- whatever an endpoint with this key and these identifiers lists are the entries of its answer
  have hnames : ∀ (other : Endpoint) (body : Json), other.recordsKey = some key →
      other.auditIdentifiers = endpoint.auditIdentifiers →
      NamesRecords key endpoint.auditIdentifiers body (retrievedFrom other body) := by
    intro other body hother hsame
    rw [retrievedFrom, hother]
    dsimp only
    rw [hsame]
    exact namesRecords_captureIdentifiers hlinks hsome hpaths _ _ body
  obtain ⟨body, hlists⟩ := lists_of_answered hresponse
  refine ⟨body, _, hlists, hnames endpoint body hkey rfl, ?_⟩
  intro endpoint' cipher' register' request' entries' hkey' hsame hlists'
  obtain ⟨response', hresponse'⟩ := hlists'.answered
  obtain ⟨body', hbody'⟩ := lists_of_answered hresponse'
  obtain ⟨rfl, rfl⟩ := hbody'.unique hlists'
  exact (hnames endpoint' body' hkey' hsame).unique (hnames endpoint body' hkey rfl)

/-- Travel documents of which the confidential ones are hidden, and the numbers recorded. -/
def watchedEndpoint : Endpoint :=
  { passportEndpoint with
      confidentiality := some ⟨"geheim", "see-all"⟩
      auditIdentifiers := ["houder.burgerservicenummer", "reisdocumentnummer"] }

/-- The register has two documents, of which the first one is confidential and the second one has no
holder. -/
def watchedBody : Json :=
  .object [("reisdocumenten", .array
    [.object [("geheim", .bool true),
      ("houder", .object [("burgerservicenummer", .string "999990019")]),
      ("reisdocumentnummer", .string "NE3663258")],
    .object [("reisdocumentnummer", .number (.integer 7))]])]

/-- What is left of it for a caller without further scopes. -/
def watchedShown : Json :=
  .object [("reisdocumenten", .array [.object [("reisdocumentnummer", .number (.integer 7))]])]

/-- What is recorded of it. -/
def watchedEntries : List (Members String) :=
  [[("houder.burgerservicenummer", "999990019"), ("reisdocumentnummer", "NE3663258")],
    [("houder.burgerservicenummer", "?"), ("reisdocumentnummer", "7")]]

/-- The caller sees one document, and the record names both, the hidden one with its holder. -/
theorem retrieved_exactly_of_passports :
    watchedEndpoint.recordsKey = some "reisdocumenten" ∧
      (∀ path ∈ watchedEndpoint.auditIdentifiers, Document.linksKey ∉ Field.segments path) ∧
      (run watchedEndpoint ⟨Digest.hmacSha256, []⟩ (fun _ => .ok ⟨200, none, watchedBody⟩)
        (passportRequest ["reisdocumentnummer"])).result = .ok ⟨200, none, watchedShown⟩ ∧
      (run watchedEndpoint ⟨Digest.hmacSha256, []⟩ (fun _ => .ok ⟨200, none, watchedBody⟩)
        (passportRequest ["reisdocumentnummer"])).Lists (fun _ => .ok ⟨200, none, watchedBody⟩)
          watchedBody watchedEntries ∧
      NamesRecords "reisdocumenten" watchedEndpoint.auditIdentifiers watchedBody
        watchedEntries := by
  have hpaths : ∀ path ∈ watchedEndpoint.auditIdentifiers,
      Document.linksKey ∉ Field.segments path := by decide +kernel
  have hresult : (run watchedEndpoint ⟨Digest.hmacSha256, []⟩
      (fun _ => .ok ⟨200, none, watchedBody⟩) (passportRequest ["reisdocumentnummer"])).result
        = .ok ⟨200, none, watchedShown⟩ := Fallible.eq_ok_of_toOption (by decide +kernel)
  have hretrieved : (run watchedEndpoint ⟨Digest.hmacSha256, []⟩
      (fun _ => .ok ⟨200, none, watchedBody⟩) (passportRequest ["reisdocumentnummer"])).audit.map
        AuditRecord.retrieved = [watchedEntries] := by decide +kernel
  have hkey : watchedEndpoint.recordsKey = some "reisdocumenten" := rfl
  obtain ⟨body, entries, hlists, hnames, -⟩ :=
    retrieved_exactly hkey (by decide) (by decide) hpaths hresult
  obtain ⟨call, answer, -, hanswer, hbody⟩ := hlists.called
  obtain ⟨record, hrecord, -, hentries⟩ := hlists.recorded
  obtain rfl : watchedBody = body := by
    rw [← hbody, ← Except.ok.inj hanswer]
  obtain rfl : entries = watchedEntries := by
    rw [hrecord] at hretrieved
    rw [← hentries]
    exact List.singleton_inj.mp hretrieved
  exact ⟨hkey, hpaths, hresult, hlists, hnames⟩

end Proxy

end RegistryGate
