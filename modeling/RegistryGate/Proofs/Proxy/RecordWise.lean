/-
  The answer, record by record.

  `transform` sends the whole document through its stages, one after the other.  Every stage but the
  one that hides records treats each record by itself (`completedRecord`, `shapedRecord`), and
  hiding looks at a marker that redirecting and completing leave as it is.  So hiding may be done
  first, on the records as the register sent them, and what is left of the stages is one function of
  a single record, `shownRecord`.  Beside the records only links and texts under tokenized names
  change.

  The statement is `transform_recordwise`.  It is assembled from two look-ups for each stage: what
  the stage makes of the record list, and that it leaves the other members alone.
-/
import RegistryGate.Proxy.Pipeline
import RegistryGate.Proofs.Document.Records
import RegistryGate.Proofs.Document.Tokens

namespace RegistryGate.Proxy

open Token (Cipher TokenError)

variable {endpoint : Endpoint} {cipher : Cipher} {request : Request} {prepared : Prepared}
  {granted : NameSet} {key name : String} {records : List Json} {document body : Json}

/-! ## Single records -/

/-- What completion makes of a record. -/
def completedRecord (endpoint : Endpoint) (request : Request) (prepared : Prepared)
    (record : Json) : Json :=
  match endpoint.shape with
  | some shape =>
    if request.fullResult && prepared.variant.fields.isSome then
      Document.completeRecord (FieldTree.ofPaths prepared.callerFields) shape.root record
    else record
  | none => record

/-- Holds of a record that a caller does not get to see: its marker is set, and the caller does not
hold the scope that lets such records through. -/
def hides (endpoint : Endpoint) (granted : NameSet) (record : Json) : Bool :=
  match endpoint.confidentiality with
  | some rule =>
    !granted.contains rule.overrideScope && Document.isConfidential rule.markerField record
  | none => false

/-- A record before its identifiers are replaced: its links are redirected, it is completed, and the
fields that only the audit record needs are taken out. -/
def shapedRecord (endpoint : Endpoint) (request : Request) (prepared : Prepared) (record : Json) :
    Json :=
  Document.stripRecord prepared.inserted (completedRecord endpoint request prepared
    (Document.redirectLinks endpoint.registerUrl endpoint.publicUrl record))

/-- A record as the caller sees it. -/
def shownRecord (endpoint : Endpoint) (cipher : Cipher) (request : Request) (prepared : Prepared)
    (record : Json) : Except TokenError Json :=
  tokenStage endpoint cipher prepared.tokenizing (shapedRecord endpoint request prepared record)

/-- **Completion neither hides nor reveals a record.** -/
theorem isConfidential_completedRecord (endpoint : Endpoint) (request : Request)
    (prepared : Prepared) (marker : String) (record : Json) :
    Document.isConfidential marker (completedRecord endpoint request prepared record)
      = Document.isConfidential marker record := by
  unfold completedRecord
  split
  · split
    · exact Document.isConfidential_completeRecord ..
    · rfl
  · rfl

/-- A record is hidden after its links were redirected and it was completed if it was to be hidden
as it came. -/
theorem hides_completedRecord (granted : NameSet) (record : Json) :
    hides endpoint granted (completedRecord endpoint request prepared
        (Document.redirectLinks endpoint.registerUrl endpoint.publicUrl record))
      = hides endpoint granted record := by
  unfold hides
  split
  · rw [isConfidential_completedRecord, Document.isConfidential_redirectLinks]
  · rfl

/-! ## Stages -/

/-- Completion treats every record by itself. -/
theorem get?_completeStage_self (h : document.get? key = some (.array records)) :
    (completeStage endpoint request prepared key document).get? key
      = some (.array (records.map (completedRecord endpoint request prepared))) := by
  unfold completeStage completedRecord
  cases endpoint.shape with
  | none =>
    simpa using h
  | some shape =>
    dsimp only
    cases request.fullResult && prepared.variant.fields.isSome with
    | false => simpa using h
    | true => exact Document.get?_modifyRecords_self h _

theorem get?_completeStage_of_ne (h : name ≠ key) :
    (completeStage endpoint request prepared key document).get? name = document.get? name := by
  unfold completeStage
  split
  · split
    · exact Document.get?_modifyRecords_of_ne h _ _
    · rfl
  · rfl

/-- Hiding drops the records that are to be hidden. -/
theorem get?_hideStage_self (h : document.get? key = some (.array records)) :
    (hideStage endpoint granted key document).get? key
      = some (.array (records.filter fun record => !hides endpoint granted record)) := by
  -- keeping every record is the filter that the stage leaves out
  have hall : records.filter (fun _ => true) = records := List.filter_eq_self.mpr fun _ _ => rfl
  unfold hideStage hides
  cases endpoint.confidentiality with
  | none => simpa [hall] using h
  | some rule =>
    dsimp only
    cases granted.contains rule.overrideScope with
    | true => simpa [hall] using h
    | false => exact Document.get?_modifyRecords_self h _

theorem get?_hideStage_of_ne (h : name ≠ key) :
    (hideStage endpoint granted key document).get? name = document.get? name := by
  unfold hideStage
  split
  · split
    · rfl
    · exact Document.get?_modifyRecords_of_ne h _ _
  · rfl

/-- Replacing identifiers is a walk over the document, which replaces nothing where the caller gets
no tokens. -/
theorem exists_tokenStage_eq (endpoint : Endpoint) (cipher : Cipher) (tokenizing : Option String) :
    ∃ fields replacement, tokenStage endpoint cipher tokenizing
      = Document.replaceTexts fields replacement := by
  unfold tokenStage
  cases endpoint.tokenization with
  | none =>
    exact ⟨[], .ok, funext fun body => (Document.replaceTexts_nil _ body).symm⟩
  | some rule =>
    cases tokenizing with
    | none => exact ⟨[], .ok, funext fun body => (Document.replaceTexts_nil _ body).symm⟩
    | some correlation => exact ⟨rule.fields, (cipher.encrypt · correlation), rfl⟩

/-! ## The stages together -/

/-- An answer before its identifiers are replaced. -/
def shaped (endpoint : Endpoint) (request : Request) (prepared : Prepared) (key : String)
    (body : Json) : Json :=
  Document.stripFields key prepared.inserted
    (hideStage endpoint request.principal.scopes key
      (completeStage endpoint request prepared key
        (Document.redirectLinks endpoint.registerUrl endpoint.publicUrl body)))

/-- Replacing identifiers comes last. -/
theorem transform_eq (h : endpoint.recordsKey = some key) (cipher : Cipher) (request : Request)
    (prepared : Prepared) (body : Json) :
    transform endpoint cipher request prepared body
      = tokenStage endpoint cipher prepared.tokenizing
          (shaped endpoint request prepared key body) := by
  unfold transform
  rw [h]
  rfl

/-- The records of a shaped answer are those that are not hidden, each shaped by itself. -/
theorem get?_shaped_self (hlinks : key ≠ Document.linksKey)
    (h : body.get? key = some (.array records)) :
    (shaped endpoint request prepared key body).get? key
      = some (.array ((records.filter fun record =>
          !hides endpoint request.principal.scopes record).map
            (shapedRecord endpoint request prepared))) := by
  have hlinked : (Document.redirectLinks endpoint.registerUrl endpoint.publicUrl body).get? key
      = some (.array (records.map
          (Document.redirectLinks endpoint.registerUrl endpoint.publicUrl))) := by
    rw [Document.get?_redirectLinks, h, Document.redirectMember_of_ne hlinks, Option.map_some,
      Document.redirectLinks_array]
  -- hiding asks the same of a completed record as of the one that came
  have hsame : ((fun record => !hides endpoint request.principal.scopes record)
        ∘ completedRecord endpoint request prepared
        ∘ Document.redirectLinks endpoint.registerUrl endpoint.publicUrl)
      = fun record => !hides endpoint request.principal.scopes record := by
    funext record
    exact congrArg _ (hides_completedRecord request.principal.scopes record)
  -- the stages are looked up from the inside out
  rw [shaped, Document.get?_stripFields_self prepared.inserted
    (get?_hideStage_self (get?_completeStage_self hlinked)), List.map_map, List.filter_map, hsame,
    List.map_map]
  rfl

/-- Beside the records only links were changed. -/
theorem get?_shaped_of_ne (h : name ≠ key) :
    (shaped endpoint request prepared key body).get? name
      = (body.get? name).map
          (Document.redirectMember endpoint.registerUrl endpoint.publicUrl name) := by
  rw [shaped, Document.get?_stripFields_of_ne _ h, get?_hideStage_of_ne h, get?_completeStage_of_ne h,
    Document.get?_redirectLinks]

/-! ## The answer, record by record -/

/-- **The stages make of each record what `shownRecord` makes of it alone.**  The records of the
answer are the register's, in their order, without those whose marker is set as they came where the
caller does not hold the overriding scope; each of the others is shaped by one function of that
record.  Every other member is what the document would show if it had that member only: its links
are redirected, and its identifiers replaced.  Completion happens before hiding, and sets or clears
no marker. -/
theorem transform_recordwise {result : Json} (hkey : endpoint.recordsKey = some key)
    (hlinks : key ≠ "_links") (hbody : body.get? key = some (.array records))
    (h : transform endpoint cipher request prepared body = .ok result) :
    (∃ shown, result.get? key = some (.array shown) ∧
      (records.filter fun record => !hides endpoint request.principal.scopes record).mapM
        (shownRecord endpoint cipher request prepared) = .ok shown) ∧
    (∀ name, name ≠ key →
      (body.get? name = none → result.get? name = none) ∧
      ∀ value, body.get? name = some value → ∃ out, result.get? name = some out ∧
        tokenStage endpoint cipher prepared.tokenizing
            (Document.redirectLinks endpoint.registerUrl endpoint.publicUrl
              (.object [(name, value)]))
          = .ok (.object [(name, out)])) ∧
    ∀ marker record, Document.isConfidential marker
        (completedRecord endpoint request prepared record)
      = Document.isConfidential marker record := by
  obtain ⟨fields, replacement, htokens⟩ :=
    exists_tokenStage_eq endpoint cipher prepared.tokenizing
  rw [transform_eq hkey, htokens] at h
  refine ⟨?_, ?_, isConfidential_completedRecord endpoint request prepared⟩
  · obtain ⟨found, hfound, hget⟩ :=
      Document.get?_eq_some_of_replaceTexts h (get?_shaped_self hlinks hbody)
    obtain ⟨shown, hshown, rfl⟩ := Document.replaceTexts_array.mp hfound
    refine ⟨shown, hget, ?_⟩
    rw [List.mapM_map, ← htokens] at hshown
    exact hshown
  · intro name hname
    constructor
    · intro hnone
      refine Document.get?_eq_none_of_replaceTexts h ?_
      rw [get?_shaped_of_ne hname, hnone, Option.map_none]
    · intro value hvalue
      have hshaped : (shaped endpoint request prepared key body).get? name
          = some (Document.redirectMember endpoint.registerUrl endpoint.publicUrl name value) := by
        rw [get?_shaped_of_ne hname, hvalue, Option.map_some]
      obtain ⟨out, hout, hget⟩ := Document.get?_eq_some_of_replaceTexts h hshaped
      refine ⟨out, hget, ?_⟩
      rw [Document.redirectLinks_single, htokens]
      exact Document.replaceTexts_single.mpr hout

/-- An endpoint that hides, completes and tokenizes. -/
def personEndpoint : Endpoint :=
  { Endpoint.ofService "personen" "https://register.example" "/personen" .empty with
    recordsKey := some "personen"
    shape := some ⟨[("bsn", .scalar), ("naam", .scalar)]⟩
    confidentiality := some ⟨"geheim", "alles-zien"⟩
    tokenization := some ⟨"tokens", "nummers", ["bsn"], []⟩ }

/-- A caller without the overriding scope who asks for the full result. -/
def personRequest : Request where
  payload := []
  principal := ⟨"caller", .empty⟩
  correlationId := some "visit-1"
  taskDescription := none
  fullResult := true

/-- What is known of that request by then. -/
def personPrepared : Prepared where
  variant := { Variant.ofRuleset "Zoek" .empty with fields := some ⟨.empty, none⟩ }
  needed := []
  callerFields := ["naam", "bsn"]
  inserted := ["nummer"]
  tokenizing := some "visit-1"
  payload := []

/-- A cipher with one key. -/
def oneKeyCipher : Cipher :=
  ⟨Digest.hmacSha256, [⟨List.replicate 32 1, List.replicate 32 2⟩]⟩

/-- A confidential record, and an incomplete one that is not. -/
def personRecords : List Json :=
  [.object [("bsn", .string "999991905"), ("geheim", .string "1")],
   .object [("bsn", .string "999993653"), ("nummer", .string "7")]]

/-- The register's document, with a link to itself. -/
def personAnswer : Json :=
  .object
    [("_links", .object [("self", .object [("href", .string "https://register.example/1")])]),
     ("personen", .array personRecords)]

/-- The caller's document. -/
def personShown : Json :=
  .object
    [("_links", .object [("self", .object [("href", .string "/personen/1")])]),
     ("personen", .array
       [.object [("bsn", .string "ATD4uqZr3pIXavt1s2J4T549k5tRn7LukFE"), ("naam", .null)]])]

/-- The confidential record is left out; the other is completed, loses its number and shows a token,
as it would alone; and the link is redirected, as it would be alone. -/
theorem transform_recordwise_of_persons :
    transform personEndpoint oneKeyCipher personRequest personPrepared personAnswer
        = .ok personShown ∧
      (∃ shown, personShown.get? "personen" = some (.array shown) ∧
        (personRecords.drop 1).mapM
          (shownRecord personEndpoint oneKeyCipher personRequest personPrepared) = .ok shown) ∧
      ∃ out, personShown.get? "_links" = some out ∧
        tokenStage personEndpoint oneKeyCipher (some "visit-1")
            (Document.redirectLinks "https://register.example" "/personen"
              (.object [("_links", .object [("self",
                .object [("href", .string "https://register.example/1")])])]))
          = .ok (.object [("_links", out)]) := by
  have hresult : (transform personEndpoint oneKeyCipher personRequest personPrepared
      personAnswer).toOption.map id = some personShown := by decide +kernel
  obtain ⟨_, hrun, rfl⟩ := Fallible.exists_of_toOption_map hresult
  obtain ⟨hrecords, hothers, -⟩ := transform_recordwise rfl (by decide) rfl hrun
  exact ⟨hrun, hrecords, (hothers "_links" (by decide)).2 _ rfl⟩

end RegistryGate.Proxy
