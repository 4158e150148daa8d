/-
  What is on record of a run.

  A record is drafted when the request comes in and completed where the run ends, so that each end
  has its own way of completing it.  `Recorded` says what the records of a run have to do with
  its result, its calls and the request: which outcomes are on record follows from the result alone
  (`outcomesOf`), every record has the request as it came in, and one that says that the register
  was called has what the register was sent.  `recorded_run` shows it for every run, end by end.
-/
import RegistryGate.Proofs.Proxy.Ending

namespace RegistryGate.Proxy

open Token (Cipher)

variable {endpoint : Endpoint} {cipher : Cipher} {register : RegisterCall → RegisterResult}
variable {request : Request}

/-! ## Records and results -/

/-- The outcomes that are on record when a run ends with a result. -/
def outcomesOf : Except PipelineError Response → List AuditOutcome
  | .ok _ => [.granted]
  | .error (.register _) => [.registerFailed]
  | .error error => if error.isDenial then [.denied] else []

/-- The records of a run tell what became of the request. -/
structure Run.Recorded (r : Run) (request : Request) : Prop where
  /-- There is at most one record. -/
  once : r.audit.length ≤ 1
  /-- Its outcome is that of the result: an answer was granted, a failure of the register is one, a
  denial is one, and there is no record of anything else. -/
  outcomes : r.audit.map AuditRecord.outcome = outcomesOf r.result
  /-- It has the request as it came in. -/
  request : ∀ record ∈ r.audit, record.request = .object request.payload
  /-- What was denied was not sent, and the register was not called. -/
  denied : ∀ record ∈ r.audit, record.outcome = .denied →
    record.registerRequest = none ∧ r.calls = []
  /-- Otherwise it has what the register was sent. -/
  sent : ∀ record ∈ r.audit, record.outcome ≠ .denied →
    ∃ call, r.calls = [call] ∧ record.registerRequest = some call.payload
  /-- When a permission was denied, it has all requirements and the missing ones, as the error has
  them; and something is missing. -/
  permission : ∀ needed missing,
    r.result = .error (.policy (.permissionDenied needed missing)) →
      missing ≠ [] ∧ ∀ record ∈ r.audit, record.needed = needed ∧ record.missing = missing

/-! ## What each end leaves -/

/-- A refusal that is no denial leaves no record; a denial leaves one, which has nothing that was
sent, and the requirements of the error where the error names them. -/
theorem refusalRecords_cases (endpoint : Endpoint) (request : Request) (refusal : Refusal) :
    (refusal.error.isDenial = false ∧ refusalRecords endpoint request refusal = []) ∨
    (refusal.error.isDenial = true ∧ ∃ record, refusalRecords endpoint request refusal = [record] ∧
      record.outcome = .denied ∧ record.request = .object request.payload ∧
      record.registerRequest = none ∧
      ∀ needed missing, refusal.error = .policy (.permissionDenied needed missing) →
        record.needed = needed ∧ record.missing = missing) := by
  unfold refusalRecords
  -- only a denial is put on record, and only a denied permission has requirements to name
  cases hdenial : refusal.error.isDenial with
  | false => exact Or.inl ⟨rfl, rfl⟩
  | true =>
    refine Or.inr ⟨rfl, ?_⟩
    rw [if_pos rfl]
    dsimp only
    split
    · rename_i needed missing herror
      refine ⟨_, rfl, rfl, rfl, rfl, fun needed' missing' hsame => ?_⟩
      rw [herror] at hsame
      cases hsame
      exact ⟨rfl, rfl⟩
    · rename_i hother
      exact ⟨_, rfl, rfl, rfl, rfl,
        fun needed missing hsame => absurd hsame (hother needed missing)⟩

/-- The record of a failure of the register has what the register was sent. -/
theorem failureRecord_spec (endpoint : Endpoint) (request : Request) (prepared : Prepared)
    (error : RegisterError) :
    (failureRecord endpoint request prepared error).outcome = .registerFailed ∧
      (failureRecord endpoint request prepared error).request = .object request.payload ∧
      (failureRecord endpoint request prepared error).registerRequest
        = some (.object prepared.payload) := by
  cases error with
  | status | timeout | transport | invalidResponse => exact ⟨rfl, rfl, rfl⟩

/-- An error that the register did not cause is on record if it is a denial. -/
theorem outcomesOf_error {error : PipelineError}
    (h : error.isDenial = true ∨ error.isValidation = true) :
    outcomesOf (.error error) = if error.isDenial then [.denied] else [] := by
  cases error with
  | policy | datasetNotGranted | tokenization | internal => rfl
  | register =>
    rcases h with hdenial | hvalidation
    · cases hdenial
    · cases hvalidation

/-! ## Every run -/

section

variable {r : Run}

/-- A run without a record is recorded when its result calls for none. -/
theorem Run.recorded_of_nil (haudit : r.audit = []) (hresult : outcomesOf r.result = []) :
    r.Recorded request := by
  have hnone : ∀ record, record ∉ r.audit := by
    rw [haudit]
    exact fun _ => List.not_mem_nil
  exact
    { once := by
        rw [haudit]
        exact Nat.zero_le 1
      outcomes := by
        rw [haudit, hresult]
        rfl
      request := fun record hrecord => absurd hrecord (hnone record)
      denied := fun record hrecord => absurd hrecord (hnone record)
      sent := fun record hrecord => absurd hrecord (hnone record)
      permission := fun needed missing herror => by
        rw [herror] at hresult
        cases hresult }

/-- A run with one record is recorded when that one has what it should have. -/
theorem Run.recorded_of_singleton {record : AuditRecord} (haudit : r.audit = [record])
    (hresult : outcomesOf r.result = [record.outcome])
    (hrequest : record.request = .object request.payload)
    (hdenied : record.outcome = .denied → record.registerRequest = none ∧ r.calls = [])
    (hsent : record.outcome ≠ .denied →
      ∃ call, r.calls = [call] ∧ record.registerRequest = some call.payload)
    (hpermission : ∀ needed missing,
      r.result = .error (.policy (.permissionDenied needed missing)) →
        missing ≠ [] ∧ record.needed = needed ∧ record.missing = missing) :
    r.Recorded request where
  once := by
    rw [haudit]
    exact Nat.le_refl 1
  outcomes := by
    rw [haudit, hresult]
    rfl
  request := by
    rw [haudit]
    exact List.forall_mem_singleton.mpr hrequest
  denied := by
    rw [haudit]
    exact List.forall_mem_singleton.mpr hdenied
  sent := by
    rw [haudit]
    exact List.forall_mem_singleton.mpr hsent
  permission := fun needed missing herror => by
    obtain ⟨hmissing, hnames⟩ := hpermission needed missing herror
    rw [haudit]
    exact ⟨hmissing, List.forall_mem_singleton.mpr hnames⟩

/-- However a run ends, it is recorded. -/
theorem recorded_of_ending (h : Ending endpoint cipher register request r) :
    r.Recorded request := by
  -- the records are those that the end leaves
  cases h with
  | @refused refusal hrefused =>
    have hresult := outcomesOf_error (isDenial_or_isValidation_of_refused hrefused)
    rcases refusalRecords_cases endpoint request refusal with
      ⟨hdenial, hnone⟩ | ⟨hdenial, record, hone, houtcome, hrequest, hregister, hneeded⟩
    · rw [hdenial] at hresult
      exact Run.recorded_of_nil hnone hresult
    · -- a denial
      rw [hdenial, if_pos rfl] at hresult
      refine Run.recorded_of_singleton hone (by rw [houtcome, hresult]) hrequest
        (fun _ => ⟨hregister, rfl⟩) (fun hother => absurd houtcome hother)
        fun needed missing herror => ?_
      have hpermission := Except.error.inj herror
      exact ⟨missing_ne_nil_of_refused hrefused hpermission, hneeded needed missing hpermission⟩
  | @failed prepared error hprepared hregister =>
    obtain ⟨houtcome, hrequest, hsent⟩ := failureRecord_spec endpoint request prepared error
    refine Run.recorded_of_singleton rfl (by rw [houtcome]; rfl) hrequest (fun hdenied => ?_)
      (fun _ => ⟨_, rfl, hsent⟩) fun needed missing herror => nomatch herror
    -- the outcome is that of a failure, and no denial
    rw [houtcome] at hdenied
    cases hdenied
  | untold => exact Run.recorded_of_nil rfl rfl
  | answered =>
    exact Run.recorded_of_singleton rfl rfl rfl (fun hdenied => nomatch hdenied)
      (fun _ => ⟨_, rfl, rfl⟩) fun needed missing herror => nomatch herror

end

/-- **Every run's records match its result.**  Whatever the endpoint, the cipher, the register's
behaviour and the request, there is at most one record.  An answer leaves one that says so, a denial
one that says so and has nothing that was sent, a failure of the register one that says so, and a
faulty request none; and what is on record is what came in, what was sent, and what was missing. -/
theorem recorded_run (endpoint : Endpoint) (cipher : Cipher)
    (register : RegisterCall → RegisterResult) (request : Request) :
    (run endpoint cipher register request).Recorded request :=
  recorded_of_ending (ending_run endpoint cipher register request)

end RegistryGate.Proxy
