/-
  Where audit records end up.

  A sink writes each record where its settings say.  Records that are discarded change nothing, and
  those for the error stream come behind one another there.  A file is read and written by its path,
  which was seen to lead to the place of a file when the sink was opened; writing there leaves it the
  place of a file (`Tree.read_write`), so that one record after the other finds the content of those
  before it (`read_records`).  What the settings say is therefore what happens to all records
  (`records_exact`), and a log of lines gets one line for each (`linesOf_records`).
-/
import RegistryGate.Proofs.Gateway.AuditLines
import RegistryGate.Proofs.Storage.Writing

namespace RegistryGate.Gateway

open Storage (Tree)

variable {working path : String} {outlets : Outlets}

/-- What can be written to after records were given to a sink, in order. -/
def AuditSink.recordAll (sink : AuditSink) (working : String) (outlets : Outlets)
    (entries : List Entry) : Outlets :=
  entries.foldl (sink.record working) outlets

/-- Records on the error stream come behind what was there. -/
theorem recordAll_errorStream (entries : List Entry) :
    AuditSink.errorStream.recordAll working outlets entries
      = { outlets with errors := appendEntries outlets.errors entries } := by
  unfold AuditSink.recordAll
  induction entries generalizing outlets with
  | nil => rfl
  | cons entry rest ih => exact ih

/-- Discarded records change nothing. -/
theorem recordAll_discard (entries : List Entry) :
    AuditSink.discard.recordAll working outlets entries = outlets := by
  unfold AuditSink.recordAll
  induction entries with
  | nil => rfl
  | cons entry rest ih => exact ih

theorem recordAll_cons (sink : AuditSink) (entry : Entry) (rest : List Entry) :
    sink.recordAll working outlets (entry :: rest)
      = sink.recordAll working (sink.record working outlets entry) rest := rfl

/-- **One record leaves a file readable**, with the record behind its content, and the place of a
file as before. -/
theorem read_record (hopen : outlets.files.appendable working path = .ok ()) (entry : Entry) :
    ((AuditSink.file path).record working outlets entry).files.read working path
        = .ok (session (outlets.files.read working path).toOption [entry]) ∧
      ((AuditSink.file path).record working outlets entry).files.appendable working path
        = .ok () :=
  Tree.read_write hopen (session (outlets.files.read working path).toOption [entry])

/-- A file has all records behind its content. -/
theorem read_records (hopen : outlets.files.appendable working path = .ok ()) {entries : List Entry}
    (hne : entries ≠ []) :
    ((AuditSink.file path).recordAll working outlets entries).errors = outlets.errors ∧
      ((AuditSink.file path).recordAll working outlets entries).files.read working path
        = .ok (session (outlets.files.read working path).toOption entries) := by
  -- what each record preserves is that the path leads to the place of a file
  induction entries generalizing outlets with
  | nil => exact absurd rfl hne
  | cons entry rest ih =>
    obtain ⟨hread, hopen'⟩ := read_record hopen entry
    rw [recordAll_cons]
    cases rest with
    | nil => exact ⟨rfl, hread⟩
    | cons next rest =>
      -- the other records are written to the files that the first one leaves
      obtain ⟨herrors, hcontent⟩ := ih hopen' (List.cons_ne_nil next rest)
      refine ⟨herrors, hcontent.trans ?_⟩
      rw [hread]
      rfl

/-- **Records go where the settings say.**  Where auditing is disabled nothing is written.  Otherwise
all records are written, in order, behind what is there: to the error stream where no file is named,
and else to the file, which need not be there before. -/
theorem records_exact {s : Config.AuditSettings} {sink : AuditSink} (entries : List Entry)
    (hopen : AuditSink.ofSettings (outlets.files.fileSystem working) s = .ok sink) :
    (s.enabled = false → sink.recordAll working outlets entries = outlets) ∧
    (s.enabled = true → s.path = none → sink.recordAll working outlets entries
      = { outlets with errors := appendEntries outlets.errors entries }) ∧
    ∀ path, s.enabled = true → s.path = some path → entries ≠ [] →
      (sink.recordAll working outlets entries).errors = outlets.errors ∧
      (sink.recordAll working outlets entries).files.read working path
        = .ok (session (outlets.files.read working path).toOption entries) := by
  unfold AuditSink.ofSettings at hopen
  refine ⟨fun hoff => ?_, fun hon hpath => ?_, fun path hon hpath hne => ?_⟩
  · rw [hoff] at hopen
    cases hopen
    exact recordAll_discard entries
  · rw [hon, hpath] at hopen
    cases hopen
    exact recordAll_errorStream entries
  · rw [hon, hpath] at hopen
    -- when the sink was opened, the path was seen to lead to the place of a file
    obtain ⟨_, happendable, rfl⟩ := Fallible.map_eq_ok_iff.mp hopen
    exact read_records happendable hne

/-- **A log of lines gets one line for each record.** -/
theorem linesOf_records {s : Config.AuditSettings} {sink : AuditSink} {entries : List Entry}
    (hopen : AuditSink.ofSettings (outlets.files.fileSystem working) s = .ok sink)
    (hon : s.enabled = true) (hpath : s.path = some path) (hne : entries ≠ [])
    (hends : EndsLine ((outlets.files.read working path).toOption.getD ByteArray.empty)) :
    ∃ content, (sink.recordAll working outlets entries).files.read working path = .ok content ∧
      linesOf content = linesOf ((outlets.files.read working path).toOption.getD ByteArray.empty)
        ++ entries.map fun entry => Text.Utf8.encode entry.text := by
  obtain ⟨-, -, hfile⟩ := records_exact entries hopen
  exact ⟨_, (hfile path hon hpath hne).2, linesOf_appendEntries hends entries⟩

end RegistryGate.Gateway
