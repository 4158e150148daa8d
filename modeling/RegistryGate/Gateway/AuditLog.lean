/-
  Where audit records go.

  Records are written as lines, one document each, to a file or to the error stream.  A file is only
  ever appended to, so its lines are those of all gateways that have written to it.
-/
import RegistryGate.Config.Settings
import RegistryGate.Proxy.Audit
import RegistryGate.Storage.Tree

namespace RegistryGate.Gateway

open Proxy (AuditRecord)
open Storage (Tree)

/-- A place for audit records. -/
inductive AuditSink where
  /-- They are not written. -/
  | discard
  /-- The error stream. -/
  | errorStream
  /-- A file, which is created if there is none. -/
  | file (path : String)
deriving DecidableEq

/-- Opens the place that the settings name. -/
def AuditSink.ofSettings (files : FileSystem) (s : Config.AuditSettings) :
    Except IoFault AuditSink :=
  if !s.enabled then .ok .discard
  else
    match s.path with
    | none => .ok .errorStream
    | some path => (files.appendable path).map fun _ => .file path

/-! ## Lines -/

/-- A record and the time at which it is written, in milliseconds. -/
structure Entry where
  /-- The time. -/
  timestampMs : Nat
  /-- The record. -/
  record : AuditRecord
deriving DecidableEq

/-- The line of a record. -/
def Entry.line (entry : Entry) : String :=
  (entry.record.toJson entry.timestampMs).render ++ "\n"

/-- A log with one more record. -/
def appendEntry (log : ByteArray) (entry : Entry) : ByteArray := log ++ entry.line.toUTF8

/-- A log with more records, in order. -/
def appendEntries (log : ByteArray) (entries : List Entry) : ByteArray :=
  entries.foldl appendEntry log

/-- A file that was opened for a while, in which records were written. -/
def session (file : Option ByteArray) (entries : List Entry) : ByteArray :=
  appendEntries (file.getD ByteArray.empty) entries

/-! ## Writing -/

/-- What can be written to. -/
structure Outlets where
  /-- The files. -/
  files : Tree
  /-- What the error stream was given. -/
  errors : ByteArray

/-- Writes a record where it goes; the path of a file is seen from a working directory. -/
def AuditSink.record (sink : AuditSink) (working : String) (outlets : Outlets) (entry : Entry) :
    Outlets :=
  match sink with
  | .discard => outlets
  | .errorStream => { outlets with errors := appendEntry outlets.errors entry }
  | .file path =>
    let content := session (outlets.files.read working path).toOption [entry]
    { outlets with files := outlets.files.write working path content }

end RegistryGate.Gateway
