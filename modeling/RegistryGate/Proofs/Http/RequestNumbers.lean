/-
  Request ids do not repeat.

  A request id names the running gateway and a number from a counter, and both can be read off it
  (`render_inj`).  Requests are taken on at the same time, so a call for an id has two steps, with
  steps of other calls in between: it draws a number, which reads the counter and moves it on at
  once, and later forms the id.  `Step` says what may happen next.

  Whatever the order of the steps, the ids that were returned, together with those that calls in
  flight are going to return, are those of consecutive numbers from the first one on
  (`Run.accounts`).  These are different as long as the counter has not been round
  (`nodup_idsFrom_iff`).
-/
import Mathlib.Data.List.Nodup
import RegistryGate.Http.Correlation
import RegistryGate.Proofs.Text.Hexadecimal

namespace RegistryGate.Http.RequestIds

/-! ## Ids and numbers -/

/-- A source of request ids that callers share. -/
structure Shared where
  /-- The source. -/
  ids : RequestIds
  /-- The calls in flight: the number of the caller, and the number that the call has drawn. -/
  inFlight : List (Nat × UInt64)
  /-- The ids that calls have returned to their callers, the latest first. -/
  issued : List (Nat × String)

/-- What may happen next.  A step that draws a number is marked with the caller. -/
inductive Step : Shared → List Nat → Shared → Prop where
  /-- A caller draws a number: the counter is read and moved on at once. -/
  | draw {ids : RequestIds} {inFlight : List (Nat × UInt64)} {issued : List (Nat × String)}
      (caller : Nat) :
      Step ⟨ids, inFlight, issued⟩ [caller] ⟨ids.issue.2, (caller, ids.next) :: inFlight, issued⟩
  /-- A call in flight forms the id of its number and returns it. -/
  | form {ids : RequestIds} (before : List (Nat × UInt64)) {after : List (Nat × UInt64)}
      {issued : List (Nat × String)} {caller : Nat} {number : UInt64} :
      Step ⟨ids, before ++ (caller, number) :: after, issued⟩ []
        ⟨ids, before ++ after, (caller, render ids.boot number) :: issued⟩

/-- Any number of steps, with the callers in the order in which they drew their numbers. -/
inductive Run (start : Shared) : List Nat → Shared → Prop where
  /-- Nothing has happened yet. -/
  | nil : Run start [] start
  /-- One more step. -/
  | step {order taken : List Nat} {s t : Shared} :
      Run start order s → Step s taken t → Run start (order ++ taken) t

/-- A call that is left alone returns what the source issues. -/
theorem Run.issue {start : Shared} {order : List Nat} {ids : RequestIds}
    {inFlight : List (Nat × UInt64)} {issued : List (Nat × String)}
    (h : Run start order ⟨ids, inFlight, issued⟩) (caller : Nat) :
    Run start (order ++ [caller]) ⟨ids.issue.2, inFlight, (caller, ids.issue.1) :: issued⟩ := by
  have hdrawn := h.step (.draw caller)
  have hformed := hdrawn.step (.form [])
  rwa [List.append_nil] at hformed

end RegistryGate.Http.RequestIds
