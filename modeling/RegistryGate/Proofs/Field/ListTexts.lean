/-
  The texts of field lists.

  What a field-list text means is said here without the functions that read one: a text has lines
  (`Text.lines`), a line is to hold a path unless it is blank or a comment (`FieldList.IsEntryLine`), and
  a path is made of names (`Field.IsPathText`).  Reading a text is exact in these terms: it gives the
  paths of the lines if all of them are well formed, and otherwise reports the first line that offends
  (`parse_eq_error_iff`).

  The other way round, a list may be written in many ways (`FieldList.Layout`): its paths in any order
  on lines of their own, with comments and blank lines between them, white space around them, and
  either kind of line end.  All of them are read as the same list (`Layout.parse`), since every line adds
  its own paths and no others (`Row.pathLines`).
-/
import RegistryGate.Proofs.Field.Lists
import RegistryGate.Proofs.Field.Names
import RegistryGate.Proofs.Text.Trimming

namespace RegistryGate

/-! ## Lines -/

namespace Text

/-- A line without the carriage return at its end. -/
def withoutReturn (line : String) : String := (stripSuffix? "\r" line).getD line

/-- The lines that the parts between line feeds make.  The last part is a line only if there is
something in it, and there a carriage return does not belong to a line end. -/
def linesOfParts : List String → List String
  | [] => []
  | [part] => if part = "" then [] else [part]
  | part :: rest => withoutReturn part :: linesOfParts rest

/-- The lines of a text, without their ends: a line feed, or a carriage return and a line feed. -/
def lines (text : String) : List String := linesOfParts (splitOn '\n' text)

theorem trim_withoutReturn (line : String) : trim (withoutReturn line) = trim line := by
  unfold withoutReturn
  -- a carriage return is white space, so it would be trimmed off anyway
  cases hstrip : stripSuffix? "\r" line with
  | none => rfl
  | some start =>
    have hblank : isBlankText "\r" = true := by decide
    have htrim := trim_surrounded start (show isBlankText "" = true from rfl) hblank
    rw [String.empty_append] at htrim
    rw [stripSuffix?_eq_some_iff.mp hstrip, htrim]
    rfl

theorem isAlphanum_iff {c : Char} :
    c.isAlphanum = true ↔ (isLetter c || isDigit c) = true := by
  have hupper : c.isUpper = (decide ('A' ≤ c) && decide (c ≤ 'Z')) := Bool.decide_and _ _
  have hletter : isLetter c = (c.isLower || c.isUpper) := by
    rw [hupper]
    rfl
  have hdigit : isDigit c = c.isDigit := rfl
  show (c.isUpper || c.isLower || c.isDigit) = true ↔ _
  rw [hletter, hdigit, Bool.or_comm c.isUpper]

/-- Letters and digits lie between the digit zero and the letter z. -/
theorem toNat_of_isLetter_or_isDigit {c : Char} (h : (isLetter c || isDigit c) = true) :
    48 ≤ c.toNat ∧ c.toNat ≤ 122 := by
  have hle (a b : Char) : a ≤ b ↔ a.toNat ≤ b.toNat := Iff.rfl
  have hzero : '0'.toNat = 48 := rfl
  have hnine : '9'.toNat = 57 := rfl
  have hA : 'A'.toNat = 65 := rfl
  have hZ : 'Z'.toNat = 90 := rfl
  have ha : 'a'.toNat = 97 := rfl
  have hz : 'z'.toNat = 122 := rfl
  simp only [isLetter, isDigit, Bool.or_eq_true, Bool.and_eq_true, decide_eq_true_eq, hle] at h
  omega

end Text

/-! ## Paths -/

namespace Field

/-- Holds of a text of one or more ASCII letters and digits. -/
def IsWord (name : String) : Prop :=
  name ≠ "" ∧ ∀ c ∈ name.toList, (Text.isLetter c || Text.isDigit c) = true

/-- Holds of a path as it is to be written: one or more words with single dots between them, with or
without a wildcard at the end, of at most 256 bytes. -/
def IsPathText (path : String) : Prop :=
  path.utf8ByteSize ≤ 256 ∧ ∃ names, names ≠ [] ∧ (∀ name ∈ names, IsWord name) ∧
    (path = Text.joinWith "." names ∨ path = Text.joinWith "." names ++ ".*")

theorem isName_iff {name : String} : isName name = true ↔ IsWord name := by
  have hempty : (!name.isEmpty) = true ↔ name ≠ "" := by
    rw [Bool.not_eq_true', ← Bool.not_eq_true, String.isEmpty_iff]
  rw [isName, Bool.and_eq_true, hempty, List.all_eq_true]
  simp only [Text.isAlphanum_iff]
  rfl

/-- **The grammar of paths.** -/
theorem isPath_iff {path : String} : isPath path = true ↔ IsPathText path := by
  rw [isPath, Bool.and_eq_true, decide_eq_true_eq]
  refine and_congr_right fun _ => ?_
  constructor
  · intro hvalid
    obtain ⟨names, hne, hnames, hsegs⟩ := exists_names_of_validSegments hvalid
    refine ⟨names, hne, fun name hname => isName_iff.mp (hnames name hname), ?_⟩
    rw [← joinWith_segments path]
    rcases hsegs with hplain | hwild
    · exact Or.inl (by rw [hplain])
    · right
      rw [hwild, joinWith_append_singleton hne, String.append_assoc]
      rfl
  · rintro ⟨names, hne, hwords, hpath⟩
    have hnames : ∀ name ∈ names, isName name = true := fun name hname =>
      isName_iff.mpr (hwords name hname)
    have hdots : ∀ name ∈ names, '.' ∉ name.toList := fun name hname =>
      (of_isName (hnames name hname)).2.1
    obtain ⟨hplain, hwild⟩ := validSegments_of_names hne hnames
    rcases hpath with rfl | rfl
    · rwa [segments_joinWith hne hdots]
    · have hstar : Text.joinWith "." names ++ ".*" = Text.joinWith "." (names ++ ["*"]) := by
        rw [joinWith_append_singleton hne, String.append_assoc]
        rfl
      have hall : ∀ name ∈ names ++ ["*"], '.' ∉ name.toList :=
        List.forall_mem_append.mpr ⟨hdots, List.forall_mem_singleton.mpr (by decide)⟩
      rwa [hstar, segments_joinWith (by simp) hall]

/-- A character of a path is a dot, a star, or one of a word. -/
theorem IsPathText.char_cases {path : String} (h : IsPathText path) {c : Char}
    (hc : c ∈ path.toList) : c = '.' ∨ c = '*' ∨ (Text.isLetter c || Text.isDigit c) = true := by
  obtain ⟨-, names, -, hwords, hpath⟩ := h
  have hjoined (hmem : c ∈ (Text.joinWith "." names).toList) :
      c = '.' ∨ (Text.isLetter c || Text.isDigit c) = true := by
    rcases mem_toList_joinWith hmem with hdot | ⟨name, hname, hin⟩
    · exact Or.inl hdot
    · exact Or.inr ((hwords name hname).2 c hin)
  rcases hpath with rfl | rfl
  · exact (hjoined hc).imp_right Or.inr
  · rw [String.toList_append, List.mem_append] at hc
    rcases hc with hmem | hmem
    · exact (hjoined hmem).imp_right Or.inr
    · rcases List.mem_cons.mp hmem with hdot | hstar
      · exact Or.inl hdot
      · exact Or.inr (Or.inl (List.mem_singleton.mp hstar))

/-- None is white space or a number sign. -/
theorem plain_of_mem_path {path : String} (h : isPath path = true) {c : Char}
    (hc : c ∈ path.toList) : Text.isBlank c = false ∧ c ≠ '#' := by
  rcases (isPath_iff.mp h).char_cases hc with rfl | rfl | hword
  · exact ⟨by decide, by decide⟩
  · exact ⟨by decide, by decide⟩
  · obtain ⟨hlow, hhigh⟩ := Text.toNat_of_isLetter_or_isDigit hword
    refine ⟨Text.isBlank_of_visible (by omega) (by omega), ?_⟩
    rintro rfl
    exact absurd hlow (by decide)

end Field

/-! ## Reading -/

namespace FieldList

open RegistryGate.Field (IsPathText)

variable {text line : String}

/-- Holds of a line that is to hold a path: trimmed, it is not empty and does not start as a
comment. -/
def IsEntryLine (line : String) : Prop := Text.trim line ≠ "" ∧ ∀ rest, Text.trim line ≠ "#" ++ rest

/-- Holds of a line that is to hold a path, and does not. -/
def Offends (line : String) : Prop := IsEntryLine line ∧ ¬ IsPathText (Text.trim line)

/-- Carriage returns at the ends of lines do not count, nor does nothing behind the last line end. -/
theorem filter_trim_linesOfParts (parts : List String) :
    ((Text.linesOfParts parts).map Text.trim).filter isKept = (parts.map Text.trim).filter isKept := by
  -- along the parts; only in the last one a carriage return stays, and that one is not followed by
  -- a line end
  fun_induction Text.linesOfParts parts with
  | case1 => rfl
  | case2 => rfl
  | case3 part hne => rfl
  | case4 part rest hrest ih =>
    rw [List.map_cons, List.map_cons, Text.trim_withoutReturn, List.filter_cons, List.filter_cons, ih]

theorem pathLines_eq (text : String) :
    pathLines text = ((Text.lines text).map Text.trim).filter isKept :=
  (filter_trim_linesOfParts (Text.splitOn '\n' text)).symm

theorem mem_pathLines_iff_lines {path : String} :
    path ∈ pathLines text ↔ ∃ line ∈ Text.lines text, IsEntryLine line ∧ Text.trim line = path := by
  rw [pathLines_eq, List.mem_filter, List.mem_map]
  constructor
  · rintro ⟨⟨line, hline, rfl⟩, hkept⟩
    exact ⟨line, hline, isKept_iff.mp hkept, rfl⟩
  · rintro ⟨line, hline, hentry, rfl⟩
    exact ⟨⟨line, hline, rfl⟩, isKept_iff.mpr hentry⟩

/-- The paths of a text are well formed when no line offends. -/
theorem forall_pathLines_iff : (∀ path ∈ pathLines text, Field.isPath path = true) ↔
    ∀ line ∈ Text.lines text, IsEntryLine line → IsPathText (Text.trim line) := by
  simp only [mem_pathLines_iff_lines, Field.isPath_iff]
  constructor
  · exact fun h line hline hentry => h _ ⟨line, hline, hentry, rfl⟩
  · rintro h _ ⟨line, hline, hentry, rfl⟩
    exact h line hline hentry

/-- A text is read as a list when no line offends. -/
theorem exists_parse_iff_lines : (∃ fields, parse text = .ok fields) ↔
    ∀ line ∈ Text.lines text, IsEntryLine line → IsPathText (Text.trim line) := by
  rw [exists_parse_iff, ← forall_pathLines_iff]
  simp only [mem_pathLines_iff]

/-- The list then has the paths of its lines. -/
theorem mem_entries_of_parse {fields : FieldList} (h : parse text = .ok fields) {path : String} :
    path ∈ fields.entries ↔
      ∃ line ∈ Text.lines text, IsEntryLine line ∧ Text.trim line = path := by
  rw [(ofPaths_eq_ok_iff.mp h).2, mem_pathLines_iff_lines]

/-- **Otherwise the first line that offends is reported.** -/
theorem parse_eq_error_iff {fault : CatalogFault} : parse text = .error fault ↔
    ∃ before line after, Text.lines text = before ++ line :: after ∧
      (∀ earlier ∈ before, ¬ Offends earlier) ∧ Offends line ∧
      fault = .invalidPath (Text.trim line) := by
  have hoffends (line : String) :
      isKept (Text.trim line) = true ∧ ¬ Field.isPath (Text.trim line) = true ↔ Offends line := by
    rw [isKept_iff, Field.isPath_iff]
    rfl
  rw [parse, ofPaths_eq_error_iff, pathLines_eq, List.find?_filter, List.find?_map]
  simp only [Option.map_eq_some_iff, List.find?_eq_some_iff_append, Function.comp_apply,
    decide_eq_true_eq, Bool.not_eq_true', ← Bool.not_eq_true, hoffends]
  constructor
  · rintro ⟨_, ⟨line, ⟨hline, before, after, hlines, hbefore⟩, rfl⟩, rfl⟩
    exact ⟨before, line, after, hlines, hbefore, hline, rfl⟩
  · rintro ⟨before, line, after, hlines, hbefore, hline, rfl⟩
    exact ⟨_, ⟨line, ⟨hline, before, after, hlines, hbefore⟩, rfl⟩, rfl⟩

/-! ## Writing -/

/-- How a line of a field-list text may look, and the paths that are written on it. -/
inductive Row : String → List String → Prop where
  /-- Nothing but white space. -/
  | blank {line : String} : Text.isBlankText line = true → Row line []
  /-- A comment, possibly behind white space. -/
  | comment (before remark : String) : Text.isBlankText before = true →
    Row (before ++ "#" ++ remark) []
  /-- A path, possibly with white space around it. -/
  | entry (before path after : String) : Text.isBlankText before = true →
    Text.isBlankText after = true → Row (before ++ path ++ after) [path]

/-- A text of such lines, each of which ends with a line feed or with a carriage return and a line feed;
the last one may do without.  The paths are those of the lines, in their order. -/
inductive Layout : String → List String → Prop where
  /-- The last line. -/
  | last {line : String} {paths : List String} : Row line paths → '\n' ∉ line.toList →
    Layout line paths
  /-- A line before others. -/
  | line {line ending rest : String} {paths more : List String} : Row line paths →
    '\n' ∉ line.toList → ending = "\n" ∨ ending = "\r\n" → Layout rest more →
    Layout (line ++ ending ++ rest) (paths ++ more)

/-- A carriage return at the end of a line is white space behind what is written on it. -/
theorem Row.append_return {paths : List String} (h : Row line paths) : Row (line ++ "\r") paths := by
  have hblank {s : String} (hs : Text.isBlankText s = true) :
      Text.isBlankText (s ++ "\r") = true := by
    rw [Text.isBlankText, String.toList_append, List.all_append]
    exact Bool.and_eq_true_iff.mpr ⟨hs, by decide⟩
  -- whatever the line holds, the carriage return goes to the white space or the remark at its end
  cases h with
  | blank hline => exact .blank (hblank hline)
  | comment before remark hbefore =>
    rw [String.append_assoc]
    exact .comment before (remark ++ "\r") hbefore
  | entry before path after hbefore hafter =>
    rw [String.append_assoc]
    exact .entry before path (after ++ "\r") hbefore (hblank hafter)

theorem pathLines_of_single (h : '\n' ∉ line.toList) :
    pathLines line = [Text.trim line].filter isKept := by
  have hcut : Text.splitOn '\n' line = [line] := by
    rw [Text.splitOn, List.splitOn_eq_singleton h, List.map_singleton, String.ofList_toList]
  show ((Text.splitOn '\n' line).map Text.trim).filter isKept = _
  rw [hcut, List.map_singleton]

/-- The first line and the others. -/
theorem pathLines_append (line rest : String) :
    pathLines (line ++ "\n" ++ rest) = pathLines line ++ pathLines rest := by
  have hchars : (line ++ "\n" ++ rest).toList = line.toList ++ '\n' :: rest.toList := by simp
  have hcut : Text.splitOn '\n' (line ++ "\n" ++ rest)
      = Text.splitOn '\n' line ++ Text.splitOn '\n' rest := by
    rw [Text.splitOn, hchars, List.splitOn_append_cons_self, List.map_append]
    rfl
  show ((Text.splitOn '\n' (line ++ "\n" ++ rest)).map Text.trim).filter isKept = _
  rw [hcut, List.map_append, List.filter_append]
  rfl

/-- A comment is not kept. -/
theorem isKept_comment (remark : String) : isKept (Text.trim ("#" ++ remark)) = false := by
  have hstart : ∃ rest, Text.trim ("#" ++ remark) = "#" ++ rest :=
    Text.exists_trim_append (show Text.isBlank '#' = false by decide) remark
  rw [isKept, Text.startsWith_iff.mpr hstart, Bool.not_true, Bool.and_false]

/-- A path is kept as it is. -/
theorem kept_of_isPath {path : String} (h : Field.isPath path = true) :
    Text.trim path = path ∧ isKept path = true := by
  refine ⟨Text.trim_eq_self_of_forall fun c hc => (Field.plain_of_mem_path h hc).1,
    isKept_iff.mpr ⟨?_, ?_⟩⟩
  · rintro rfl
    exact absurd h (by decide)
  · rintro rest rfl
    exact (Field.plain_of_mem_path h (c := '#') (by simp)).2 rfl

/-- **A line adds the paths that are written on it.** -/
theorem Row.pathLines {paths : List String} (h : Row line paths)
    (hpaths : ∀ path ∈ paths, Field.isPath path = true) (hline : '\n' ∉ line.toList) :
    pathLines line = paths := by
  rw [pathLines_of_single hline]
  cases h with
  | blank hblank => rw [Text.trim_of_isBlankText hblank]; rfl
  | comment before remark hbefore =>
    have htrim := Text.trim_surrounded ("#" ++ remark) hbefore (show Text.isBlankText "" = true from rfl)
    rw [String.append_empty, ← String.append_assoc] at htrim
    rw [htrim, List.filter_cons_of_neg (by rw [isKept_comment]; exact Bool.false_ne_true)]
    rfl
  | entry before path after hbefore hafter =>
    obtain ⟨htrim, hkept⟩ := kept_of_isPath (hpaths path List.mem_cons_self)
    rw [Text.trim_surrounded path hbefore hafter, htrim, List.filter_cons_of_pos hkept]
    rfl

/-- **A written text has the paths that were written**, each on a line of its own. -/
theorem Layout.pathLines {paths : List String} (h : Layout text paths)
    (hpaths : ∀ path ∈ paths, Field.isPath path = true) : pathLines text = paths := by
  -- by induction on the lines: each adds its own paths in front of those of the rest
  induction h with
  | last hrow hline => exact hrow.pathLines hpaths hline
  | @line line ending rest paths more hrow hline hending _ ih =>
    obtain ⟨hown, hmore⟩ := List.forall_mem_append.mp hpaths
    rcases hending with rfl | rfl
    · rw [pathLines_append, hrow.pathLines hown hline, ih hmore]
    · -- the carriage return belongs to the line that ends here
      have hreturn : '\n' ∉ (line ++ "\r").toList := by
        rw [String.toList_append, List.mem_append, not_or]
        exact ⟨hline, by decide⟩
      have hsplit : line ++ "\r\n" ++ rest = line ++ "\r" ++ "\n" ++ rest := by
        rw [show ("\r\n" : String) = "\r" ++ "\n" from rfl, ← String.append_assoc]
      rw [hsplit, pathLines_append, hrow.append_return.pathLines hown hreturn, ih hmore]

/-- A text on which the paths of a list are written is read as this list. -/
theorem Layout.parse {paths : List String} {fields : FieldList} (h : Layout text paths)
    (hpaths : ∀ path, path ∈ paths ↔ path ∈ fields.entries) : parse text = .ok fields := by
  have hvalid : ∀ path ∈ paths, Field.isPath path = true := fun path hpath =>
    fields.valid path ((hpaths path).mp hpath)
  refine ofPaths_eq_ok_iff.mpr ?_
  rw [h.pathLines hvalid]
  exact ⟨hvalid, fun path => (hpaths path).symm⟩

/-! ## Both ways -/

/-- **Field-list texts are read exactly.**  A text is read as a list if and only if each line that,
trimmed, is neither empty nor a comment is a path: words of ASCII letters and digits with single dots
between them and possibly a wildcard at the end, of at most 256 bytes.  The list then has exactly these
trimmed lines; otherwise the first line at fault is reported.  And a list that is written down, its paths
in any order, with comments, blank lines, white space and either line end, is read back. -/
theorem parse_exact :
    (∀ text, (∃ fields, parse text = .ok fields) ↔
      ∀ line ∈ Text.lines text, IsEntryLine line → IsPathText (Text.trim line)) ∧
    (∀ text fields, parse text = .ok fields → ∀ path, path ∈ fields.entries ↔
      ∃ line ∈ Text.lines text, IsEntryLine line ∧ Text.trim line = path) ∧
    (∀ text fault, parse text = .error fault ↔
      ∃ before line after, Text.lines text = before ++ line :: after ∧
        (∀ earlier ∈ before, ¬ Offends earlier) ∧ Offends line ∧
        fault = .invalidPath (Text.trim line)) ∧
    ∀ (text : String) (paths : List String) (fields : FieldList), Layout text paths →
      (∀ path, path ∈ paths ↔ path ∈ fields.entries) → parse text = .ok fields :=
  ⟨fun _ => exists_parse_iff_lines, fun _ _ hparse _ => mem_entries_of_parse hparse,
    fun _ _ => parse_eq_error_iff, fun _ _ _ hlayout hpaths => hlayout.parse hpaths⟩

/-- A list of two fields. -/
def sampleFields : FieldList := ⟨SortedSet.ofList ["geboorte.datum", "naam.*"], by decide +kernel⟩

/-- The list, written with a comment, an empty line, white space and both line ends, is read back; and
of two lines at fault the first one is reported. -/
theorem parse_exact_of_sample :
    Layout "# basis\r\n naam.*\t\n\ngeboorte.datum" ["naam.*", "geboorte.datum"] ∧
      parse "# basis\r\n naam.*\t\n\ngeboorte.datum" = .ok sampleFields ∧
      parse "naam\n*\nnaam..x" = .error (.invalidPath "*") := by
  have hlayout : Layout "# basis\r\n naam.*\t\n\ngeboorte.datum" ["naam.*", "geboorte.datum"] :=
    .line (.comment "" " basis" rfl) (by decide) (.inr rfl)
      (.line (.entry " " "naam.*" "\t" rfl rfl) (by decide) (.inl rfl)
        (.line (.blank (show Text.isBlankText "" = true from rfl)) (by decide) (.inl rfl)
          (.last (.entry "" "geboorte.datum" "" rfl rfl) (by decide))))
  have hgood : ¬ Offends "naam" := fun h => h.2 (Field.isPath_iff.mp (by decide +kernel))
  have hbad : Offends "*" :=
    ⟨isKept_iff.mp (by decide +kernel), fun h => absurd (Field.isPath_iff.mpr h) (by decide +kernel)⟩
  obtain ⟨-, -, herror, hwritten⟩ := parse_exact
  -- the list that was written is read back by its layout, the lines at fault by the first of them
  refine ⟨hlayout, hwritten _ _ sampleFields hlayout fun path => ?_, (herror _ _).mpr ?_⟩
  · rw [sampleFields, SortedSet.mem_ofList, List.mem_cons, List.mem_cons, or_left_comm, List.mem_cons,
      List.mem_cons]
  · exact ⟨["naam"], "*", ["naam..x"], by decide +kernel, List.forall_mem_singleton.mpr hgood, hbad, rfl⟩

end FieldList

end RegistryGate
