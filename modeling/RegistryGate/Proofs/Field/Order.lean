/-
  Coverage as an order of paths.

  Coverage is decided on characters: the same text, or a dot where the entry ends.  What it means is
  said in names: an entry covers a path exactly when its names are the first names of the path
  (`covers_iff_segments`).  So coverage is as good as the prefix order of lists.  It is transitive,
  entries that cover each other have the same path, and of two entries that cover one path one covers
  the other, which is what makes narrowing one list to another possible.

  Dropping every path that another one covers leaves the least paths of a set
  (`mem_minimize`).  Nothing that was covered is lost by it (`covered_minimize_iff`): going from a
  path to one that covers it makes it shorter, so this comes to an end.  All of this is put together in
  `coverage_is_prefix_order`.
-/
import RegistryGate.Proofs.Field.Defaults

namespace RegistryGate.Field

/-! ## Names of a path and of its beginning -/

/-- A dot in a path stands between names. -/
theorem segments_append_dot (start rest : String) :
    segments (start ++ "." ++ rest) = segments start ++ segments rest := by
  have hchars : (start ++ "." ++ rest).toList = start.toList ++ '.' :: rest.toList := by
    simp
  rw [segments, Text.splitOn, hchars, List.splitOn_append_cons_self, List.map_append]
  rfl

/-- More names at the end of a path. -/
theorem joinWith_append {names more : List String} (hne : names ≠ []) (hmore : more ≠ []) :
    Text.joinWith "." (names ++ more)
      = Text.joinWith "." names ++ "." ++ Text.joinWith "." more := by
  -- by induction on the names behind, with one after the other joined to those in front
  induction more generalizing names with
  | nil => exact absurd rfl hmore
  | cons name rest ih =>
    cases rest with
    | nil => rw [joinWith_append_singleton hne, Text.joinWith_singleton]
    | cons next rest =>
      have hnames : names ++ [name] ≠ [] := by simp
      have htail := ih hnames (List.cons_ne_nil next rest)
      rw [List.append_assoc, List.singleton_append] at htail
      rw [htail, joinWith_append_singleton hne, Text.joinWith_cons_cons]
      simp only [String.append_assoc]

theorem segments_ne_nil (path : String) : segments path ≠ [] := by
  unfold segments Text.splitOn
  simp

/-- **Coverage is the prefix order of names.** -/
theorem covers_iff_segments {entry path : String} :
    covers entry path = true ↔
      segments (wildcardBase entry) <+: segments (wildcardBase path) := by
  rw [covers_iff]
  constructor
  · rintro (hsame | ⟨rest, hrest⟩)
    · refine ⟨[], ?_⟩
      rw [List.append_nil, hsame]
    · rw [hrest, segments_append_dot]
      exact List.prefix_append _ _
  · rintro ⟨more, hmore⟩
    by_cases hnil : more = []
    · left
      rw [hnil, List.append_nil] at hmore
      rw [← joinWith_segments (wildcardBase path), ← hmore, joinWith_segments]
    · right
      refine ⟨Text.joinWith "." more, ?_⟩
      rw [← joinWith_segments (wildcardBase path), ← hmore,
        joinWith_append (segments_ne_nil _) hnil, joinWith_segments]

/-! ## Laws of the order -/

theorem covers_trans {first second third : String} (h : covers first second = true)
    (h' : covers second third = true) : covers first third = true := by
  rw [covers_iff_segments] at h h' ⊢
  exact h.trans h'

/-- Entries that cover each other are the same but for a wildcard. -/
theorem wildcardBase_eq_of_covers {first second : String} (h : covers first second = true)
    (h' : covers second first = true) : wildcardBase first = wildcardBase second := by
  rw [covers_iff_segments] at h h'
  have hsegments := h.eq_of_length_le h'.length_le
  rw [← joinWith_segments (wildcardBase first), hsegments, joinWith_segments]

/-- Of two entries that cover one path, one covers the other. -/
theorem covers_or_covers {first second path : String} (h : covers first path = true)
    (h' : covers second path = true) :
    covers first second = true ∨ covers second first = true := by
  rw [covers_iff_segments] at h h'
  rw [covers_iff_segments, covers_iff_segments]
  exact List.prefix_or_prefix_of_prefix h h'

/-- An entry is covered where its own path is. -/
theorem covers_wildcardBase_right {entry path : String}
    (hplain : wildcardBase (wildcardBase path) = wildcardBase path) :
    covers entry (wildcardBase path) = covers entry path := by
  unfold covers
  rw [hplain]

/-! ## Least paths -/

variable {paths : NameSet}

/-- What is left are the paths that no other one covers. -/
theorem mem_minimize {path : String} :
    path ∈ minimize paths ↔
      path ∈ paths ∧ ∀ other, other ∈ paths → covers other path = true → other = path := by
  unfold minimize
  rw [List.mem_filter, Bool.not_eq_true', List.any_eq_false]
  refine and_congr_right fun _ => forall_congr' fun other => imp_congr_right fun _ => ?_
  rw [Bool.and_eq_true, bne_iff_ne, not_and', not_not]

theorem ascending_minimize (paths : NameSet) : Ascending (minimize paths) :=
  List.Pairwise.filter _ paths.ascending

/-- Below every path of a set without wildcards there is a least one that covers it.  The induction
is on the number of its names, which gets smaller when another path covers it. -/
theorem exists_least (hplain : ∀ path, path ∈ paths → wildcardBase path = path) {path : String}
    (hpath : path ∈ paths) : ∃ least ∈ minimize paths, covers least path = true := by
  induction hn : (segments path).length using Nat.strongRecOn generalizing path with
  | ind n ih =>
    by_cases hleast : path ∈ minimize paths
    · exact ⟨path, hleast, covers_refl path⟩
    · -- another path covers it, and has fewer names
      rw [mem_minimize, not_and] at hleast
      obtain ⟨other, hother⟩ := not_forall.mp (hleast hpath)
      obtain ⟨hmem, hrest⟩ := Classical.not_imp.mp hother
      obtain ⟨hcovers, hne⟩ := Classical.not_imp.mp hrest
      have hprefix := covers_iff_segments.mp hcovers
      rw [hplain other hmem, hplain path hpath] at hprefix
      have hshorter : (segments other).length < n := by
        rw [← hn]
        refine Nat.lt_of_le_of_ne hprefix.length_le fun hlength => hne ?_
        rw [← joinWith_segments other, hprefix.eq_of_length hlength, joinWith_segments]
      obtain ⟨least, hmin, hleast⟩ := ih _ hshorter hmem rfl
      exact ⟨least, hmin, covers_trans hleast hcovers⟩

/-- **The least paths cover what all paths cover.** -/
theorem covered_minimize_iff (hplain : ∀ path, path ∈ paths → wildcardBase path = path)
    {path : String} :
    (∃ least ∈ minimize paths, covers least path = true) ↔
      ∃ entry, entry ∈ paths ∧ covers entry path = true := by
  constructor
  · rintro ⟨least, hmin, hcovers⟩
    exact ⟨least, (mem_minimize.mp hmin).1, hcovers⟩
  · rintro ⟨entry, hentry, hcovers⟩
    obtain ⟨least, hmin, hleast⟩ := exists_least hplain hentry
    exact ⟨least, hmin, covers_trans hleast hcovers⟩

/-! ## Paths without a wildcard at their end -/

/-- Nothing is cut off a path that does not end with the wildcard. -/
theorem wildcardBase_of_not_endsWith {path : String} (h : Text.endsWith ".*" path = false) :
    wildcardBase path = path := by
  refine wildcardBase_eq_self fun parent hparent => ?_
  have hends : Text.endsWith ".*" path = true := by
    rw [Text.endsWith, List.isSuffixOf_iff_suffix, hparent, String.toList_append]
    exact List.suffix_append _ _
  rw [h] at hends
  cases hends

/-- **Coverage is the prefix order of names.**  For any two texts, the names of the covering one, with
its wildcard left out, are the first names of the other.  So coverage is reflexive and transitive, two
entries that cover one path are comparable, and paths without a wildcard at their end that cover each
other are the same.  Of a set of such paths exactly the least ones are kept, in ascending order, and
these cover what the set covers. -/
theorem coverage_is_prefix_order :
    (∀ entry path : String, covers entry path = true ↔
      segments (wildcardBase entry) <+: segments (wildcardBase path)) ∧
    (∀ path : String, covers path path = true) ∧
    (∀ first second third : String, covers first second = true → covers second third = true →
      covers first third = true) ∧
    (∀ first second path : String, covers first path = true → covers second path = true →
      covers first second = true ∨ covers second first = true) ∧
    (∀ first second : String, Text.endsWith ".*" first = false → Text.endsWith ".*" second = false →
      covers first second = true → covers second first = true → first = second) ∧
    ∀ paths : NameSet, (∀ path, path ∈ paths → Text.endsWith ".*" path = false) →
      (∀ path, path ∈ minimize paths ↔
        path ∈ paths ∧ ∀ other, other ∈ paths → covers other path = true → other = path) ∧
      Ascending (minimize paths) ∧
      ∀ path, (∃ least ∈ minimize paths, covers least path = true) ↔
        ∃ entry, entry ∈ paths ∧ covers entry path = true := by
  refine ⟨fun _ _ => covers_iff_segments, covers_refl, fun _ _ _ => covers_trans,
    fun _ _ _ => covers_or_covers, fun first second hfirst hsecond h h' => ?_,
    fun paths hpaths => ⟨fun _ => mem_minimize, ascending_minimize paths, fun _ => ?_⟩⟩
  · have hsame := wildcardBase_eq_of_covers h h'
    rwa [wildcardBase_of_not_endsWith hfirst, wildcardBase_of_not_endsWith hsecond] at hsame
  · exact covered_minimize_iff fun path hpath => wildcardBase_of_not_endsWith (hpaths path hpath)

/-- Three of four names are least; the last is not below the second one, whose text it starts with. -/
theorem coverage_is_prefix_order_of_names :
    let paths := SortedSet.ofList ["adressering", "naam", "naam.voornamen", "naamgebruik"]
    (∀ path, path ∈ paths → Text.endsWith ".*" path = false) ∧
      minimize paths = ["adressering", "naam", "naamgebruik"] ∧
      ("naamgebruik" ∈ minimize paths ↔ "naamgebruik" ∈ paths ∧
        ∀ other, other ∈ paths → covers other "naamgebruik" = true → other = "naamgebruik") ∧
      ((∃ least ∈ minimize paths, covers least "naam.voornamen.*" = true) ↔
        ∃ entry, entry ∈ paths ∧ covers entry "naam.voornamen.*" = true) := by
  intro paths
  have hplain : ∀ path ∈ paths.toList, Text.endsWith ".*" path = false := by decide +kernel
  obtain ⟨-, -, -, -, -, hminimize⟩ := coverage_is_prefix_order
  obtain ⟨hleast, -, hcovered⟩ := hminimize paths hplain
  exact ⟨hplain, by decide +kernel, hleast "naamgebruik", hcovered "naam.voornamen.*"⟩

/-- With wildcards at their ends paths may cover each other, and then none of them is kept. -/
example : minimize (SortedSet.ofList ["naam", "naam.*"]) = [] := by decide +kernel

end RegistryGate.Field
