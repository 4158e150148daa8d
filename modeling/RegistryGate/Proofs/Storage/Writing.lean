/-
  What is written to a tree is read back.

  A path is looked up by walking: each name leads into an entry, stays, or goes back up.  Writing
  resolves the path without walking, to the names of entries only (`Tree.route`), and puts the content
  there.  That these are the same place is the invariant of the walk: after some names it stands where
  the route of these names leads (`Stands`), which one step preserves (`stands_of_moves`).

  Writing may change every directory on its way, but it leaves directories what they are
  (`exists_directory_put`).  So the walk that led to the directory of the file before leads there
  afterwards as well (`exists_walk`), also where it goes into a directory and out of it again; and in
  that directory the file is found with its new content (`read_write`).
-/
import RegistryGate.Proofs.Fallible
import RegistryGate.Storage.Tree

namespace RegistryGate.Storage.Tree

/-! ## Entries -/

/-- The entries of a directory; a file has none. -/
def entries : Tree → List (String × Tree)
  | .file _ => []
  | .directory entries => entries

/-- What stands at the end of names, each the name of an entry of what the one before leads to. -/
def nodeAt? : List String → Tree → Option Tree
  | [], tree => some tree
  | name :: names, tree => (Members.get? name tree.entries).bind (nodeAt? names)

theorem put_cons (leaf : Tree) (name : String) (names : List String) (tree : Tree) :
    put leaf (name :: names) tree
      = .directory (Members.insert name
          (put leaf names ((Members.get? name tree.entries).getD empty)) tree.entries) := by
  cases tree <;> rfl

/-- After the others the last name is looked up where they lead. -/
theorem nodeAt?_concat (names : List String) (name : String) (tree : Tree) :
    nodeAt? (names ++ [name]) tree
      = (nodeAt? names tree).bind fun node => Members.get? name node.entries := by
  -- on the names, from the root on
  induction names generalizing tree with
  | nil =>
    show (Members.get? name tree.entries).bind (nodeAt? []) = Members.get? name tree.entries
    cases Members.get? name tree.entries <;> rfl
  | cons other names ih =>
    rw [List.cons_append, nodeAt?, nodeAt?, Option.bind_assoc]
    exact congrArg _ (funext ih)

/-- What is put somewhere stands there. -/
theorem nodeAt?_put (leaf : Tree) (names : List String) (tree : Tree) :
    nodeAt? names (put leaf names tree) = some leaf := by
  -- on the names, each of which is put into the directory of the one before
  induction names generalizing tree with
  | nil => rfl
  | cons name names ih =>
    rw [put_cons, nodeAt?]
    show (Members.get? name (Members.insert name _ tree.entries)).bind _ = _
    rw [Members.get?_insert_self]
    exact ih _

/-- Directories stay directories when something is put where there is none.  The induction is on the
way to what is put; the two ways part at some name, or the other one ends before. -/
theorem exists_directory_put {leaf : Tree} {names others : List String} {tree : Tree}
    {found : List (String × Tree)} (hno : ∀ found, nodeAt? names tree ≠ some (.directory found))
    (hfound : nodeAt? others tree = some (.directory found)) :
    ∃ after, nodeAt? others (put leaf names tree) = some (.directory after) := by
  induction names generalizing others tree with
  | nil =>
    cases tree with
    | directory entries => exact absurd rfl (hno entries)
    | file content => cases others <;> cases hfound
  | cons name names ih =>
    cases others with
    | nil => exact ⟨_, congrArg some (put_cons leaf name names tree)⟩
    | cons other others =>
      rw [put_cons, nodeAt?]
      rw [nodeAt?] at hfound
      by_cases hsame : other = name
      · subst hsame
        show ∃ after, (Members.get? other (Members.insert other _ tree.entries)).bind _ = _
        rw [Members.get?_insert_self]
        cases hchild : Members.get? other tree.entries with
        | none =>
          rw [hchild] at hfound
          cases hfound
        | some child =>
          rw [hchild] at hfound
          refine ih (fun found hnode => hno found ?_) hfound
          rw [nodeAt?, hchild]
          exact hnode
      · show ∃ after, (Members.get? other (Members.insert name _ tree.entries)).bind _ = _
        rw [Members.get?_insert_of_ne hsame]
        exact ⟨found, hfound⟩

/-! ## Steps -/

/-- A name that stays where it is. -/
def Stays (name : String) : Prop := (name.isEmpty || name == ".") = true

/-- A name that leads back up. -/
def Returns (name : String) : Prop := (name == "..") = true

/-- A name that an entry may have. -/
structure Enters (name : String) : Prop where
  /-- It leads away from where it is. -/
  leaves : ¬ Stays name
  /-- It does not lead up. -/
  descends : ¬ Returns name
  /-- It is no longer than names may be. -/
  fits : ¬ maxNameLength < name.utf8ByteSize

/-- Where a name leads from a directory. -/
inductive Moves (place : Place) (name : String) : Place → Prop where
  /-- Nowhere else. -/
  | stay (h : Stays name) : Moves place name place
  /-- Nowhere else, since there is nothing above. -/
  | top (hleaves : ¬ Stays name) (h : Returns name) (habove : place.above = []) :
      Moves place name place
  /-- To the directory above. -/
  | up {node : Tree} {above : List Tree} (hleaves : ¬ Stays name) (h : Returns name)
      (habove : place.above = node :: above) : Moves place name ⟨node, above⟩
  /-- To an entry. -/
  | down {node : Tree} (h : Enters name)
      (hentry : Members.get? name place.node.entries = some node) :
      Moves place name ⟨node, place.node :: place.above⟩

/-- What an entry may be called is looked up in the directory. -/
theorem step_of_enters {found : List (String × Tree)} {above : List Tree} {name : String}
    (h : Enters name) :
    step ⟨.directory found, above⟩ name = match Members.get? name found with
      | none => .error .notFound
      | some node => .ok ⟨node, .directory found :: above⟩ :=
  (if_neg h.leaves).trans ((if_neg h.descends).trans (if_neg h.fits))

/-- Inversion of `step`: it starts at a directory, and goes where the name leads. -/
theorem step_eq_ok_iff {place next : Place} {name : String} : step place name = .ok next ↔
    (∃ found, place.node = .directory found) ∧ Moves place name next := by
  obtain ⟨node, above⟩ := place
  cases node with
  | file content => exact iff_of_false (fun h => nomatch h) fun ⟨⟨_, h⟩, _⟩ => nomatch h
  | directory found =>
    constructor
    · -- the branches of `step` are those of `Moves`
      intro h
      refine ⟨⟨found, rfl⟩, ?_⟩
      unfold step at h
      dsimp only at h
      split at h
      · rename_i hstays
        cases h
        exact .stay hstays
      · rename_i hleaves
        split at h
        · rename_i hreturns
          cases above with
          | nil =>
            cases h
            exact .top hleaves hreturns rfl
          | cons =>
            cases h
            exact .up hleaves hreturns rfl
        · rename_i hdescends
          split at h
          · cases h
          · rename_i hfits
            cases hentry : Members.get? name found with
            | none =>
              rw [hentry] at h
              cases h
            | some node =>
              rw [hentry] at h
              cases h
              exact .down ⟨hleaves, hdescends, hfits⟩ hentry
    · rintro ⟨-, hmoves⟩
      unfold step
      dsimp only
      cases hmoves with
      | stay h => exact if_pos h
      | top hleaves h habove =>
        obtain rfl : above = [] := habove
        exact (if_neg hleaves).trans (if_pos h)
      | up hleaves h habove =>
        obtain rfl : above = _ := habove
        exact (if_neg hleaves).trans (if_pos h)
      | down h hentry =>
        refine (step_of_enters h).trans ?_
        rw [show Members.get? name found = _ from hentry]

/-- An entry is not found in a directory that has none of that name. -/
theorem of_step_eq_notFound {place : Place} {name : String}
    (h : step place name = .error .notFound) :
    (∃ found, place.node = .directory found) ∧ Enters name ∧
      Members.get? name place.node.entries = none := by
  obtain ⟨node, above⟩ := place
  cases node with
  | file content => cases h
  | directory found =>
    unfold step at h
    dsimp only at h
    split at h
    · cases h
    · rename_i hleaves
      split at h
      · cases above <;> cases h
      · rename_i hdescends
        split at h
        · cases h
        · rename_i hfits
          refine ⟨⟨found, rfl⟩, ⟨hleaves, hdescends, hfits⟩, ?_⟩
          cases hentry : Members.get? name found with
          | none => exact hentry
          | some node =>
            rw [hentry] at h
            cases h

/-! ## Walking -/

/-- The names of entries after one more name, nearest first. -/
def turn (names : List String) (name : String) : List String :=
  if name.isEmpty || name == "." then names
  else if name == ".." then names.drop 1
  else name :: names

theorem route_eq (names : List String) : route names = (names.foldl turn []).reverse := rfl

theorem turn_of_stays {name : String} (h : Stays name) (names : List String) :
    turn names name = names := if_pos h

theorem turn_of_returns {name : String} (hleaves : ¬ Stays name) (h : Returns name)
    (names : List String) : turn names name = names.drop 1 := (if_neg hleaves).trans (if_pos h)

theorem turn_of_enters {name : String} (h : Enters name) (names : List String) :
    turn names name = name :: names := (if_neg h.leaves).trans (if_neg h.descends)

/-- The walk stands where names of entries lead, which are given nearest first. -/
inductive Stands (root : Tree) : List String → Place → Prop where
  /-- At the root. -/
  | root : Stands root [] ⟨root, []⟩
  /-- In an entry. -/
  | entry {names : List String} {place : Place} {name : String} {node : Tree}
      (h : Stands root names place) (hentry : Members.get? name place.node.entries = some node) :
      Stands root (name :: names) ⟨node, place.node :: place.above⟩

section

variable {root root' : Tree} {names : List String} {place place' next : Place} {name : String}

theorem Stands.nodeAt? (h : Stands root names place) :
    root.nodeAt? names.reverse = some place.node := by
  -- by the names of the route, the last one first
  induction h with
  | root => rfl
  | entry _ hentry ih =>
    rw [List.reverse_cons, nodeAt?_concat, ih]
    exact hentry

/-- One name further stands what the directory has under it. -/
theorem Stands.nodeAt?_cons (h : Stands root names place) (name : String) :
    root.nodeAt? (name :: names).reverse = Members.get? name place.node.entries := by
  rw [List.reverse_cons, nodeAt?_concat, h.nodeAt?]
  rfl

/-- Where there is something above, the way up leads there, and that is a directory. -/
theorem Stands.up {node : Tree} {above : List Tree} (h : Stands root names place)
    (habove : place.above = node :: above) :
    (∃ found, node = .directory found) ∧ Stands root (names.drop 1) ⟨node, above⟩ := by
  -- an entry was looked up in what is above, which is therefore a directory
  cases h with
  | root => cases habove
  | @entry names place name inner h hentry =>
    obtain ⟨rfl, rfl⟩ := List.cons.inj habove
    refine ⟨?_, h⟩
    cases hnode : place.node with
    | directory found => exact ⟨found, rfl⟩
    | file content =>
      rw [hnode] at hentry
      cases hentry

/-- Only at the root there is nothing above. -/
theorem Stands.top (h : Stands root names place) (habove : place.above = []) :
    names.drop 1 = names := by
  cases h with
  | root => rfl
  | entry => cases habove

/-- **A step leads where the route goes on.** -/
theorem stands_of_moves (hstands : Stands root names place) (h : Moves place name next) :
    Stands root (turn names name) next := by
  cases h with
  | stay h => rwa [turn_of_stays h]
  | top hleaves h habove => rwa [turn_of_returns hleaves h, hstands.top habove]
  | up hleaves h habove =>
    rw [turn_of_returns hleaves h]
    exact (hstands.up habove).2
  | down h hentry =>
    rw [turn_of_enters h]
    exact .entry hstands hentry

/-- The same step can be taken in another tree that has something where it leads. -/
theorem exists_moves (h : Moves place name next) (hstands' : Stands root' names place')
    (hthere : root'.nodeAt? (turn names name).reverse ≠ none) :
    ∃ next', Moves place' name next' := by
  -- a step up leads somewhere in any tree, a step down only where there is an entry
  cases h with
  | stay h => exact ⟨_, .stay h⟩
  | top hleaves h | up hleaves h =>
    cases habove : place'.above with
    | nil => exact ⟨_, .top hleaves h habove⟩
    | cons node above => exact ⟨_, .up hleaves h habove⟩
  | down h =>
    obtain ⟨node, hnode⟩ := Option.ne_none_iff_exists'.mp hthere
    rw [turn_of_enters h, hstands'.nodeAt?_cons] at hnode
    exact ⟨_, .down h hnode⟩

/-- Holds of a tree that has directories wherever another one has them. -/
def Keeps (root root' : Tree) : Prop :=
  ∀ names found, root.nodeAt? names = some (.directory found) →
    ∃ after, root'.nodeAt? names = some (.directory after)

theorem Stands.exists_directory (hkeeps : Keeps root root') (hstands : Stands root names place)
    (hstands' : Stands root' names place') (h : ∃ found, place.node = .directory found) :
    ∃ found, place'.node = .directory found := by
  obtain ⟨found, hnode⟩ := h
  -- both walks stand where the same names lead, and there the directories are kept
  have hthere := hstands.nodeAt?
  rw [hnode] at hthere
  obtain ⟨after, hafter⟩ := hkeeps _ _ hthere
  exact ⟨after, Option.some.inj (hstands'.nodeAt?.symm.trans hafter)⟩

/-- **A walk to a directory can be repeated** in a tree that keeps the directories.  The invariant
is that both walks stand where the same names of entries lead.  Every place on the first walk is a
directory, so the other tree still has one there, and the second walk can follow. -/
theorem exists_walk (hkeeps : Keeps root root') {steps : List String}
    (hstands : Stands root names place) (hstands' : Stands root' names place')
    (hwalk : steps.foldlM step place = .ok next) (hend : ∃ found, next.node = .directory found) :
    ∃ next', steps.foldlM step place' = .ok next' ∧
      Stands root (steps.foldl turn names) next ∧ Stands root' (steps.foldl turn names) next' := by
  induction steps generalizing names place place' with
  | nil =>
    cases hwalk
    exact ⟨place', rfl, hstands, hstands'⟩
  | cons name rest ih =>
    rw [List.foldlM_cons] at hwalk
    obtain ⟨middle, hstep, hrest⟩ := Fallible.bind_eq_ok_iff.mp hwalk
    obtain ⟨hhere, hmoves⟩ := step_eq_ok_iff.mp hstep
    have hmiddle : ∃ found, middle.node = .directory found := by
      -- the walk goes on from there, or ends there
      cases rest with
      | nil =>
        cases hrest
        exact hend
      | cons =>
        rw [List.foldlM_cons] at hrest
        obtain ⟨_, hnext, -⟩ := Fallible.bind_eq_ok_iff.mp hrest
        exact (step_eq_ok_iff.mp hnext).1
    have hturned := stands_of_moves hstands hmoves
    have hthere : root'.nodeAt? (turn names name).reverse ≠ none := by
      obtain ⟨found, hnode⟩ := hmiddle
      have hfound := hturned.nodeAt?
      rw [hnode] at hfound
      obtain ⟨after, hafter⟩ := hkeeps _ _ hfound
      rw [hafter]
      exact Option.some_ne_none _
    obtain ⟨middle', hmoves'⟩ := exists_moves hmoves hstands' hthere
    obtain ⟨next', hrest', hnext, hnext'⟩ :=
      ih hturned (stands_of_moves hstands' hmoves') hrest
    have hstep' : step place' name = .ok middle' :=
      step_eq_ok_iff.mpr ⟨hstands.exists_directory hkeeps hstands' hhere, hmoves'⟩
    refine ⟨next', ?_, hnext, hnext'⟩
    rw [List.foldlM_cons]
    exact Fallible.bind_eq_ok_iff.mpr ⟨middle', hstep', hrest'⟩

end

/-! ## Writing -/

section

variable {root : Tree} {working path : String}

/-- A path leads to the place of a file: through a directory, to a name that no directory has.  The
walk to that directory stands where the names of entries lead. -/
structure LeadsToFile (root : Tree) (working path : String) (names : List String) (name : String)
    (place : Place) : Prop where
  /-- The path may be looked up. -/
  checked : checkPath path = .ok ()
  /-- The last name of the path is that of the file, and the ones before it lead to the place. -/
  walk : ∃ steps, Path.components (Path.join working path) = steps ++ [name] ∧
    steps.foldlM step ⟨root, []⟩ = .ok place ∧ steps.foldl turn [] = names
  /-- That is where these names of entries lead. -/
  stands : Stands root names place
  /-- It is a directory. -/
  directory : ∃ found, place.node = .directory found
  /-- An entry may have the name of the file. -/
  enters : Enters name
  /-- No directory has it. -/
  free : ∀ found, Members.get? name place.node.entries ≠ some (.directory found)

/-- A walk from the root stands where the names of its route lead.  Going up takes the last name off
the route, and going down puts one on. -/
theorem stands_of_walk {steps : List String} {place start : Place} {names : List String}
    (hstart : Stands root names start) (h : steps.foldlM step start = .ok place) :
    Stands root (steps.foldl turn names) place := by
  -- on the steps of the walk
  induction steps generalizing names start with
  | nil =>
    cases h
    exact hstart
  | cons name rest ih =>
    rw [List.foldlM_cons] at h
    obtain ⟨middle, hstep, hrest⟩ := Fallible.bind_eq_ok_iff.mp h
    exact ih (stands_of_moves hstart (step_eq_ok_iff.mp hstep).2) hrest

/-- A name that leads to a file, or to nothing that is there, is the name of an entry, and no
directory has it. -/
theorem enters_of_step {names : List String} {place : Place} {name : String}
    (hstands : Stands root names place)
    (h : (∃ content above, step place name = .ok ⟨.file content, above⟩) ∨
      step place name = .error .notFound) :
    (∃ found, place.node = .directory found) ∧ Enters name ∧
      ∀ found, Members.get? name place.node.entries ≠ some (.directory found) := by
  rcases h with ⟨content, above, hstep⟩ | hstep
  · obtain ⟨⟨found, hnode⟩, hmoves⟩ := step_eq_ok_iff.mp hstep
    generalize hnext : Place.mk (.file content) above = next at hmoves
    have hfile : next.node = .file content := by rw [← hnext]
    -- from a directory neither staying nor going up leads to a file
    cases hmoves with
    | stay | top => cases hnode.symm.trans hfile
    | up _ _ habove =>
      obtain ⟨⟨found, hup⟩, -⟩ := hstands.up habove
      cases hup.symm.trans hfile
    | @down node henters hentry =>
      refine ⟨⟨found, hnode⟩, henters, fun inner hinner => ?_⟩
      have hboth : Tree.directory inner = .file content :=
        (Option.some.inj (hinner.symm.trans hentry)).trans hfile
      cases hboth
  · obtain ⟨hdirectory, henters, hentry⟩ := of_step_eq_notFound hstep
    exact ⟨hdirectory, henters, fun found hfound => by cases hentry.symm.trans hfound⟩

/-- A file can be opened for appending where a path leads to the place of one.  The walk leads to a
directory, and the name that is left is that of a file in it or of nothing. -/
theorem appendable_eq_ok_iff : appendable root working path = .ok () ↔
    ∃ names name place, LeadsToFile root working path names name place := by
  constructor
  · intro h
    unfold appendable at h
    obtain ⟨⟨⟩, hchecked, h⟩ := Fallible.bind_eq_ok_iff.mp h
    obtain ⟨place, hwalk, h⟩ := Fallible.bind_eq_ok_iff.mp h
    split at h
    · cases h
    · cases h
    · rename_i name _ hlast
      obtain ⟨steps, hsteps⟩ := List.getLast?_eq_some_iff.mp hlast
      rw [hsteps, List.dropLast_concat] at hwalk
      have hstands := stands_of_walk .root hwalk
      have hleads : (∃ content above, step place name = .ok ⟨.file content, above⟩) ∨
          step place name = .error .notFound := by
        split at h
        · cases h
        · rename_i hstep
          exact Or.inl ⟨_, _, hstep⟩
        · rename_i hstep
          exact Or.inr hstep
        · cases h
      obtain ⟨hdirectory, henters, hfree⟩ := enters_of_step hstands hleads
      exact ⟨_, name, place, hchecked, ⟨steps, hsteps, hwalk, rfl⟩, hstands, hdirectory, henters,
        hfree⟩
  · rintro ⟨names, name, ⟨node, above⟩, h⟩
    obtain ⟨steps, hsteps, hwalk, -⟩ := h.walk
    obtain ⟨found, rfl⟩ : ∃ found, node = .directory found := h.directory
    have hname : name ≠ "" := by
      rintro rfl
      exact h.enters.leaves rfl
    unfold appendable
    rw [h.checked, hsteps]
    dsimp only
    rw [List.dropLast_concat, List.getLast?_concat]
    refine Fallible.bind_eq_ok_iff.mpr ⟨(), rfl, Fallible.bind_eq_ok_iff.mpr ⟨_, hwalk, ?_⟩⟩
    split
    · contradiction
    · rename_i hempty
      exact absurd (Option.some.inj hempty) hname
    · rename_i other _ hother
      obtain rfl := Option.some.inj hother
      rw [step_of_enters h.enters]
      cases hentry : Members.get? name found with
      | none => rfl
      | some node =>
        cases node with
        | file content => rfl
        | directory inner => exact absurd hentry (h.free inner)

namespace LeadsToFile

variable {names : List String} {name : String} {place : Place}

/-- Writing puts the content where the walk leads. -/
theorem write_eq (h : LeadsToFile root working path names name place) (content : ByteArray) :
    write working path content root = put (.file content) (name :: names).reverse root := by
  obtain ⟨steps, hsteps, -, rfl⟩ := h.walk
  rw [write, hsteps, route_eq, List.foldl_append]
  exact congrArg (fun names => put _ names.reverse root) (turn_of_enters h.enters _)

/-- A file that stands there is read. -/
theorem read (h : LeadsToFile root working path names name place) {content : ByteArray}
    (hfile : Members.get? name place.node.entries = some (.file content)) :
    Tree.read root working path = .ok content := by
  obtain ⟨steps, hsteps, hwalk, -⟩ := h.walk
  have hstep : step place name = .ok ⟨.file content, place.node :: place.above⟩ :=
    step_eq_ok_iff.mpr ⟨h.directory, .down h.enters hfile⟩
  have hfound : find root working path = .ok ⟨.file content, place.node :: place.above⟩ := by
    unfold find
    rw [h.checked, hsteps, List.foldlM_append, hwalk]
    refine Fallible.bind_eq_ok_iff.mpr ⟨(), rfl, Fallible.bind_eq_ok_iff.mpr ⟨place, rfl, ?_⟩⟩
    rw [List.foldlM_cons, hstep]
    rfl
  unfold Tree.read
  rw [hfound]
  rfl

/-- After writing the path leads to the same place, and the file there has the content. -/
theorem exists_after_write (h : LeadsToFile root working path names name place)
    (content : ByteArray) :
    ∃ after, LeadsToFile (write working path content root) working path names name after ∧
      Members.get? name after.node.entries = some (.file content) := by
  -- only a file is replaced, so every directory is still there
  have hkeeps : Keeps root (write working path content root) := by
    intro others found hfound
    rw [h.write_eq]
    refine exists_directory_put (fun inner hinner => h.free inner ?_) hfound
    rw [← h.stands.nodeAt?_cons, hinner]
  have hthere : (write working path content root).nodeAt? (name :: names).reverse
      = some (.file content) := by
    rw [h.write_eq]
    exact nodeAt?_put _ _ root
  obtain ⟨steps, hsteps, hwalk, rfl⟩ := h.walk
  -- hence the walk can be repeated, and its last step finds the content
  obtain ⟨after, hwalk', hstands, hstands'⟩ := exists_walk hkeeps .root .root hwalk h.directory
  have hfile : Members.get? name after.node.entries = some (.file content) := by
    rw [← hstands'.nodeAt?_cons, hthere]
  refine ⟨after, ?_, hfile⟩
  exact
    { checked := h.checked
      walk := ⟨steps, hsteps, hwalk', rfl⟩
      stands := hstands'
      directory := hstands.exists_directory hkeeps hstands' h.directory
      enters := h.enters
      free := fun inner hinner => by cases hfile.symm.trans hinner }

end LeadsToFile

/-- **What is written is read back**, and can be written to again. -/
theorem read_write (h : appendable root working path = .ok ()) (content : ByteArray) :
    read (write working path content root) working path = .ok content ∧
      appendable (write working path content root) working path = .ok () := by
  obtain ⟨names, name, place, hleads⟩ := appendable_eq_ok_iff.mp h
  obtain ⟨after, hafter, hfile⟩ := hleads.exists_after_write content
  exact ⟨hafter.read hfile, appendable_eq_ok_iff.mpr ⟨names, name, after, hafter⟩⟩

end

end RegistryGate.Storage.Tree
