import LoadPlan.Proofs.Files.Steps
/-!
# What saving a file leaves alone

A call adds to a tree and replaces at most the file it is for. A save that fails keeps every
entry (`keeps_of_save_failed`); one that succeeds replaces the file under one name, which is then
the place of its path (`exists_place_of_save_done`). So a file that was read before is read as
before, unless a path to the same place is saved.
-/

namespace LoadPlan

namespace FileTree

variable {tree tree' : FileTree}

/-! ## One entry -/

@[simp] theorem workdir_set (names : List String) (entry : Entry) :
    (tree.set names entry).workdir = tree.workdir := rfl

theorem find?_set_of_ne {names names' : List String} (h : names' ≠ names) (entry : Entry) :
    (tree.set names entry).find? names' = tree.find? names' := by
  by_cases hthere : names'.isPrefixOf tree.workdir
  · simp [find?, hthere]
  · have hother : ∀ e : List String × Entry,
        (!decide (e.1 = names) && decide (e.1 = names')) = decide (e.1 = names') := by grind
    simp [find?, set, hthere, Ne.symm h, List.find?_filter, hother]

/-- An entry is found again, unless the names were those of a directory. -/
theorem find?_set_self {names : List String} (h : tree.find? names ≠ some .directory)
    (entry : Entry) : (tree.set names entry).find? names = some entry := by
  by_cases hthere : names.isPrefixOf tree.workdir
  · simp [find?, hthere] at h
  · simp [find?, set, hthere]

/-- A directory is found again in any case. -/
theorem find?_set_directory (names : List String) :
    (tree.set names .directory).find? names = some .directory := by
  by_cases hthere : names.isPrefixOf tree.workdir
  · simp [find?, hthere]
  · simp [find?, set, hthere]

theorem isDirectory_iff {names : List String} :
    tree.isDirectory names ↔ tree.find? names = some .directory := by
  unfold isDirectory
  split <;> simp_all

/-! ## Trees that keep what is there -/

/-- Every directory is still there, and the working directory is the same. -/
structure KeepsDirectories (tree tree' : FileTree) : Prop where
  workdir : tree'.workdir = tree.workdir
  kept : ∀ names, tree.find? names = some .directory → tree'.find? names = some .directory

theorem KeepsDirectories.trans {tree'' : FileTree} (h : KeepsDirectories tree tree')
    (h' : KeepsDirectories tree' tree'') : KeepsDirectories tree tree'' :=
  ⟨h'.workdir.trans h.workdir, fun names hd => h'.kept names (h.kept names hd)⟩

/-- **Every entry is still there**, and the same. -/
structure Keeps (tree tree' : FileTree) : Prop where
  workdir : tree'.workdir = tree.workdir
  kept : ∀ names entry, tree.find? names = some entry → tree'.find? names = some entry

theorem Keeps.refl (tree : FileTree) : Keeps tree tree := ⟨rfl, fun _ _ h => h⟩

theorem Keeps.trans {tree'' : FileTree} (h : Keeps tree tree') (h' : Keeps tree' tree'') :
    Keeps tree tree'' :=
  ⟨h'.workdir.trans h.workdir, fun names entry he => h'.kept names entry (h.kept names entry he)⟩

theorem Keeps.directories (h : Keeps tree tree') : KeepsDirectories tree tree' :=
  ⟨h.workdir, fun names hd => h.kept names .directory hd⟩

/-- A new entry keeps the others. -/
theorem keeps_set {names : List String} (h : tree.find? names = none) (entry : Entry) :
    Keeps tree (tree.set names entry) := by
  refine ⟨rfl, fun names' entry' h' => ?_⟩
  have hne : names' ≠ names := by
    rintro rfl
    rw [h] at h'
    cases h'
  rwa [find?_set_of_ne hne]

/-- Where steps have led, they lead as long as the directories are kept. -/
theorem KeepsDirectories.walk (h : KeepsDirectories tree tree') {here there : List String}
    {steps : List Path.Component} (hwalk : tree.walk here steps = some there) :
    tree'.walk here steps = some there := by
  induction steps generalizing here with
  | nil => exact hwalk
  | cons c steps ih =>
    cases c with
    | root | current | parent => exact ih hwalk
    | name s =>
      by_cases hs : tree.isDirectory (here ++ [s])
      · have hs' : tree'.isDirectory (here ++ [s]) :=
          isDirectory_iff.2 (h.kept _ (isDirectory_iff.1 hs))
        simp only [FileTree.walk, hs, hs', if_true] at hwalk ⊢
        exact ih hwalk
      · simp [FileTree.walk, hs] at hwalk

/-- The place of a path stays its place. -/
theorem KeepsDirectories.locate? (h : KeepsDirectories tree tree') {path : String}
    {place : List String} (hplace : tree.locate? path = some place) :
    tree'.locate? path = some place := by
  unfold FileTree.locate? at hplace ⊢
  split at hplace
  · cases hplace
  · next hpath =>
    rw [if_neg hpath]
    dsimp only at hplace ⊢
    split at hplace
    · next s hs =>
      obtain ⟨here, hwalk, rfl⟩ := Option.map_eq_some_iff.1 hplace
      simp only [h.workdir, h.walk hwalk, Option.map_some]
    · cases hplace

/-! ## Reading -/

theorem read?_eq_some_iff {path : String} {content : ByteArray} :
    tree.read? path = some content ↔
      ∃ place, tree.locate? path = some place ∧ tree.find? place = some (.file content) := by
  unfold read?
  constructor
  · intro h
    split at h
    · next found hfound =>
      cases h
      exact Option.bind_eq_some_iff.1 hfound
    · cases h
  · rintro ⟨place, hplace, hfile⟩
    simp only [hplace, Option.bind_some, hfile]

/-- What was read is read again from a tree that keeps it. -/
theorem Keeps.read? (h : Keeps tree tree') {path : String} {content : ByteArray}
    (hread : tree.read? path = some content) : tree'.read? path = some content := by
  obtain ⟨place, hplace, hfile⟩ := read?_eq_some_iff.1 hread
  exact read?_eq_some_iff.2 ⟨place, h.directories.locate? hplace, h.kept _ _ hfile⟩

/-! ## Writing and saving -/

theorem keeps_makeWay (tree : FileTree) (here : List String) (steps : List Path.Component) :
    Keeps tree (tree.makeWay here steps).1 := by
  induction steps generalizing tree here with
  | nil => exact .refl tree
  | cons c steps ih =>
    cases c with
    | root => exact ih tree []
    | current => exact ih tree here
    | parent => exact ih tree here.dropLast
    | name s =>
      rw [makeWay]
      split
      · exact ih tree (here ++ [s])
      · exact .refl tree
      · next hnone =>
        split
        · exact (keeps_set hnone .directory).trans (ih _ (here ++ [s]))
        · exact .refl tree

/-- A file is written in its place, where no directory is, or not at all. -/
theorem write_cases (tree : FileTree) (path : String) (content : ByteArray) :
    tree.write path content = (tree, false) ∨
      ∃ place, tree.locate? path = some place ∧ tree.find? place ≠ some .directory ∧
        tree.write path content = (tree.set place (.file content), true) := by
  unfold write
  split
  · exact .inl rfl
  · next place hplace =>
    split
    · exact .inl rfl
    · next hfile => exact .inr ⟨place, hplace, by simp [hfile], rfl⟩
    · next hnone =>
      split
      · exact .inr ⟨place, hplace, by simp [hnone], rfl⟩
      · exact .inl rfl

/-- **A save that fails keeps every entry.** -/
theorem keeps_of_save_failed {path : String} {content : ByteArray}
    (h : tree.save path content = (tree', false)) : Keeps tree tree' := by
  have hway := keeps_makeWay tree tree.workdir (Path.components (Path.directory path))
  unfold save at h
  dsimp only at h
  split at h
  · split at h
    · next made hmade =>
      rw [hmade] at hway
      obtain hfailed | ⟨place, -, -, hdone⟩ := write_cases made path content
      · rw [hfailed] at h
        cases h
        exact hway
      · rw [hdone] at h
        cases h
    · next made hmade =>
      cases h
      rwa [hmade] at hway
  · cases h
    exact .refl tree

/-- **A save that succeeds puts the content in the place of the path**, where no directory was, and
adds nothing but directories. -/
theorem exists_place_of_save_done {path : String} {content : ByteArray}
    (h : tree.save path content = (tree', true)) :
    ∃ made place, Keeps tree made ∧ made.locate? path = some place ∧
      made.find? place ≠ some .directory ∧ tree' = made.set place (.file content) := by
  have hway := keeps_makeWay tree tree.workdir (Path.components (Path.directory path))
  unfold save at h
  dsimp only at h
  split at h
  · split at h
    · next made hmade =>
      rw [hmade] at hway
      obtain hfailed | ⟨place, hplace, hfree, hdone⟩ := write_cases made path content
      · rw [hfailed] at h
        cases h
      · rw [hdone] at h
        cases h
        exact ⟨made, place, hway, hplace, hfree, rfl⟩
    · cases h
  · cases h

/-- A file put where no directory was keeps the directories. -/
theorem keepsDirectories_set {place : List String} (h : tree.find? place ≠ some .directory)
    (content : ByteArray) : KeepsDirectories tree (tree.set place (.file content)) := by
  refine ⟨rfl, fun names hnames => ?_⟩
  have hne : names ≠ place := by
    rintro rfl
    exact h hnames
  rwa [find?_set_of_ne hne]

/-- What is saved is read. -/
theorem read?_of_save_done {path : String} {content : ByteArray}
    (h : tree.save path content = (tree', true)) : tree'.read? path = some content := by
  obtain ⟨made, place, -, hplace, hfree, rfl⟩ := exists_place_of_save_done h
  exact read?_eq_some_iff.2 ⟨place, (keepsDirectories_set hfree content).locate? hplace,
    find?_set_self hfree _⟩

/-- Whether a file can be saved does not depend on what is saved. -/
theorem save_done_congr (tree : FileTree) (path : String) (content content' : ByteArray) :
    (tree.save path content).2 = (tree.save path content').2 := by
  unfold save write
  dsimp only
  repeat' split
  all_goals rfl

/-! ## Two files in one directory -/

variable {dir file file' : String}

/-- Files in one directory share their place if and only if their names have the same
components. -/
theorem locate?_join_eq_iff (hfile : Path.isContained file) (hfile' : Path.isContained file')
    {place place' : List String} (hplace : tree.locate? (Path.join dir file) = some place)
    (hplace' : tree.locate? (Path.join dir file') = some place') :
    place = place' ↔ Path.components file = Path.components file' := by
  obtain ⟨ns, -, -, hns, -⟩ := Path.exists_names_of_isContained hfile
  obtain ⟨ns', -, -, hns', -⟩ := Path.exists_names_of_isContained hfile'
  obtain ⟨here, hwalk, rfl⟩ := exists_walk_of_locate?_join hfile hns hplace
  obtain ⟨here', hwalk', rfl⟩ := exists_walk_of_locate?_join hfile' hns' hplace'
  rw [hwalk] at hwalk'
  cases hwalk'
  rw [List.append_cancel_left_eq, hns, hns']
  exact (List.map_injective_iff.2 fun a b hab => by cases hab; rfl).eq_iff.symm

/-- **A save leaves a file alone whose name has other components.** -/
theorem read?_join_of_save_done (hfile : Path.isContained file)
    (hfile' : Path.isContained file') (hne : Path.components file ≠ Path.components file')
    {content content' : ByteArray} (hread : tree.read? (Path.join dir file) = some content)
    (h : tree.save (Path.join dir file') content' = (tree', true)) :
    tree'.read? (Path.join dir file) = some content := by
  obtain ⟨made, place', hkeeps, hplace', hfree, rfl⟩ := exists_place_of_save_done h
  obtain ⟨place, hplace, hfound⟩ := read?_eq_some_iff.1 (hkeeps.read? hread)
  have hplaces : place ≠ place' := fun heq =>
    hne ((locate?_join_eq_iff hfile hfile' hplace hplace').1 heq)
  exact read?_eq_some_iff.2 ⟨place, (keepsDirectories_set hfree content').locate? hplace,
    by rwa [find?_set_of_ne hplaces]⟩

/-- **A save replaces the file whose name has the same components**, however it is spelled. -/
theorem read?_join_of_save_same (hfile : Path.isContained file)
    (hfile' : Path.isContained file') (heq : Path.components file = Path.components file')
    {content content' : ByteArray} (hread : tree.read? (Path.join dir file) = some content)
    (h : tree.save (Path.join dir file') content' = (tree', true)) :
    tree'.read? (Path.join dir file) = some content' := by
  obtain ⟨made, place', hkeeps, hplace', hfree, rfl⟩ := exists_place_of_save_done h
  obtain ⟨place, hplace, -⟩ := read?_eq_some_iff.1 (hkeeps.read? hread)
  obtain rfl := (locate?_join_eq_iff hfile hfile' hplace hplace').2 heq
  exact read?_eq_some_iff.2 ⟨place, (keepsDirectories_set hfree content').locate? hplace,
    find?_set_self hfree _⟩

/-- **Files whose names have the same components are one file.** -/
theorem read?_join_congr (hfile : Path.isContained file) (hfile' : Path.isContained file')
    (heq : Path.components file = Path.components file') {content content' : ByteArray}
    (hread : tree.read? (Path.join dir file) = some content)
    (hread' : tree.read? (Path.join dir file') = some content') : content = content' := by
  obtain ⟨place, hplace, hfound⟩ := read?_eq_some_iff.1 hread
  obtain ⟨place', hplace', hfound'⟩ := read?_eq_some_iff.1 hread'
  obtain rfl := (locate?_join_eq_iff hfile hfile' hplace hplace').2 heq
  rw [hfound] at hfound'
  cases hfound'
  rfl

end FileTree

end LoadPlan
