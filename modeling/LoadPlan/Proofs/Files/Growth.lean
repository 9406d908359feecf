import LoadPlan.Proofs.Files.Saving
/-!
# How a file tree grows

No call takes anything away: directories stay, files stay files, and what has no good name is
never made. A tree that has come from another one in this way `Grows` out of it. Whether a save is
done can then no longer change: in every tree that grows out of the one it left, it is done or
fails as before, and makes no directory (`Grows.save_done`, `Grows.save_failed`).
-/

namespace LoadPlan

namespace FileTree

open LoadPlan.Path

variable {tree tree' made later : FileTree} {names place here : List String} {path : String}
  {content : ByteArray} {cs : List Component} {done : Bool}

/-! ## Which places accept a file -/

theorem accepts_eq_true_iff :
    tree.accepts names = true ↔ tree.find? names ≠ some .directory ∧
      (tree.find? names = none → isName (names.getLast?.getD "")) := by
  unfold accepts
  split <;> simp_all

/-- Where a file was accepted it is found. -/
theorem find?_set_of_accepts (h : tree.accepts names = true) (entry : Entry) :
    (tree.set names entry).find? names = some entry :=
  find?_set_self (accepts_eq_true_iff.1 h).1 entry

/-! ## Trees that grow -/

/-- **The tree has grown out of another one**: by new entries with good names, and by new contents
of files. -/
structure Grows (tree later : FileTree) : Prop where
  directories : KeepsDirectories tree later
  files : ∀ names content, tree.find? names = some (.file content) →
    ∃ content', later.find? names = some (.file content')
  nameless : ∀ names, tree.find? names = none → isName (names.getLast?.getD "") = false →
    later.find? names = none

namespace Grows

theorem refl (tree : FileTree) : Grows tree tree :=
  ⟨(Keeps.refl tree).directories, fun _ content h => ⟨content, h⟩, fun _ h _ => h⟩

theorem trans {last : FileTree} (h : Grows tree later) (h' : Grows later last) :
    Grows tree last where
  directories := h.directories.trans h'.directories
  files names content hf := by
    obtain ⟨content', hf'⟩ := h.files names content hf
    exact h'.files names content' hf'
  nameless names hn hname := h'.nameless names (h.nameless names hn hname) hname

end Grows

/-- An entry is added under a good name, or a file gets another content. -/
theorem grows_set {entry : Entry} (hdirectory : tree.find? names ≠ some .directory)
    (hfile : ∀ content, tree.find? names = some (.file content) →
      ∃ content', entry = .file content')
    (hname : tree.find? names = none → isName (names.getLast?.getD "")) :
    Grows tree (tree.set names entry) := by
  refine ⟨⟨rfl, fun names' h => ?_⟩, fun names' content h => ?_, fun names' h hbad => ?_⟩
  all_goals by_cases hne : names' = names
  · subst hne
    exact absurd h hdirectory
  · rwa [find?_set_of_ne hne]
  · subst hne
    obtain ⟨content', rfl⟩ := hfile content h
    exact ⟨content', find?_set_self hdirectory _⟩
  · exact ⟨content, by rwa [find?_set_of_ne hne]⟩
  · subst hne
    rw [hname h] at hbad
    cases hbad
  · rwa [find?_set_of_ne hne]

/-- A file is put where one is accepted. -/
theorem grows_set_file (h : tree.accepts names = true) (content : ByteArray) :
    Grows tree (tree.set names (.file content)) := by
  obtain ⟨hdirectory, hname⟩ := accepts_eq_true_iff.1 h
  exact grows_set hdirectory (fun _ _ => ⟨content, rfl⟩) hname

/-- Making a way adds directories. -/
theorem Way.grows (h : Way tree here cs made done) : Grows tree made := by
  induction h with
  | arrived | blocked | unnamed => exact .refl _
  | top _ ih | stay _ ih | up _ ih | pass _ _ ih => exact ih
  | make hnone hname _ ih =>
    refine Grows.trans (grows_set ?_ ?_ fun _ => ?_) ih
    · simp [hnone]
    · simp [hnone]
    · simpa using hname

/-! ## The two outcomes of a save -/

/-- **A save that is done** made its way and put the content where a file was accepted. -/
theorem put_of_save_done (h : tree.save path content = (tree', true)) :
    isPath (directory path) ∧
      ∃ made place, Way tree tree.workdir (components (directory path)) made true ∧
        place? tree.workdir path = some place ∧ made.accepts place = true ∧
        tree' = made.set place (.file content) := by
  cases hpath : isPath (directory path) with
  | false =>
    rw [save_of_not_isPath hpath] at h
    cases h
  | true =>
    obtain ⟨made, done, hway⟩ := exists_way tree tree.workdir (components (directory path))
    rw [save_of_way hpath hway] at h
    cases done with
    | false => cases h
    | true =>
      rw [if_pos rfl] at h
      unfold put at h
      split at h
      · next place hplace =>
        split at h
        · next haccepts =>
          cases h
          exact ⟨rfl, made, place, hway, hplace, haccepts, rfl⟩
        · cases h
      · cases h

/-- **A save that fails** does so before the way is begun, on the way, or at its end, where no file
is accepted. -/
theorem cases_of_save_failed (h : tree.save path content = (tree', false)) :
    (isPath (directory path) = false ∧ tree' = tree) ∨
    isPath (directory path) ∧
      ∃ done, Way tree tree.workdir (components (directory path)) tree' done ∧
        (done = true → ∀ place, place? tree.workdir path = some place →
          tree'.accepts place = false) := by
  cases hpath : isPath (directory path) with
  | false =>
    rw [save_of_not_isPath hpath] at h
    cases h
    exact .inl ⟨rfl, rfl⟩
  | true =>
    obtain ⟨made, done, hway⟩ := exists_way tree tree.workdir (components (directory path))
    rw [save_of_way hpath hway] at h
    refine .inr ⟨rfl, done, ?_⟩
    cases done with
    | false =>
      cases h
      exact ⟨hway, fun hdone => by cases hdone⟩
    | true =>
      rw [if_pos rfl] at h
      unfold put at h
      split at h
      · next place hplace =>
        split at h
        · cases h
        · next haccepts =>
          cases h
          refine ⟨hway, fun _ place' hplace' => ?_⟩
          obtain rfl := Option.some.inj (hplace.symm.trans hplace')
          exact Bool.eq_false_iff.2 haccepts
      · next hplace =>
        cases h
        exact ⟨hway, fun _ place' hplace' => absurd (hplace.symm.trans hplace') (by simp)⟩

/-- **A save lets the tree grow.** -/
theorem grows_save (tree : FileTree) (path : String) (content : ByteArray) :
    Grows tree (tree.save path content).1 := by
  rcases hsave : tree.save path content with ⟨tree', _ | _⟩
  · obtain ⟨-, rfl⟩ | ⟨-, done, hway, -⟩ := cases_of_save_failed hsave
    · exact .refl tree'
    · exact hway.grows
  · obtain ⟨-, made, place, hway, -, haccepts, rfl⟩ := put_of_save_done hsave
    exact hway.grows.trans (grows_set_file haccepts content)

/-! ## Saving again -/

/-- **A way is made once**: after that it is there, or ends where it ended. -/
theorem Way.again (h : Way tree here cs made done) (hg : Grows made later) :
    Way later here cs later done := by
  induction h with
  | arrived => exact .arrived
  | top _ ih => exact .top (ih hg)
  | stay _ ih => exact .stay (ih hg)
  | up _ ih => exact .up (ih hg)
  | pass hfound hway ih =>
    exact .pass (hg.directories.kept _ (hway.keeps.kept _ _ hfound)) (ih hg)
  | make _ _ hway ih => exact .pass (hg.directories.kept _ hway.find?_made) (ih hg)
  | blocked hfound =>
    obtain ⟨content, hfile⟩ := hg.files _ _ hfound
    exact .blocked hfile
  | unnamed hnone hname => exact .unnamed (hg.nameless _ hnone (by simpa using hname)) hname

/-- A save that finds its way made already puts its file in the same place. -/
theorem Way.save_again (h : Way tree tree.workdir (components (directory path)) made done)
    (hg : Grows made later) (hpath : isPath (directory path) = true) (content : ByteArray) :
    later.save path content =
      if done then later.put (place? tree.workdir path) content else (later, false) := by
  have hway := h.again hg
  have hworkdir : later.workdir = tree.workdir := hg.directories.workdir.trans h.keeps.workdir
  rw [← hworkdir] at hway ⊢
  exact save_of_way hpath hway content

namespace Grows

/-- What was refused stays refused. -/
theorem accepts_eq_false (hg : Grows tree later) (h : tree.accepts names = false) :
    later.accepts names = false := by
  unfold accepts at h ⊢
  split at h
  · next hd => simp [hg.directories.kept _ hd]
  · cases h
  · next hn => simp [hg.nameless _ hn h, h]

/-- A file can be replaced. -/
theorem accepts_of_file (hg : Grows tree later) (h : tree.find? names = some (.file content)) :
    later.accepts names = true := by
  obtain ⟨content', hfile⟩ := hg.files _ _ h
  simp [accepts, hfile]

/-- **A save that failed fails again** and changes nothing. -/
theorem save_failed (hg : Grows tree' later) (h : tree.save path content = (tree', false))
    (content' : ByteArray) : later.save path content' = (later, false) := by
  obtain ⟨hpath, -⟩ | ⟨hpath, done, hway, hrefused⟩ := cases_of_save_failed h
  · exact save_of_not_isPath hpath later content'
  · rw [hway.save_again hg hpath]
    cases done with
    | false => rfl
    | true =>
      rw [if_pos rfl]
      unfold put
      split
      · next place hplace =>
        have hrefused' := hg.accepts_eq_false (hrefused rfl place hplace)
        simp [hrefused']
      · rfl

/-- **A save that was done is done again**, in the place where it has left a file. -/
theorem save_done (hg : Grows tree' later) (h : tree.save path content = (tree', true)) :
    ∃ place, place? tree.workdir path = some place ∧
      tree'.find? place = some (.file content) ∧
      ∀ content', later.save path content' = (later.set place (.file content'), true) := by
  obtain ⟨hpath, made, place, hway, hplace, haccepts, rfl⟩ := put_of_save_done h
  have hfile : (made.set place (.file content)).find? place = some (.file content) :=
    find?_set_of_accepts haccepts _
  have hgrown : Grows made later := (grows_set_file haccepts content).trans hg
  refine ⟨place, hplace, hfile, fun content' => ?_⟩
  have haccepts' : later.accepts place = true := hg.accepts_of_file hfile
  rw [hway.save_again hgrown hpath, if_pos rfl, hplace, put, if_pos haccepts']

end Grows

end FileTree

end LoadPlan
