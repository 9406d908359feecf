import LoadPlan.Proofs.Files.Growth
/-!
# Directories that are left over

A save that fails may have made directories, and these stay. Such a tree is compared with the one
without them: `Littered litter tree wide` says that `wide` has the entries of `tree`, and in the
places of the litter directories that `tree` may lack. A save in both trees finds the same way and
the same place, so it has the same outcome, unless the place of its file is a piece of litter
(`Littered.save_cases`).
-/

namespace LoadPlan

namespace FileTree

open LoadPlan.Path

variable {tree tree' wide made : FileTree} {names here : List String} {path : String}
  {content : ByteArray} {cs : List Component} {done : Bool}

/-! ## What making a way makes -/

theorem arrive_append (here : List String) (a b : List Component) :
    arrive here (a ++ b) = arrive (arrive here a) b := by
  induction a generalizing here with
  | nil => rfl
  | cons c a ih => cases c <;> exact ih _

/-- Names lead down. -/
theorem arrive_names (here ns : List String) : arrive here (ns.map .name) = here ++ ns := by
  induction ns generalizing here with
  | nil => simp [arrive]
  | cons s ns ih => simp [arrive, ih]

/-- **A new entry on a way is a directory** under one of the names on it. -/
theorem Way.exists_step (h : Way tree here cs made done) {entry : Entry}
    (hnone : tree.find? names = none) (hfound : made.find? names = some entry) :
    entry = .directory ∧ ∃ before s after, cs = before ++ .name s :: after ∧
      names = arrive here before ++ [s] ∧ isName s := by
  induction h with
  | arrived | blocked | unnamed => simp [hnone] at hfound
  | top _ ih =>
    obtain ⟨hentry, before, s, after, rfl, hnames⟩ := ih hnone hfound
    exact ⟨hentry, .root :: before, s, after, rfl, hnames⟩
  | stay _ ih =>
    obtain ⟨hentry, before, s, after, rfl, hnames⟩ := ih hnone hfound
    exact ⟨hentry, .current :: before, s, after, rfl, hnames⟩
  | up _ ih =>
    obtain ⟨hentry, before, s, after, rfl, hnames⟩ := ih hnone hfound
    exact ⟨hentry, .parent :: before, s, after, rfl, hnames⟩
  | @pass _ _ _ t _ _ _ _ ih =>
    obtain ⟨hentry, before, s, after, rfl, hnames⟩ := ih hnone hfound
    exact ⟨hentry, .name t :: before, s, after, rfl, hnames⟩
  | @make tree _ here t rest _ _ hname hway ih =>
    by_cases hnew : names = here ++ [t]
    · subst hnew
      obtain rfl := Option.some.inj (hway.find?_made.symm.trans hfound)
      exact ⟨rfl, [], t, rest, rfl, rfl, hname⟩
    · obtain ⟨hentry, before, s, after, rfl, hnames⟩ := ih (by rwa [find?_set_of_ne hnew]) hfound
      exact ⟨hentry, .name t :: before, s, after, rfl, hnames⟩

/-- On the way of a path it lies on the steps before the last one. -/
theorem Way.exists_step_of_path (h : Way tree tree.workdir (components (directory path)) made done)
    {entry : Entry} (hnone : tree.find? names = none) (hfound : made.find? names = some entry) :
    entry = .directory ∧ ∃ before s after, (steps path).dropLast = before ++ .name s :: after ∧
      names = arrive (start tree.workdir path) before ++ [s] := by
  obtain ⟨hentry, before, s, after, hsteps, hnames, -⟩ := h.along.exists_step hnone hfound
  rw [steps_directory] at hsteps
  rw [start_directory] at hnames
  exact ⟨hentry, before, s, after, hsteps, hnames⟩

/-! ## A tree with litter -/

/-- **The second tree is the first one with litter in it**: directories that the first one may
lack. -/
structure Littered (litter : List String → Prop) (tree wide : FileTree) : Prop where
  workdir : wide.workdir = tree.workdir
  there : ∀ names, litter names → wide.find? names = some .directory
  lacking : ∀ names, litter names →
    tree.find? names = none ∨ tree.find? names = some .directory
  others : ∀ names, ¬ litter names → wide.find? names = tree.find? names

/-- Litter has good names. -/
def Named (litter : List String → Prop) : Prop :=
  ∀ names, litter names → isName (names.getLast?.getD "")

/-- What one call has left over: the directories that were not there before. -/
def leftover (tree made : FileTree) (names : List String) : Prop :=
  tree.find? names = none ∧ made.find? names = some .directory

/-- If nothing has changed, there is nothing left over. -/
theorem not_leftover_self (tree : FileTree) (names : List String) :
    ¬ leftover tree tree names := by
  rintro ⟨hnone, hfound⟩
  rw [hnone] at hfound
  cases hfound

/-- **A new entry of a save** is its file, or was made on the way. -/
theorem cases_of_new (h : tree.save path content = (tree', done)) {entry : Entry}
    (hnone : tree.find? names = none) (hfound : tree'.find? names = some entry) :
    (done = true ∧ entry = .file content) ∨
      ∃ made done', Way tree tree.workdir (components (directory path)) made done' ∧
        made.find? names = some entry := by
  cases done with
  | false =>
    obtain ⟨-, rfl⟩ | ⟨-, done, hway, -⟩ := cases_of_save_failed h
    · simp [hnone] at hfound
    · exact .inr ⟨_, done, hway, hfound⟩
  | true =>
    obtain ⟨-, made, place, hway, -, haccepts, rfl⟩ := put_of_save_done h
    by_cases hplace : names = place
    · rw [hplace, find?_set_of_accepts haccepts] at hfound
      exact .inl ⟨rfl, (Option.some.inj hfound).symm⟩
    · rw [find?_set_of_ne hplace] at hfound
      exact .inr ⟨made, true, hway, hfound⟩

/-- A failed save adds nothing but directories with good names. -/
theorem directory_of_save_failed (h : tree.save path content = (tree', false)) {entry : Entry}
    (hnone : tree.find? names = none) (hfound : tree'.find? names = some entry) :
    entry = .directory ∧ isName (names.getLast?.getD "") := by
  obtain ⟨hdone, -⟩ | ⟨made, done, hway, hmade⟩ := cases_of_new h hnone hfound
  · cases hdone
  · obtain ⟨hentry, before, s, after, -, rfl, hname⟩ := hway.exists_step hnone hmade
    exact ⟨hentry, by simpa using hname⟩

/-- **A failed save leaves litter behind, if anything.** -/
theorem littered_of_save_failed (h : tree.save path content = (tree', false)) :
    Littered (leftover tree tree') tree tree' ∧ Named (leftover tree tree') := by
  have hkeeps := keeps_of_save_failed h
  refine ⟨⟨hkeeps.workdir, fun names hmem => hmem.2, fun names hmem => .inl hmem.1,
    fun names hclean => ?_⟩, fun names hmem => (directory_of_save_failed h hmem.1 hmem.2).2⟩
  cases hnone : tree.find? names with
  | some entry => exact hkeeps.kept _ _ hnone
  | none =>
    cases hfound : tree'.find? names with
    | none => rfl
    | some entry =>
      obtain ⟨rfl, -⟩ := directory_of_save_failed h hnone hfound
      exact absurd ⟨hnone, hfound⟩ hclean

/-- What a save leaves over lies on the steps before the last one of its path. -/
theorem exists_step_of_leftover (h : tree.save path content = (tree', done))
    (hleft : leftover tree tree' names) :
    ∃ before s after, (steps path).dropLast = before ++ .name s :: after ∧
      names = arrive (start tree.workdir path) before ++ [s] := by
  obtain ⟨-, hfile⟩ | ⟨made, done, hway, hmade⟩ := cases_of_new h hleft.1 hleft.2
  · cases hfile
  · exact (hway.exists_step_of_path hleft.1 hmade).2

/-- Every name that a walk passes is a directory. -/
theorem find?_of_walk {here there : List String} {before after : List Component} {s : String}
    (h : tree.walk here (before ++ .name s :: after) = some there) :
    tree.find? (arrive here before ++ [s]) = some .directory := by
  rw [walk_append] at h
  obtain ⟨mid, hmid, hrest⟩ := Option.bind_eq_some_iff.1 h
  obtain rfl := eq_arrive_of_walk hmid
  rw [walk] at hrest
  split at hrest
  · next hdirectory => exact isDirectory_iff.1 hdirectory
  · cases hrest

/-- **If a file takes the place of a step on the way to another one of its directory**, the steps to
it are the first ones to that one. -/
theorem prefix_of_step {dir file file' : String} (hfile : isContained file)
    (hfile' : isContained file') {before after : List Component} {s : String}
    (hway : (steps (join dir file)).dropLast = before ++ .name s :: after)
    (hread : tree.read? (join dir file') = some content)
    (hplace : place? tree.workdir (join dir file') =
      some (arrive (start tree.workdir (join dir file)) before ++ [s])) :
    components file' <+: (components file).dropLast := by
  obtain ⟨ns, hne, hroot, hcomponents, hsteps⟩ := exists_names_of_isContained hfile
  obtain ⟨ns', -, -, hcomponents', -⟩ := exists_names_of_isContained hfile'
  obtain ⟨place, hlocate, hfound⟩ := read?_eq_some_iff.1 hread
  obtain rfl := Option.some.inj ((place?_of_locate? hlocate).symm.trans hplace)
  obtain ⟨here, hwalk, hnames⟩ := exists_walk_of_locate?_join hfile' hcomponents' hlocate
  obtain rfl := eq_arrive_of_walk hwalk
  rw [start_join hroot] at hfound hnames
  rw [steps_join hroot, hsteps, List.dropLast_append_of_ne_nil (by simpa using hne)] at hway
  -- behind the directory of both files
  have hbehind : ∀ more, before = steps dir ++ more →
      (ns.map Component.name).dropLast = more ++ .name s :: after →
      components file' <+: (components file).dropLast := by
    rintro more rfl hrest
    rw [← List.map_dropLast] at hrest
    obtain ⟨ms, rest, hns, rfl, hrest'⟩ := List.map_eq_append_iff.1 hrest
    obtain ⟨t, ms', rfl, hs, -⟩ := List.map_eq_cons_iff.1 hrest'
    cases hs
    rw [arrive_append, arrive_names, List.append_assoc, List.append_cancel_left_eq] at hnames
    rw [hcomponents', ← hnames, hcomponents, ← List.map_dropLast, hns]
    exact ⟨ms'.map .name, by simp⟩
  obtain ⟨more, hmore, hrest⟩ | ⟨more, hmore, hrest⟩ := List.append_eq_append_iff.1 hway
  · exact hbehind more hmore hrest
  · cases more with
    | nil => exact hbehind [] (by simpa using hmore.symm) (by simpa using hrest.symm)
    | cons c more =>
      -- on the way to the directory of both files, where it would be one itself
      obtain ⟨rfl, -⟩ := List.cons.inj hrest
      rw [hmore] at hwalk
      rw [find?_of_walk hwalk] at hfound
      cases hfound

namespace Littered

variable {litter : List String → Prop}

/-- Without litter there is no difference. -/
theorem refl (hclean : ∀ names, ¬ litter names) (tree : FileTree) : Littered litter tree tree :=
  ⟨rfl, fun names hmem => absurd hmem (hclean names),
    fun names hmem => absurd hmem (hclean names), fun _ _ => rfl⟩

/-- Every entry is there in spite of the litter. -/
theorem keeps (h : Littered litter tree wide) : Keeps tree wide := by
  refine ⟨h.workdir, fun names entry hfound => ?_⟩
  by_cases hmem : litter names
  · rw [h.there names hmem, ← hfound]
    obtain hnone | hdirectory := h.lacking names hmem
    · rw [hnone] at hfound
      cases hfound
    · exact hdirectory.symm
  · rwa [h.others names hmem]

/-- The same entry is put into both trees, where there is no litter. -/
theorem set (h : Littered litter tree wide) (hfree : tree.find? names ≠ some .directory)
    (hclean : ¬ litter names) (entry : Entry) : Littered litter (tree.set names entry) (wide.set names entry) := by
  have hne : ∀ names', litter names' → names' ≠ names := by
    rintro names' hmem rfl
    exact hclean hmem
  refine ⟨h.workdir, fun names' hmem => ?_, fun names' hmem => ?_, fun names' hmem => ?_⟩
  · rw [find?_set_of_ne (hne _ hmem), h.there _ hmem]
  · rw [find?_set_of_ne (hne _ hmem)]
    exact h.lacking _ hmem
  · by_cases heq : names' = names
    · subst heq
      have hfree' := (h.others _ hmem).trans_ne hfree
      rw [find?_set_self hfree, find?_set_self hfree']
    · rw [find?_set_of_ne heq, find?_set_of_ne heq, h.others _ hmem]

/-- A piece of litter becomes a directory of the first tree too. -/
theorem set_left (h : Littered litter tree wide) (hmem : litter names) :
    Littered litter (tree.set names .directory) wide := by
  refine ⟨h.workdir, h.there, fun names' hmem' => ?_, fun names' hmem' => ?_⟩
  · by_cases heq : names' = names
    · subst heq
      exact .inr (find?_set_directory _)
    · rw [find?_set_of_ne heq]
      exact h.lacking _ hmem'
  · have hne : names' ≠ names := by
      rintro rfl
      exact hmem' hmem
    rw [find?_set_of_ne hne, h.others _ hmem']

/-- **The way is the same in both trees.** -/
theorem exists_way (hway : Way tree here cs tree' done) (h : Littered litter tree wide)
    (hlitter : Named litter) :
    ∃ wide', Way wide here cs wide' done ∧ Littered litter tree' wide' := by
  induction hway generalizing wide with
  | arrived => exact ⟨wide, .arrived, h⟩
  | top _ ih =>
    obtain ⟨wide', hwide, h'⟩ := ih h
    exact ⟨wide', .top hwide, h'⟩
  | stay _ ih =>
    obtain ⟨wide', hwide, h'⟩ := ih h
    exact ⟨wide', .stay hwide, h'⟩
  | up _ ih =>
    obtain ⟨wide', hwide, h'⟩ := ih h
    exact ⟨wide', .up hwide, h'⟩
  | pass hfound _ ih =>
    obtain ⟨wide', hwide, h'⟩ := ih h
    exact ⟨wide', .pass (h.keeps.kept _ _ hfound) hwide, h'⟩
  | @make tree _ here s _ _ hnone hname _ ih =>
    by_cases hmem : litter (here ++ [s])
    · -- the directory is made in the first tree only
      obtain ⟨wide', hwide, h'⟩ := ih (h.set_left hmem)
      exact ⟨wide', .pass (h.there _ hmem) hwide, h'⟩
    · obtain ⟨wide', hwide, h'⟩ := ih (h.set (by simp [hnone]) hmem .directory)
      exact ⟨wide', .make ((h.others _ hmem).trans hnone) hname hwide, h'⟩
  | blocked hfound => exact ⟨wide, .blocked (h.keeps.kept _ _ hfound), h⟩
  | @unnamed _ here s _ hnone hname =>
    have hclean : ¬ litter (here ++ [s]) := by
      intro hmem
      have hgood : isName s = true := by simpa using hlitter _ hmem
      rw [hgood] at hname
      cases hname
    exact ⟨wide, .unnamed ((h.others _ hclean).trans hnone) hname, h⟩

/-- A file is put in its place in both trees or in neither, unless the first tree lacks the litter
in that place. -/
theorem put_cases (h : Littered litter tree wide) (hlitter : Named litter) (place : List String)
    (content : ByteArray) :
    (∃ tree' wide' done, tree.put (some place) content = (tree', done) ∧
      wide.put (some place) content = (wide', done) ∧ Littered litter tree' wide') ∨
    litter place ∧ (tree.put (some place) content).2 = true := by
  by_cases hmem : litter place
  · have hwide : wide.accepts place = false := by simp [accepts, h.there _ hmem]
    obtain hnone | hdirectory := h.lacking _ hmem
    · have htree : tree.accepts place = true := by simp [accepts, hnone, hlitter _ hmem]
      exact .inr ⟨hmem, by simp [put, htree]⟩
    · have htree : tree.accepts place = false := by simp [accepts, hdirectory]
      exact .inl ⟨tree, wide, false, by simp [put, htree], by simp [put, hwide], h⟩
  · have haccepts : wide.accepts place = tree.accepts place := by
      simp only [accepts, h.others _ hmem]
    left
    simp only [put, haccepts]
    split
    · next hyes =>
      exact ⟨_, _, true, rfl, rfl,
        h.set (accepts_eq_true_iff.1 hyes).1 hmem (.file content)⟩
    · exact ⟨tree, wide, false, rfl, rfl, h⟩

/-- **A save has the same outcome in both trees**, unless it is done in the first one and its file
takes the place of a piece of litter. -/
theorem save_cases (h : Littered litter tree wide) (hlitter : Named litter) (path : String)
    (content : ByteArray) :
    (∃ tree' wide' done, tree.save path content = (tree', done) ∧
      wide.save path content = (wide', done) ∧ Littered litter tree' wide') ∨
    (tree.save path content).2 = true ∧
      ∃ place, place? tree.workdir path = some place ∧ litter place := by
  cases hpath : isPath (directory path) with
  | false =>
    exact .inl ⟨tree, wide, false, save_of_not_isPath hpath tree content,
      save_of_not_isPath hpath wide content, h⟩
  | true =>
    obtain ⟨tree', done, hway⟩ := FileTree.exists_way tree tree.workdir (components (directory path))
    obtain ⟨wide', hway', h'⟩ := h.exists_way hway hlitter
    rw [← h.workdir] at hway'
    rw [save_of_way hpath hway, save_of_way hpath hway', h.workdir]
    cases done with
    | false => exact .inl ⟨tree', wide', false, rfl, rfl, h'⟩
    | true =>
      cases hplace : place? tree.workdir path with
      | none => exact .inl ⟨tree', wide', false, rfl, rfl, h'⟩
      | some place =>
        obtain hsame | ⟨hmem, hdone⟩ := h'.put_cases hlitter place content
        · exact .inl hsame
        · exact .inr ⟨hdone, place, rfl, hmem⟩

end Littered

end FileTree

end LoadPlan
