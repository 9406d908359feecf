import LoadPlan.Proofs.Files.Leftovers
import LoadPlan.Proofs.Mix.Attempt
/-!
# Matrix files stay in the output directory

Three readers see the name of a matrix file: validation looks at its components, joining at its
first character, and the file calls at the steps of the joined path. `Path.Inward` says of the text
alone what validation accepts (`Path.isContained_iff`). Behind any directory such a name leads
down by ordinary names only (`Path.normal_join`), so what a write changes is one file inside the
directory and missing directories on the way to it (`FileTree.change_of_save`). A whole mix keeps to
that too (`MatrixBuilder.confined_of_produceAll`).
-/

namespace LoadPlan

namespace Path

variable {path dir file : String}

/-! ## Names that lead inward -/

/-- **A file name that leads inward**: it is not empty, does not start with a slash, and between
its slashes there are no two dots, nor a single dot at the front. -/
structure Inward (path : String) : Prop where
  nonempty : path ≠ ""
  relative : path.toList.head? ≠ some '/'
  descends : ".." ∉ parts path
  named : (parts path).head? ≠ some "."

theorem step?_eq_parent_iff {part : String} : step? part = some .parent ↔ part = ".." := by
  unfold step?
  grind

theorem step?_eq_name_iff {part s : String} :
    step? part = some (.name s) ↔ part = s ∧ s ≠ "" ∧ s ≠ "." ∧ s ≠ ".." := by
  unfold step?
  grind

/-- No part is a step to the root or a step in place. -/
theorem step?_cases (part : String) :
    step? part = none ∨ step? part = some .parent ∨ step? part = some (.name part) := by
  unfold step?
  grind

theorem parent_mem_steps_iff : .parent ∈ steps path ↔ ".." ∈ parts path := by
  simp [steps, List.mem_filterMap, step?_eq_parent_iff]

theorem isAbsolute_eq_false_iff : isAbsolute path = false ↔ path.toList.head? ≠ some '/' := by
  simp [isAbsolute]

theorem Inward.isAbsolute_eq_false (h : Inward path) : isAbsolute path = false :=
  isAbsolute_eq_false_iff.2 h.relative

/-- Without two dots every step is a name. -/
theorem exists_name_of_mem_steps (h : ".." ∉ parts path) {c : Component} (hc : c ∈ steps path) :
    ∃ s, c = .name s := by
  obtain ⟨part, hpart, hstep⟩ := List.mem_filterMap.1 hc
  rcases step?_cases part with hnone | hparent | hname
  · rw [hnone] at hstep
    cases hstep
  · exact absurd (step?_eq_parent_iff.1 hparent ▸ hpart) h
  · rw [hname] at hstep
    cases hstep
    exact ⟨part, rfl⟩

/-- **The contained paths are those that lead inward.** -/
theorem isContained_iff : isContained path ↔ Inward path := by
  constructor
  · intro h
    obtain ⟨ns, -, hroot, hcomponents, hsteps⟩ := exists_names_of_isContained h
    rw [isContained, Bool.and_eq_true, decide_eq_true_eq] at h
    refine ⟨h.1, isAbsolute_eq_false_iff.1 hroot, fun hup => ?_, fun hdot => ?_⟩
    · have hmem := parent_mem_steps_iff.2 hup
      simp [hsteps] at hmem
    · have hmem : .current ∈ components path := by simp [components, hroot, hdot]
      simp [hcomponents] at hmem
  · intro h
    have hcomponents : components path = steps path := by
      simp [components, h.isAbsolute_eq_false, h.named, steps]
    rw [isContained, hcomponents, Bool.and_eq_true, decide_eq_true_eq, List.all_eq_true]
    refine ⟨h.nonempty, fun c hc => ?_⟩
    obtain ⟨s, rfl⟩ := exists_name_of_mem_steps h.descends hc
    rfl

/-! ## Normal forms -/

/-- **A path without what means nothing in it**: whether it starts at the root, and its parts
without the empty ones and the single dots. -/
def normal (path : String) : Bool × List String :=
  (isAbsolute path, (parts path).filter fun part => part ≠ "" ∧ part ≠ ".")

/-- A part of a path that names a file or a directory. -/
structure IsOrdinary (part : String) : Prop where
  nonempty : part ≠ ""
  ne_dot : part ≠ "."
  ne_dots : part ≠ ".."
  slashless : '/' ∉ part.toList

/-- How a step is written. -/
def Component.text : Component → String
  | .root => ""
  | .current => "."
  | .parent => ".."
  | .name s => s

/-- The parts that mean something are the steps. -/
theorem snd_normal (path : String) : (normal path).2 = (steps path).map Component.text := by
  rw [normal, steps]
  induction parts path with
  | nil => rfl
  | cons part rest ih =>
    dsimp only at ih ⊢
    rcases step?_cases part with hnone | hparent | hname
    · have hidle : ¬ (part ≠ "" ∧ part ≠ ".") := by
        unfold step? at hnone
        grind
      rw [List.filter_cons_of_neg (by simpa using hidle), List.filterMap_cons_none hnone, ih]
    · obtain rfl := step?_eq_parent_iff.1 hparent
      rw [List.filter_cons_of_pos (by decide), List.filterMap_cons_some hparent, List.map_cons, ih]
      rfl
    · obtain ⟨-, hempty, hdot, -⟩ := step?_eq_name_iff.1 hname
      rw [List.filter_cons_of_pos (by simp [hempty, hdot]), List.filterMap_cons_some hname,
        List.map_cons, ih]
      rfl

/-- **Joining puts the parts of the file behind those of the directory**, and starts where the
directory does. -/
theorem normal_join (hfile : Inward file) :
    normal (join dir file) = ((normal dir).1, (normal dir).2 ++ (normal file).2) := by
  have hroot := hfile.isAbsolute_eq_false
  refine Prod.ext (isAbsolute_join hroot) ?_
  rw [snd_normal, snd_normal, snd_normal, steps_join hroot, List.map_append]

/-- The steps of a name that leads inward are the parts that mean something. -/
theorem Inward.steps_eq (h : Inward file) : steps file = (normal file).2.map .name := by
  obtain ⟨ns, -, -, -, hsteps⟩ := exists_names_of_isContained (isContained_iff.2 h)
  rw [snd_normal, hsteps, List.map_map, List.map_map]
  rfl

/-- There is at least one of them. -/
theorem Inward.normal_ne_nil (h : Inward file) : (normal file).2 ≠ [] := by
  obtain ⟨ns, hne, -, -, hsteps⟩ := exists_names_of_isContained (isContained_iff.2 h)
  rw [h.steps_eq] at hsteps
  intro hnil
  rw [hnil] at hsteps
  exact hne (List.map_eq_nil_iff.1 hsteps.symm)

/-- **They are ordinary names.** -/
theorem Inward.isOrdinary (h : Inward file) : ∀ n ∈ (normal file).2, IsOrdinary n := by
  intro n hn
  obtain ⟨hpart, hkept⟩ := List.mem_filter.1 hn
  obtain ⟨hempty, hdot⟩ := of_decide_eq_true hkept
  refine ⟨hempty, hdot, fun hup => h.descends (hup ▸ hpart), ?_⟩
  obtain ⟨cs, hcs, rfl⟩ := List.mem_map.1 hpart
  rw [String.toList_ofList]
  exact Text.not_mem_of_mem_splitOn hcs

end Path

namespace FileTree

open LoadPlan.Path

variable {tree tree' tree'' : FileTree} {dir file path : String} {names : List String}
  {workdir : List String} {content : ByteArray} {done : Bool}

/-! ## What a save changes -/

/-- **A changed entry is the file, or a directory that was made for it** on the steps before the
last one of the path. -/
theorem cases_of_changed (h : tree.save path content = (tree', done))
    (hchanged : tree'.find? names ≠ tree.find? names) :
    (done = true ∧ place? tree.workdir path = some names ∧
      tree'.find? names = some (.file content)) ∨
    tree.find? names = none ∧ tree'.find? names = some .directory ∧
      ∃ before s after, (steps path).dropLast = before ++ .name s :: after ∧
        names = arrive (start tree.workdir path) before ++ [s] := by
  -- the way that is made keeps what is there, and what is new on it are directories
  have hway : ∀ {made done'}, Way tree tree.workdir (components (directory path)) made done' →
      made.find? names ≠ tree.find? names →
      tree.find? names = none ∧ made.find? names = some .directory ∧
        ∃ before s after, (steps path).dropLast = before ++ .name s :: after ∧
          names = arrive (start tree.workdir path) before ++ [s] := by
    intro made done' hmade hne
    cases hnone : tree.find? names with
    | some entry => exact absurd ((hmade.keeps.kept _ _ hnone).trans hnone.symm) hne
    | none =>
      obtain ⟨entry, hfound⟩ := Option.ne_none_iff_exists'.1 (hnone ▸ hne)
      obtain ⟨rfl, hstep⟩ := hmade.exists_step_of_path hnone hfound
      exact ⟨rfl, hfound, hstep⟩
  cases done with
  | false =>
    obtain ⟨-, rfl⟩ | ⟨-, done', hmade, -⟩ := cases_of_save_failed h
    · exact absurd rfl hchanged
    · exact .inr (hway hmade hchanged)
  | true =>
    obtain ⟨-, made, place, hmade, hplace, haccepts, rfl⟩ := put_of_save_done h
    by_cases hnames : names = place
    · subst hnames
      exact .inl ⟨rfl, hplace, find?_set_of_accepts haccepts _⟩
    · rw [find?_set_of_ne hnames] at hchanged ⊢
      exact .inr (hway hmade hchanged)

/-! ## Inside a directory -/

/-- The names lead to something inside a directory, seen from a working directory. -/
def Inside (workdir : List String) (dir : String) (names : List String) : Prop :=
  ∃ more, more ≠ [] ∧ names = reach workdir dir ++ more

/-- The names lead to a directory, or to one on the way to it. -/
def OnTheWay (workdir : List String) (dir : String) (names : List String) : Prop :=
  ∃ before s after, steps dir = before ++ .name s :: after ∧
    names = arrive (start workdir dir) before ++ [s]

/-- **What a file does to the tree when it is saved below a directory**: each entry that it leaves
where there was another one, or none. -/
inductive Change (workdir : List String) (dir file : String) (content : ByteArray) :
    List String → Entry → Prop
  /-- The directory itself, or one on the way to it, is made. -/
  | way {names : List String} : OnTheWay workdir dir names →
      Change workdir dir file content names .directory
  /-- A directory on the way of the file's name is made inside. -/
  | inner {ns rest : List String} : (normal file).2 = ns ++ rest → ns ≠ [] → rest ≠ [] →
      Change workdir dir file content (reach workdir dir ++ ns) .directory
  /-- The file is put inside. -/
  | file : Change workdir dir file content (reach workdir dir ++ (normal file).2) (.file content)

/-- The way of a file's name lies inside, and the rest of its way on the way to the directory. -/
theorem change_of_step (hfile : Inward file) {before after : List Component} {s : String}
    (h : (steps (join dir file)).dropLast = before ++ .name s :: after) :
    Change workdir dir file content (arrive (start workdir dir) before ++ [s]) .directory := by
  obtain hnil | ⟨init, last, hnames⟩ := List.eq_nil_or_concat (normal file).2
  · exact absurd hnil hfile.normal_ne_nil
  rw [List.concat_eq_append] at hnames
  have hdrop : (steps (join dir file)).dropLast = steps dir ++ init.map .name := by
    rw [steps_join hfile.isAbsolute_eq_false, hfile.steps_eq, hnames,
      List.map_append, List.map_singleton, ← List.append_assoc, List.dropLast_concat]
  -- inside, behind the steps of the directory
  have hbehind : ∀ more, before = steps dir ++ more →
      init.map Component.name = more ++ .name s :: after →
      Change workdir dir file content (arrive (start workdir dir) before ++ [s]) .directory := by
    rintro more rfl hrest
    obtain ⟨ns, tail, rfl, rfl, htail⟩ := List.map_eq_append_iff.1 hrest
    obtain ⟨t, rest, rfl, hs, -⟩ := List.map_eq_cons_iff.1 htail
    cases hs
    rw [arrive_append, arrive_names, List.append_assoc, ← reach]
    have hsplit : (normal file).2 = (ns ++ [s]) ++ (rest ++ [last]) := by simpa using hnames
    exact .inner hsplit (by simp) (by simp)
  rw [hdrop] at h
  obtain ⟨more, hmore, hrest⟩ | ⟨more, hmore, hrest⟩ := List.append_eq_append_iff.1 h
  · exact hbehind more hmore hrest
  · cases more with
    | nil => exact hbehind [] (by simpa using hmore.symm) (by simpa using hrest.symm)
    | cons c more =>
      obtain ⟨rfl, -⟩ := List.cons.inj hrest
      exact .way ⟨before, s, more, hmore, rfl⟩

/-- The place of a path is where its steps lead. -/
theorem eq_reach_of_place? (h : place? workdir path = some names) :
    names = reach workdir path := by
  unfold place? at h
  split at h
  · cases h
  · split at h
    · next s hs =>
      obtain rfl := Option.some.inj h
      obtain ⟨last, hlast, hstep⟩ := Option.bind_eq_some_iff.1 hs
      have hsteps : steps path = (steps path).dropLast ++ [.name s] := by
        rw [← filterMap_dropLast_parts hs, steps, ← List.dropLast_append_getLast? last hlast,
          List.filterMap_append]
        simp [hstep]
      conv_rhs => rw [reach, hsteps, arrive_append]
      rfl
    · cases h

/-- A file that leads inward has its place inside, under its ordinary names. -/
theorem eq_of_place?_join (hfile : Inward file)
    (h : place? workdir (join dir file) = some names) :
    names = reach workdir dir ++ (normal file).2 := by
  have hroot := hfile.isAbsolute_eq_false
  rw [eq_reach_of_place? h, reach, start_join hroot, steps_join hroot, arrive_append,
    hfile.steps_eq, arrive_names, reach]

/-- **A save below a directory changes nothing else.** -/
theorem change_of_save (hfile : Inward file) (h : tree.save (join dir file) content = (tree', done))
    (names : List String) : tree'.find? names = tree.find? names ∨
      ∃ entry, Change tree.workdir dir file content names entry ∧
        tree'.find? names = some entry := by
  by_cases hchanged : tree'.find? names = tree.find? names
  · exact .inl hchanged
  · refine .inr ?_
    obtain ⟨-, hplace, hfound⟩ | ⟨-, hfound, before, s, after, hsteps, rfl⟩ :=
      cases_of_changed h hchanged
    · obtain rfl := eq_of_place?_join hfile hplace
      exact ⟨_, .file, hfound⟩
    · rw [start_join hfile.isAbsolute_eq_false] at hfound ⊢
      exact ⟨_, change_of_step hfile hsteps, hfound⟩

/-- **Whatever differs lies inside the directory**, or is a directory that was made on the way to
it. -/
structure Confined (dir : String) (tree tree' : FileTree) : Prop where
  workdir : tree'.workdir = tree.workdir
  changes : ∀ names, tree'.find? names ≠ tree.find? names → Inside tree.workdir dir names ∨
    OnTheWay tree.workdir dir names ∧ tree.find? names = none ∧
      tree'.find? names = some .directory

theorem Confined.refl (dir : String) (tree : FileTree) : Confined dir tree tree :=
  ⟨rfl, fun _ hchanged => absurd rfl hchanged⟩

theorem Confined.trans (h : Confined dir tree tree') (h' : Confined dir tree' tree'') :
    Confined dir tree tree'' := by
  refine ⟨h'.workdir.trans h.workdir, fun names hchanged => ?_⟩
  have hafter := h'.changes names
  rw [h.workdir] at hafter
  by_cases hfirst : tree'.find? names = tree.find? names
  · rw [← hfirst] at hchanged ⊢
    exact hafter hchanged
  · obtain hinside | ⟨hway, hnone, hmade⟩ := h.changes names hfirst
    · exact .inl hinside
    · by_cases hsecond : tree''.find? names = tree'.find? names
      · exact .inr ⟨hway, hnone, hsecond.trans hmade⟩
      · -- what was made first is not made again
        refine (hafter hsecond).imp_right fun ⟨_, hnone', _⟩ => ?_
        rw [hmade] at hnone'
        cases hnone'

theorem Change.inside_or_onTheWay {entry : Entry} (hfile : Inward file)
    (h : Change workdir dir file content names entry) :
    Inside workdir dir names ∨ OnTheWay workdir dir names := by
  cases h with
  | way hway => exact .inr hway
  | inner _ hne _ => exact .inl ⟨_, hne, rfl⟩
  | file => exact .inl ⟨_, hfile.normal_ne_nil, rfl⟩

/-- A save below a directory is confined to it. -/
theorem confined_save (hfile : Inward file)
    (h : tree.save (join dir file) content = (tree', done)) : Confined dir tree tree' := by
  have hgrows := grows_save tree (join dir file) content
  rw [h] at hgrows
  refine ⟨hgrows.directories.workdir, fun names hchanged => ?_⟩
  obtain ⟨-, hplace, -⟩ | ⟨hnone, hfound, before, s, after, hsteps, rfl⟩ :=
    cases_of_changed h hchanged
  · exact .inl ⟨_, hfile.normal_ne_nil, eq_of_place?_join hfile hplace⟩
  · rw [start_join hfile.isAbsolute_eq_false] at hnone hfound ⊢
    have hchange : Change tree.workdir dir file content
        (arrive (start tree.workdir dir) before ++ [s]) .directory :=
      change_of_step hfile hsteps
    exact (hchange.inside_or_onTheWay hfile).imp_right fun hway => ⟨hway, hnone, hfound⟩

end FileTree

/-! ## The file name of a valid model -/

namespace BehaviorModel

variable {m : BehaviorModel} {services : List Service}

/-- What is wrong with a state is not the file name. -/
theorem ne_filename_of_mem_stateDefects {s : MarkovState} {e : ModelError}
    (h : e ∈ m.stateDefects services s) (name file : String) :
    e ≠ .invalidMatrixFilename name file := by
  rintro rfl
  simp only [stateDefects, transitionDefects, List.mem_append, List.mem_flatMap] at h
  grind

/-- **Validation refuses a file name for not leading inward**, and for nothing else. -/
theorem accepts_filename_iff :
    (∀ name file, m.validate services ≠ .error (.invalidMatrixFilename name file)) ↔
      Path.Inward m.filename := by
  rw [← Path.isContained_iff]
  constructor
  · intro h
    by_contra hcontained
    refine h m.name m.filename ?_
    simp [validate, defects, hcontained]
  · intro hcontained name file herror
    have hmem : ModelError.invalidMatrixFilename name file ∈ m.defects services := by
      unfold validate at herror
      split at herror
      · cases herror
      · next e rest hdefects =>
        cases herror
        rw [hdefects]
        exact List.mem_cons_self
    rw [defects, if_pos hcontained, List.nil_append, List.mem_append, List.mem_flatMap] at hmem
    obtain hinitial | ⟨s, -, hstate⟩ := hmem
    · grind
    · exact ne_filename_of_mem_stateDefects hstate name file rfl

end BehaviorModel

/-! ## Matrices -/

namespace MatrixBuilder

open FileTree

variable {b : MatrixBuilder} {services : List Service} {initial : Option String} {dir : String}
  {claimed : List String} {tree next last : FileTree} {w : WeightedModel} {o : MixOutcome}
  {models : List WeightedModel} {outcomes : List MixOutcome}

/-- An attempt at a model is confined to the output directory: the model is valid before anything
is saved. -/
theorem confined_of_attempt (h : b.attempt services initial dir claimed tree w = (next, o)) :
    Confined dir tree next := by
  obtain ⟨e, -, rfl, -⟩ | ⟨m, done, hdraft, hsave, -⟩ := cases_of_attempt h
  · exact .refl dir next
  · obtain ⟨-, hcontained⟩ := filename_of_build (draft_eq_ok_iff.1 hdraft).2
    exact confined_save (Path.isContained_iff.1 hcontained) hsave

/-- **A run over the models of a mix is confined to the output directory.** -/
theorem confined_of_produceAll
    (h : b.produceAll services initial dir claimed tree models = (last, outcomes)) :
    Confined dir tree last := by
  induction models generalizing claimed tree outcomes with
  | nil =>
    cases h
    exact .refl dir _
  | cons w models ih =>
    obtain ⟨next, o, rest, hnext, hrest, -⟩ := produceAll_cons_iff.1 h
    exact (confined_of_attempt hnext).trans (ih hrest)

/-- **A file name that stays inside**, whatever the directory is that it is joined to. -/
structure StaysInside (file : String) : Prop where
  /-- Something is left of the name, and that is ordinary names. -/
  names : (Path.normal file).2 ≠ [] ∧ ∀ n ∈ (Path.normal file).2, Path.IsOrdinary n
  /-- The joined path starts at the root only if the directory does, and has the names behind the
  parts of the directory. -/
  joined (dir : String) : Path.normal (Path.join dir file) =
    ((Path.normal dir).1, (Path.normal dir).2 ++ (Path.normal file).2)
  /-- A matrix that is written lies under the names, inside. -/
  written (b : MatrixBuilder) (m : BehaviorMatrix) (dir : String) (tree next : FileTree)
    (path : String) : m.filename = file → b.save m dir tree = (next, .ok path) →
      path = Path.join dir file ∧
        next.find? (Path.reach tree.workdir dir ++ (Path.normal file).2) =
          some (.file (m.delimited b.config.delimiter).toUTF8)
  /-- Written or not, nothing else changes but for directories that are made on the way. -/
  changes (b : MatrixBuilder) (m : BehaviorMatrix) (dir : String) (tree next : FileTree)
    (result : Except MatrixError String) (place : List String) : m.filename = file →
      b.save m dir tree = (next, result) → next.find? place = tree.find? place ∨
        ∃ entry, Change tree.workdir dir file (m.delimited b.config.delimiter).toUTF8 place entry ∧
          next.find? place = some entry

theorem staysInside_of_inward {file : String} (hfile : Path.Inward file) : StaysInside file where
  names := ⟨hfile.normal_ne_nil, hfile.isOrdinary⟩
  joined _ := Path.normal_join hfile
  written b m dir tree next path hname h := by
    subst hname
    rcases hsave : tree.save (Path.join dir m.filename) (m.delimited b.config.delimiter).toUTF8
      with ⟨next', _ | _⟩
    · rw [save_eq hsave] at h
      cases h
    · rw [save_eq hsave] at h
      cases h
      obtain ⟨-, made, place, -, hplace, haccepts, rfl⟩ := put_of_save_done hsave
      obtain rfl := eq_of_place?_join hfile hplace
      exact ⟨rfl, find?_set_of_accepts haccepts _⟩
  changes b m dir tree next result place hname h := by
    subst hname
    rcases hsave : tree.save (Path.join dir m.filename) (m.delimited b.config.delimiter).toUTF8
      with ⟨next', done⟩
    rw [save_eq hsave] at h
    cases h
    exact change_of_save hfile hsave place

/-- **Matrix files never leave the output directory.** Validation accepts the names that lead
inward, and no others; under such a name a matrix is written inside any directory; and a mix,
whatever its models, changes nothing outside its directory but for missing directories on the way
there. -/
theorem files_stay_inside (model : BehaviorModel) (services : List Service) :
    ((∀ name file, model.validate services ≠ .error (.invalidMatrixFilename name file)) ↔
      Path.Inward model.filename) ∧
    (Path.Inward model.filename → StaysInside model.filename) ∧
    ∀ (b : MatrixBuilder) (initial : Option String) (dir : String) (mix : BehaviorMix)
      (tree last : FileTree) (report : MixReport),
      b.writeMix services initial mix dir tree = (last, report) → Confined dir tree last := by
  refine ⟨BehaviorModel.accepts_filename_iff, staysInside_of_inward, ?_⟩
  intro b initial dir mix tree last report h
  obtain ⟨outcomes, hrun, -⟩ := exists_run_of_writeMix h
  exact confined_of_produceAll hrun

/-- A name with slashes and dots that mean nothing, behind a directory that goes up and down. Under
that name a matrix is written in a directory next to the working directory. -/
theorem files_stay_inside_nightly :
    Path.Inward "users//./night.csv" ∧ StaysInside "users//./night.csv" ∧
      Path.normal (Path.join "out/.././runs/" "users//./night.csv") =
        (false, ["out", "..", "runs", "users", "night.csv"]) ∧
      ∃ next content, standard.save ⟨"nightly", "users//./night.csv", []⟩ "../runs"
          (.fresh ["home", "ann"]) = (next, .ok "../runs/users//./night.csv") ∧
        next.find? ["home", "runs", "users", "night.csv"] = some (.file content) := by
  have hinward : Path.Inward "users//./night.csv" :=
    ⟨by decide, by decide, by decide, by decide⟩
  obtain ⟨-, hstays, -⟩ := files_stay_inside (.new "nightly" "users//./night.csv") []
  have hsaved : (standard.save ⟨"nightly", "users//./night.csv", []⟩ "../runs"
      (.fresh ["home", "ann"])).2 = .ok "../runs/users//./night.csv" := rfl
  obtain ⟨-, hfound⟩ := (hstays hinward).written standard ⟨"nightly", "users//./night.csv", []⟩
    "../runs" (.fresh ["home", "ann"]) _ _ rfl (Prod.ext rfl hsaved)
  exact ⟨hinward, hstays hinward, ((hstays hinward).joined _).trans (by decide), _, _,
    Prod.ext rfl hsaved, hfound⟩

end MatrixBuilder

end LoadPlan
