import LoadPlan.Proofs.Files.Growth
import LoadPlan.Proofs.Mix.Overwriting
/-!
# One model after another

A model of a mix is attempted in two steps: what there is to save is decided without a look at the
file tree (`MatrixBuilder.draft`), and saving it is all that the tree is used for
(`MatrixBuilder.attempt`). A run over a mix is one attempt after another
(`MatrixBuilder.produceAll_cons_iff`), it can be cut in two
(`MatrixBuilder.produceAll_append_iff`), and lets the tree grow.
-/

namespace LoadPlan

/-- The place of a written file, seen from a working directory. -/
def MixOutcome.place? (workdir : List String) : MixOutcome → Option (List String)
  | .written entry => Path.place? workdir entry.filename
  | .failed _ => none

theorem MixReport.mem_entries {r : MixReport} {e : MixEntry} :
    e ∈ r.entries ↔ .written e ∈ r.outcomes := by
  simp only [entries, List.mem_filterMap]
  constructor
  · rintro ⟨o, ho, heq⟩
    cases o with
    | written e' =>
      cases heq
      exact ho
    | failed f => cases heq
  · exact fun he => ⟨_, he, rfl⟩

theorem MixReport.mem_failures {r : MixReport} {f : MixFailure} :
    f ∈ r.failures ↔ .failed f ∈ r.outcomes := by
  simp only [failures, List.mem_filterMap]
  constructor
  · rintro ⟨o, ho, heq⟩
    cases o with
    | written e => cases heq
    | failed f' =>
      cases heq
      exact ho
  · exact fun hf => ⟨_, hf, rfl⟩

namespace MatrixBuilder

variable {b : MatrixBuilder} {services : List Service} {initial : Option String} {dir : String}
  {claimed claimed' : List String} {tree next last : FileTree} {w : WeightedModel}
  {models : List WeightedModel} {o : MixOutcome} {outcomes : List MixOutcome}

/-! ## One attempt -/

/-- **What there is to save of a model**, or why there is nothing; `claimed` holds the file names
before it. -/
def draft (b : MatrixBuilder) (services : List Service) (initial : Option String)
    (claimed : List String) (model : BehaviorModel) : Except MatrixError BehaviorMatrix :=
  if model.filename ∈ claimed then .error (.duplicateFilename model.name model.filename)
  else b.build services initial model

/-- **The attempt at a model**: its draft is saved, if there is one. -/
def attempt (b : MatrixBuilder) (services : List Service) (initial : Option String) (dir : String)
    (claimed : List String) (tree : FileTree) (w : WeightedModel) : FileTree × MixOutcome :=
  match b.draft services initial claimed w.model with
  | .error e => (tree, .failed ⟨w.model.name, e⟩)
  | .ok m => ((b.save m dir tree).1, outcome w (b.save m dir tree).2)

/-- A model has a draft if its file name is not claimed and its matrix can be built. -/
theorem draft_eq_ok_iff {model : BehaviorModel} {m : BehaviorMatrix} :
    b.draft services initial claimed model = .ok m ↔
      model.filename ∉ claimed ∧ b.build services initial model = .ok m := by
  unfold draft
  split <;> simp_all

/-- It has none because its name is claimed, or because its matrix cannot be built. -/
theorem draft_eq_error_iff {model : BehaviorModel} {e : MatrixError} :
    b.draft services initial claimed model = .error e ↔
      (model.filename ∈ claimed ∧ e = .duplicateFilename model.name model.filename) ∨
        (model.filename ∉ claimed ∧ b.build services initial model = .error e) := by
  unfold draft
  split <;> simp_all [eq_comm]

/-- Which names are claimed matters for the name of the model alone. -/
theorem draft_congr {model : BehaviorModel}
    (h : model.filename ∈ claimed ↔ model.filename ∈ claimed') :
    b.draft services initial claimed model = b.draft services initial claimed' model := by
  unfold draft
  simp only [h]

/-- What a weighted model comes to when its matrix was saved, or could not be. -/
def saved (dir : String) (w : WeightedModel) (m : BehaviorMatrix) (done : Bool) : MixOutcome :=
  if done then .written ⟨w.model.name, w.relativeFrequency, Path.join dir w.model.filename⟩
  else .failed ⟨w.model.name, .unwritable m.model (Path.join dir w.model.filename)⟩

/-- Without a draft nothing is touched. -/
theorem attempt_of_draft_error {e : MatrixError}
    (h : b.draft services initial claimed w.model = .error e) (tree : FileTree) :
    b.attempt services initial dir claimed tree w = (tree, .failed ⟨w.model.name, e⟩) := by
  rw [attempt, h]

/-- Saving a matrix is saving its written form. -/
theorem save_eq {m : BehaviorMatrix} {done : Bool}
    (hsave : tree.save (Path.join dir m.filename) (m.delimited b.config.delimiter).toUTF8 =
      (next, done)) :
    b.save m dir tree = (next, if done then .ok (Path.join dir m.filename)
      else .error (.unwritable m.model (Path.join dir m.filename))) := by
  unfold save
  dsimp only
  rw [hsave]
  cases done with
  | false => rfl
  | true => rfl

/-- **With a draft the attempt is to save it**, below the directory under the model's file name. -/
theorem attempt_of_draft {m : BehaviorMatrix}
    (h : b.draft services initial claimed w.model = .ok m) {done : Bool}
    (hsave : tree.save (Path.join dir w.model.filename)
      (m.delimited b.config.delimiter).toUTF8 = (next, done)) :
    b.attempt services initial dir claimed tree w = (next, saved dir w m done) := by
  obtain ⟨hname, -⟩ := filename_of_build (draft_eq_ok_iff.1 h).2
  rw [← hname] at hsave
  rw [attempt, h]
  dsimp only
  rw [save_eq hsave, hname]
  cases done with
  | false => rfl
  | true => rfl

/-- An attempt touches nothing, or saves a draft. -/
theorem cases_of_attempt (h : b.attempt services initial dir claimed tree w = (next, o)) :
    (∃ e, b.draft services initial claimed w.model = .error e ∧ next = tree ∧
      o = .failed ⟨w.model.name, e⟩) ∨
    ∃ m done, b.draft services initial claimed w.model = .ok m ∧
      tree.save (Path.join dir w.model.filename) (m.delimited b.config.delimiter).toUTF8 =
        (next, done) ∧ o = saved dir w m done := by
  cases hdraft : b.draft services initial claimed w.model with
  | error e =>
    rw [attempt_of_draft_error hdraft] at h
    cases h
    exact .inl ⟨e, rfl, rfl, rfl⟩
  | ok m =>
    rcases hsave : tree.save (Path.join dir w.model.filename)
      (m.delimited b.config.delimiter).toUTF8 with ⟨next', done⟩
    rw [attempt_of_draft hdraft hsave] at h
    cases h
    exact .inr ⟨m, done, rfl, hsave, rfl⟩

/-- **An attempt lets the tree grow.** -/
theorem grows_of_attempt (h : b.attempt services initial dir claimed tree w = (next, o)) :
    tree.Grows next := by
  obtain ⟨e, -, rfl, -⟩ | ⟨m, done, -, hsave, -⟩ := cases_of_attempt h
  · exact .refl next
  · have hgrows := FileTree.grows_save tree (Path.join dir w.model.filename)
      (m.delimited b.config.delimiter).toUTF8
    rwa [hsave] at hgrows

/-- The working directory stays the same. -/
theorem workdir_of_attempt (h : b.attempt services initial dir claimed tree w = (next, o)) :
    next.workdir = tree.workdir := (grows_of_attempt h).directories.workdir

/-- An attempt leaves an entry alone unless its file is put there. -/
theorem find?_of_attempt (h : b.attempt services initial dir claimed tree w = (next, o))
    {names : List String} {entry : Entry} (hfound : tree.find? names = some entry)
    (hplace : o.place? tree.workdir ≠ some names) : next.find? names = some entry := by
  obtain ⟨e, -, rfl, -⟩ | ⟨m, _ | _, -, hsave, rfl⟩ := cases_of_attempt h
  · exact hfound
  · exact (FileTree.keeps_of_save_failed hsave).kept _ _ hfound
  · obtain ⟨-, made, place, hway, hpath, -, rfl⟩ := FileTree.put_of_save_done hsave
    have hne : names ≠ place := by
      rintro rfl
      exact hplace hpath
    exact (FileTree.find?_set_of_ne hne _).trans (hway.keeps.kept _ _ hfound)

/-! ## Runs -/

/-- **A run is an attempt and a run after it.** -/
theorem produceAll_cons_iff :
    b.produceAll services initial dir claimed tree (w :: models) = (last, outcomes) ↔
      ∃ next o rest, b.attempt services initial dir claimed tree w = (next, o) ∧
        b.produceAll services initial dir (w.model.filename :: claimed) next models =
          (last, rest) ∧ outcomes = o :: rest := by
  have hattempt : b.produceAll services initial dir claimed tree (w :: models) =
      ((b.produceAll services initial dir (w.model.filename :: claimed)
          (b.attempt services initial dir claimed tree w).1 models).1,
        (b.attempt services initial dir claimed tree w).2 ::
          (b.produceAll services initial dir (w.model.filename :: claimed)
            (b.attempt services initial dir claimed tree w).1 models).2) := by
    rw [produceAll]
    by_cases hclaimed : w.model.filename ∈ claimed
    · simp only [attempt, draft, if_pos hclaimed, outcome]
    · simp only [attempt, draft, if_neg hclaimed, produce]
      cases b.build services initial w.model with
      | error e => rfl
      | ok m => dsimp only
  rw [hattempt]
  constructor
  · intro h
    cases h
    exact ⟨_, _, _, rfl, rfl, rfl⟩
  · rintro ⟨next, o, rest, hnext, hrest, rfl⟩
    rw [hnext, hrest]

/-- The file names that are claimed after some models. -/
def claims (claimed : List String) (models : List WeightedModel) : List String :=
  models.foldl (fun names w => w.model.filename :: names) claimed

theorem mem_claims {name : String} :
    name ∈ claims claimed models ↔
      name ∈ models.map (·.model.filename) ∨ name ∈ claimed := by
  induction models generalizing claimed with
  | nil => simp [claims]
  | cons w models ih =>
    rw [claims, List.foldl_cons, ← claims, ih, List.mem_cons, List.map_cons, List.mem_cons]
    tauto

/-- **A run over two lists** is a run over the second after one over the first. -/
theorem produceAll_append_iff {more : List WeightedModel} :
    b.produceAll services initial dir claimed tree (models ++ more) = (last, outcomes) ↔
      ∃ mid before after,
        b.produceAll services initial dir claimed tree models = (mid, before) ∧
        b.produceAll services initial dir (claims claimed models) mid more = (last, after) ∧
        outcomes = before ++ after := by
  induction models generalizing claimed tree outcomes with
  | nil => simp [produceAll, claims]
  | cons w models ih =>
    simp only [List.cons_append, produceAll_cons_iff, ih]
    constructor
    · rintro ⟨next, o, rest, hnext, ⟨mid, before, after, hbefore, hafter, rfl⟩, rfl⟩
      exact ⟨mid, o :: before, after, ⟨next, o, before, hnext, hbefore, rfl⟩, hafter, rfl⟩
    · rintro ⟨mid, before, after, ⟨next, o, rest, hnext, hrest, rfl⟩, hafter, rfl⟩
      exact ⟨next, o, rest ++ after, hnext, ⟨mid, rest, after, hrest, hafter, rfl⟩, rfl⟩

/-- Every model has an outcome. -/
theorem length_of_produceAll
    (h : b.produceAll services initial dir claimed tree models = (last, outcomes)) :
    outcomes.length = models.length := by
  induction models generalizing claimed tree outcomes with
  | nil =>
    cases h
    rfl
  | cons w models ih =>
    obtain ⟨next, o, rest, -, hrest, rfl⟩ := produceAll_cons_iff.1 h
    rw [List.length_cons, List.length_cons, ih hrest]

/-- **A run lets the tree grow.** -/
theorem grows_of_produceAll
    (h : b.produceAll services initial dir claimed tree models = (last, outcomes)) :
    tree.Grows last := by
  induction models generalizing claimed tree outcomes with
  | nil =>
    cases h
    exact .refl _
  | cons w models ih =>
    obtain ⟨next, o, rest, hnext, hrest, -⟩ := produceAll_cons_iff.1 h
    exact (grows_of_attempt hnext).trans (ih hrest)

theorem workdir_of_produceAll
    (h : b.produceAll services initial dir claimed tree models = (last, outcomes)) :
    last.workdir = tree.workdir := (grows_of_produceAll h).directories.workdir

/-- **A run leaves an entry alone** unless a file is put there. -/
theorem find?_of_produceAll
    (h : b.produceAll services initial dir claimed tree models = (last, outcomes))
    {names : List String} {entry : Entry} (hfound : tree.find? names = some entry)
    (hplaces : ∀ o ∈ outcomes, o.place? tree.workdir ≠ some names) :
    last.find? names = some entry := by
  induction models generalizing claimed tree outcomes with
  | nil =>
    cases h
    exact hfound
  | cons w models ih =>
    obtain ⟨next, o, rest, hnext, hrest, rfl⟩ := produceAll_cons_iff.1 h
    rw [List.forall_mem_cons] at hplaces
    refine ih hrest (find?_of_attempt hnext hfound hplaces.1) ?_
    rw [workdir_of_attempt hnext]
    exact hplaces.2

/-- **Where a file was written there is a file.** -/
theorem exists_file_of_produceAll
    (h : b.produceAll services initial dir claimed tree models = (last, outcomes))
    (ho : o ∈ outcomes) {names : List String} (hplace : o.place? tree.workdir = some names) :
    ∃ content, last.find? names = some (.file content) := by
  induction models generalizing claimed tree outcomes with
  | nil =>
    cases h
    cases ho
  | cons w models ih =>
    obtain ⟨next, o', rest, hnext, hrest, rfl⟩ := produceAll_cons_iff.1 h
    rcases List.mem_cons.1 ho with rfl | ho
    · obtain ⟨e, -, -, rfl⟩ | ⟨m, _ | _, -, hsave, rfl⟩ := cases_of_attempt hnext
      · cases hplace
      · cases hplace
      · obtain ⟨-, made, place, -, hpath, haccepts, rfl⟩ := FileTree.put_of_save_done hsave
        cases hpath.symm.trans hplace
        exact (grows_of_produceAll hrest).files _ _
          (FileTree.find?_set_of_accepts haccepts _)
    · rw [← workdir_of_attempt hnext] at hplace
      exact ih hrest ho hplace

/-- **Every outcome is that of an attempt** at the model in the same place. -/
theorem exists_attempt_of_getElem?
    (h : b.produceAll services initial dir claimed tree models = (last, outcomes)) {k : ℕ}
    (ho : outcomes[k]? = some o) :
    ∃ w claimed' tree' next, models[k]? = some w ∧
      b.attempt services initial dir claimed' tree' w = (next, o) := by
  induction models generalizing claimed tree outcomes k with
  | nil =>
    cases h
    cases ho
  | cons w models ih =>
    obtain ⟨next, o', rest, hnext, hrest, rfl⟩ := produceAll_cons_iff.1 h
    cases k with
    | zero =>
      cases ho
      exact ⟨w, claimed, tree, next, rfl, hnext⟩
    | succ k => exact ih hrest ho

/-- A written outcome is that of a model whose matrix is built, and shows the path of its file. -/
theorem exists_build_of_written
    (h : b.produceAll services initial dir claimed tree models = (last, outcomes)) {k : ℕ}
    {entry : MixEntry} (he : outcomes[k]? = some (.written entry)) :
    ∃ w m, models[k]? = some w ∧ b.build services initial w.model = .ok m ∧
      entry.filename = Path.join dir w.model.filename := by
  obtain ⟨w, claimed', tree', next, hw, hattempt⟩ := exists_attempt_of_getElem? h he
  obtain ⟨e, -, -, ho⟩ | ⟨m, _ | _, hdraft, -, ho⟩ := cases_of_attempt hattempt
  · cases ho
  · cases ho
  · cases ho
    exact ⟨w, m, hw, (draft_eq_ok_iff.1 hdraft).2, rfl⟩

/-- The file of an entry can be read. -/
theorem exists_read?_of_mem
    (h : b.produceAll services initial dir claimed tree models = (last, outcomes))
    {entry : MixEntry} (he : .written entry ∈ outcomes) :
    ∃ content, last.read? entry.filename = some content := by
  obtain ⟨k, houtcome⟩ := List.mem_iff_getElem?.1 he
  obtain ⟨w, -, hw, -⟩ := exists_build_of_written h houtcome
  obtain ⟨-, text, -, -, hread⟩ := (run_of_produceAll h).read?_entry hw houtcome
  exact ⟨_, hread⟩

/-! ## Mixes -/

/-- A mix is written in a run over its models. -/
theorem exists_run_of_writeMix {mix : BehaviorMix} {report : MixReport}
    (h : b.writeMix services initial mix dir tree = (last, report)) :
    ∃ outcomes, b.produceAll services initial dir [] tree mix.models = (last, outcomes) ∧
      report = ⟨outcomes⟩ := by
  rcases hrun : b.produceAll services initial dir [] tree mix.models with ⟨last', outcomes⟩
  simp only [writeMix, hrun] at h
  cases h
  exact ⟨outcomes, rfl, rfl⟩

/-- A run over the models writes a mix. -/
theorem writeMix_of_produceAll {mix : BehaviorMix}
    (h : b.produceAll services initial dir [] tree mix.models = (last, outcomes)) :
    b.writeMix services initial mix dir tree = (last, ⟨outcomes⟩) := by
  simp only [writeMix, h]

end MatrixBuilder

end LoadPlan
