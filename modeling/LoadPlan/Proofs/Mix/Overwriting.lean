import LoadPlan.Mix.Report
import LoadPlan.Proofs.Files.Frame
import LoadPlan.Proofs.Matrix.Building
/-!
# Which matrix a file of the mix holds

A file name is claimed as it is spelled, while the file it leads to depends on its components
only: `x/m.csv` and `x//m.csv` are two claims of one file. A file of the mix therefore holds the
matrix of its entry or of a later one (`MatrixBuilder.Run.read?_entry`), and
`MatrixBuilder.entries_hold_iff` says when that is the entry's own.
-/

namespace LoadPlan

namespace MatrixBuilder

variable {b : MatrixBuilder} {services : List Service} {initial : Option String} {dir : String}

/-! ## One model -/

/-- **The written form of a model's matrix**, if it has one. -/
def text? (b : MatrixBuilder) (services : List Service) (initial : Option String)
    (model : BehaviorModel) : Option String :=
  match b.build services initial model with
  | .ok m => some (m.delimited b.config.delimiter)
  | .error _ => none

theorem text?_eq_some_iff {model : BehaviorModel} {text : String} :
    b.text? services initial model = some text ↔
      ∃ m, b.build services initial model = .ok m ∧ m.delimited b.config.delimiter = text := by
  unfold text?
  split <;> simp_all

/-- A matrix goes by the file name of its model, which is contained. -/
theorem filename_of_build {model : BehaviorModel} {m : BehaviorMatrix}
    (h : b.build services initial model = .ok m) :
    m.filename = model.filename ∧ Path.isContained model.filename := by
  obtain ⟨-, hvalid, f, -, -, rows, -, rfl⟩ := build_eq_ok_iff.1 h
  exact ⟨rfl, BehaviorModel.isContained_of_validate hvalid⟩

/-- A model that fails leaves every entry in the tree. -/
theorem keeps_of_produce_error {tree tree' : FileTree} {model : BehaviorModel} {e : MatrixError}
    (h : b.produce services initial dir tree model = (tree', .error e)) : tree.Keeps tree' := by
  unfold produce at h
  split at h
  · next m hm =>
    unfold save at h
    dsimp only at h
    split at h
    · cases h
    · next hsave =>
      cases h
      exact FileTree.keeps_of_save_failed hsave
  · cases h
    exact .refl tree

/-- A model that is written is written as its text, to the path of its contained file name. -/
theorem save_of_produce_ok {tree tree' : FileTree} {model : BehaviorModel} {path : String}
    (h : b.produce services initial dir tree model = (tree', .ok path)) :
    ∃ text, b.text? services initial model = some text ∧ Path.isContained model.filename ∧
      path = Path.join dir model.filename ∧ tree.save path text.toUTF8 = (tree', true) := by
  unfold produce at h
  split at h
  · next m hm =>
    obtain ⟨hname, hcontained⟩ := filename_of_build hm
    unfold save at h
    dsimp only at h
    split at h
    · next hsave =>
      cases h
      rw [hname] at hsave ⊢
      exact ⟨_, by simp [text?, hm], hcontained, rfl, hsave⟩
    · cases h
  · cases h

/-! ## The models of a mix -/

/-- **A run over the models of a mix**, from one tree to another, as far as files are concerned: a
model fails and leaves every entry, or it is written as its text. -/
inductive Run (b : MatrixBuilder) (services : List Service) (initial : Option String)
    (dir : String) : FileTree → List WeightedModel → FileTree → List MixOutcome → Prop
  /-- No models are left. -/
  | done {tree : FileTree} : Run b services initial dir tree [] tree []
  /-- The next model fails. -/
  | fail {tree next last : FileTree} {w : WeightedModel} {rest : List WeightedModel}
      {outcomes : List MixOutcome} (failure : MixFailure) :
      tree.Keeps next → Run b services initial dir next rest last outcomes →
      Run b services initial dir tree (w :: rest) last (.failed failure :: outcomes)
  /-- The next model is written. -/
  | write {tree next last : FileTree} {w : WeightedModel} {rest : List WeightedModel}
      {outcomes : List MixOutcome} {text : String} :
      b.text? services initial w.model = some text → Path.isContained w.model.filename →
      tree.save (Path.join dir w.model.filename) text.toUTF8 = (next, true) →
      Run b services initial dir next rest last outcomes →
      Run b services initial dir tree (w :: rest) last
        (.written ⟨w.model.name, w.relativeFrequency, Path.join dir w.model.filename⟩ :: outcomes)

/-- A run of the program is a run of the relation, whatever is claimed before. -/
theorem run_of_produceAll {models : List WeightedModel} {claimed : List String}
    {tree last : FileTree} {outcomes : List MixOutcome}
    (h : b.produceAll services initial dir claimed tree models = (last, outcomes)) :
    Run b services initial dir tree models last outcomes := by
  induction models generalizing claimed tree outcomes with
  | nil =>
    cases h
    exact .done
  | cons w rest ih =>
    rw [produceAll] at h
    dsimp only at h
    by_cases hclaimed : w.model.filename ∈ claimed
    · rw [if_pos hclaimed] at h
      cases h
      exact .fail _ (.refl tree) (ih rfl)
    · rw [if_neg hclaimed] at h
      rcases hproduce : b.produce services initial dir tree w.model with ⟨next, e | path⟩
      · rw [hproduce] at h
        cases h
        exact .fail _ (keeps_of_produce_error hproduce) (ih rfl)
      · obtain ⟨text, htext, hcontained, rfl, hsave⟩ := save_of_produce_ok hproduce
        rw [hproduce] at h
        cases h
        exact .write htext hcontained hsave (ih rfl)

/-- **In place `k` of a run** a model was written whose file name has the components of `file`;
`text` is its matrix. -/
structure WrittenAt (b : MatrixBuilder) (services : List Service) (initial : Option String)
    (models : List WeightedModel) (outcomes : List MixOutcome) (k : Nat) (file text : String) :
    Prop where
  written : ∃ entry, outcomes[k]? = some (.written entry)
  model : ∃ w, models[k]? = some w ∧ Path.components w.model.filename = Path.components file ∧
    b.text? services initial w.model = some text

/-- A place later in a longer run. -/
theorem WrittenAt.cons {models : List WeightedModel} {outcomes : List MixOutcome} {k : Nat}
    {file text : String} (h : WrittenAt b services initial models outcomes k file text)
    (w : WeightedModel) (o : MixOutcome) :
    WrittenAt b services initial (w :: models) (o :: outcomes) (k + 1) file text :=
  ⟨h.written, h.model⟩

namespace Run

variable {tree last : FileTree} {models : List WeightedModel} {outcomes : List MixOutcome}

/-- **A file that is there holds what it held, or the matrix of a model written since** whose file
name has the same components. -/
theorem read?_of_read? (h : Run b services initial dir tree models last outcomes) {file : String}
    {content : ByteArray} (hfile : Path.isContained file)
    (hread : tree.read? (Path.join dir file) = some content) :
    last.read? (Path.join dir file) = some content ∨
      ∃ k text, WrittenAt b services initial models outcomes k file text ∧
        last.read? (Path.join dir file) = some text.toUTF8 := by
  induction h generalizing content with
  | done => exact .inl hread
  | @fail tree next last w rest outcomes failure hkeeps _ ih =>
    obtain hsame | ⟨k, text, hwritten, hnew⟩ := ih (hkeeps.read? hread)
    · exact .inl hsame
    · exact .inr ⟨k + 1, text, hwritten.cons w _, hnew⟩
  | @write tree next last w rest outcomes text htext hcontained hsave _ ih =>
    by_cases hcomponents : Path.components file = Path.components w.model.filename
    · -- the file is replaced by this model, and maybe again after it
      have hreplaced := FileTree.read?_join_of_save_same hfile hcontained hcomponents hread hsave
      obtain hsame | ⟨k, text', hwritten, hnew⟩ := ih hreplaced
      · exact .inr ⟨0, text, ⟨⟨_, rfl⟩, w, rfl, hcomponents.symm, htext⟩, hsame⟩
      · exact .inr ⟨k + 1, text', hwritten.cons w _, hnew⟩
    · obtain hsame | ⟨k, text', hwritten, hnew⟩ :=
        ih (FileTree.read?_join_of_save_done hfile hcontained hcomponents hread hsave)
      · exact .inl hsame
      · exact .inr ⟨k + 1, text', hwritten.cons w _, hnew⟩

/-- A written model has a text, a contained file name, and an entry for the path of its file. -/
theorem exists_text (h : Run b services initial dir tree models last outcomes) {k : Nat}
    {w : WeightedModel} {entry : MixEntry} (hw : models[k]? = some w)
    (hentry : outcomes[k]? = some (.written entry)) :
    ∃ text, b.text? services initial w.model = some text ∧ Path.isContained w.model.filename ∧
      entry.filename = Path.join dir w.model.filename := by
  induction h generalizing k with
  | done => cases hw
  | fail failure _ _ ih =>
    cases k with
    | zero => cases hentry
    | succ k => exact ih hw hentry
  | write htext hcontained _ _ ih =>
    cases k with
    | zero =>
      cases hw
      cases hentry
      exact ⟨_, htext, hcontained, rfl⟩
    | succ k => exact ih hw hentry

/-- **The file of an entry holds the matrix of its model, or of a later one** whose file name has
the same components. -/
theorem read?_entry (h : Run b services initial dir tree models last outcomes) {k : Nat}
    {w : WeightedModel} {entry : MixEntry} (hw : models[k]? = some w)
    (hentry : outcomes[k]? = some (.written entry)) :
    ∃ l text, k ≤ l ∧
      WrittenAt b services initial models outcomes l w.model.filename text ∧
      last.read? entry.filename = some text.toUTF8 := by
  induction h generalizing k with
  | done => cases hw
  | @fail tree next last w' rest outcomes failure _ _ ih =>
    cases k with
    | zero => cases hentry
    | succ k =>
      obtain ⟨l, text, hle, hwritten, hread⟩ := ih hw hentry
      exact ⟨l + 1, text, Nat.succ_le_succ hle, hwritten.cons w' _, hread⟩
  | @write tree next last w' rest outcomes text htext hcontained hsave hrun ih =>
    cases k with
    | zero =>
      cases hw
      cases hentry
      have hread := FileTree.read?_of_save_done hsave
      obtain hsame | ⟨l, text', hwritten, hnew⟩ := hrun.read?_of_read? hcontained hread
      · exact ⟨0, text, Nat.le_refl _, ⟨⟨_, rfl⟩, w, rfl, rfl, htext⟩, hsame⟩
      · exact ⟨l + 1, text', Nat.zero_le _, hwritten.cons w _, hnew⟩
    | succ k =>
      obtain ⟨l, text', hle, hwritten, hread⟩ := ih hw hentry
      exact ⟨l + 1, text', Nat.succ_le_succ hle, hwritten.cons w' _, hread⟩

end Run

/-! ## A mix -/

/-- Place `k` of the mix was written, and `entry` says so. -/
def Wrote (report : MixReport) (mix : BehaviorMix) (k : Nat) (w : WeightedModel)
    (entry : MixEntry) : Prop :=
  mix.models[k]? = some w ∧ report.outcomes[k]? = some (.written entry)

/-- **Every entry's file holds the matrix of the entry's model if and only if models that were
written to one file have one text.** -/
theorem entries_hold_iff (b : MatrixBuilder) (services : List Service) (initial : Option String)
    (mix : BehaviorMix) (dir : String) (tree : FileTree) :
    let (last, report) := b.writeMix services initial mix dir tree
    (∀ k w entry, Wrote report mix k w entry →
      ∃ m, b.build services initial w.model = .ok m ∧
        last.read? entry.filename = some (m.delimited b.config.delimiter).toUTF8) ↔
    ∀ k w entry m k' w' entry' m', Wrote report mix k w entry → Wrote report mix k' w' entry' →
      Path.components w.model.filename = Path.components w'.model.filename →
      b.build services initial w.model = .ok m → b.build services initial w'.model = .ok m' →
      m.delimited b.config.delimiter = m'.delimited b.config.delimiter := by
  rcases hrun : b.produceAll services initial dir [] tree mix.models with ⟨last, outcomes⟩
  have hwrite : b.writeMix services initial mix dir tree = (last, ⟨outcomes⟩) := by
    simp [writeMix, hrun]
  rw [hwrite]
  replace hrun := run_of_produceAll hrun
  constructor
  · -- one file has one content
    rintro hhold k w entry m k' w' entry' m' ⟨hw, hentry⟩ ⟨hw', hentry'⟩ hcomponents hm hm'
    obtain ⟨-, -, hcontained, hname⟩ := hrun.exists_text hw hentry
    obtain ⟨-, -, hcontained', hname'⟩ := hrun.exists_text hw' hentry'
    obtain ⟨n, hn, hread⟩ := hhold k w entry ⟨hw, hentry⟩
    obtain ⟨n', hn', hread'⟩ := hhold k' w' entry' ⟨hw', hentry'⟩
    cases hm.symm.trans hn
    cases hm'.symm.trans hn'
    rw [hname] at hread
    rw [hname'] at hread'
    exact String.toByteArray_inj.1
      (FileTree.read?_join_congr hcontained hcontained' hcomponents hread hread')
  · -- the file holds the text of a model with the same components
    rintro hagree k w entry ⟨hw, hentry⟩
    obtain ⟨text, htext, -, -⟩ := hrun.exists_text hw hentry
    obtain ⟨m, hm, -⟩ := text?_eq_some_iff.1 htext
    obtain ⟨l, text', -, hlast, hread⟩ := hrun.read?_entry hw hentry
    obtain ⟨entry', hentry'⟩ := hlast.written
    obtain ⟨w', hw', hcomponents, htext'⟩ := hlast.model
    obtain ⟨m', hm', rfl⟩ := text?_eq_some_iff.1 htext'
    exact ⟨m, hm, by
      rw [hread, hagree k w entry m l w' entry' m' ⟨hw, hentry⟩ ⟨hw', hentry'⟩ hcomponents.symm
        hm hm']⟩

/-- A model that leaves its only state, of service `A`, with some probability. -/
def brief (name filename : String) (probability : Float) : WeightedModel :=
  ⟨1.0, name, filename, [⟨"a", [⟨probability, .exit, .normal 1.0 1.0⟩]⟩], some 0⟩

/-- Two models that write one file under two names. -/
def twins : BehaviorMix := ⟨[brief "first" "x//m.csv" 0.25, brief "second" "x/m.csv" 0.75]⟩

/-- The twins written to an empty tree. -/
def twinsRun : FileTree × MixReport := standard.writeMix [⟨"a", "A"⟩] none twins "out" .empty

/-- **The second twin overwrites the matrix of the first**, and both have an entry. -/
theorem entries_overwritten_twins :
    twinsRun.2.entries.map (·.filename) = ["out/x//m.csv", "out/x/m.csv"] ∧
    (∃ m, standard.build [⟨"a", "A"⟩] none (brief "first" "x//m.csv" 0.25).model = .ok m ∧
      m.delimited standard.config.delimiter = ",A,$\nA,0.0; n(0 0),0.25; n(1 1)\n") ∧
    twinsRun.1.read? "out/x//m.csv" = some ",A,$\nA,0.0; n(0 0),0.75; n(1 1)\n".toUTF8 := by
  refine ⟨?_, text?_eq_some_iff.1 ?_, ?_⟩ <;> decide +kernel

/-- The directory may lie outside the working directory as well. -/
example : (standard.writeMix [⟨"a", "A"⟩] none twins "/tmp/out" (.fresh ["home"])).1.read?
    "/tmp/out/x//m.csv" = some ",A,$\nA,0.0; n(0 0),0.75; n(1 1)\n".toUTF8 := by
  decide +kernel

end MatrixBuilder

end LoadPlan
