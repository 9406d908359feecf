import LoadPlan.Proofs.Mix.Isolation
/-!
# Every model of a mix is accounted for

A report has entries and failures, and no list of all models. `MixOutcome.Merges` puts the two
together again, and `MatrixBuilder.Records` says what the record of one model is, given the models
before it and the file tree that they left: its file name is taken, or its matrix is built and saved.
`MatrixBuilder.accounts_for_mix` says that the merged lists are one record for each model, in the
order of the mix.
-/

namespace LoadPlan

/-! ## Entries and failures together -/

/-- **Entries and failures are merged into outcomes**, each list in its order. -/
inductive MixOutcome.Merges : List MixEntry → List MixFailure → List MixOutcome → Prop
  /-- Nothing is left of either. -/
  | nil : Merges [] [] []
  /-- The next outcome is an entry. -/
  | entry {e : MixEntry} {entries : List MixEntry} {failures : List MixFailure}
      {outcomes : List MixOutcome} :
      Merges entries failures outcomes → Merges (e :: entries) failures (.written e :: outcomes)
  /-- The next outcome is a failure. -/
  | failure {f : MixFailure} {entries : List MixEntry} {failures : List MixFailure}
      {outcomes : List MixOutcome} :
      Merges entries failures outcomes → Merges entries (f :: failures) (.failed f :: outcomes)

/-- Merged lists are as long as the two together. -/
theorem MixOutcome.Merges.length_eq {entries : List MixEntry} {failures : List MixFailure}
    {outcomes : List MixOutcome} (h : Merges entries failures outcomes) :
    entries.length + failures.length = outcomes.length := by
  induction h with
  | nil => rfl
  | entry _ ih =>
    rw [List.length_cons, List.length_cons, ← ih]
    omega
  | failure _ ih =>
    rw [List.length_cons, List.length_cons, ← ih]
    omega

namespace MixReport

/-- The entries and failures of a report are merged in its outcomes. -/
theorem merges (r : MixReport) : MixOutcome.Merges r.entries r.failures r.outcomes := by
  obtain ⟨outcomes⟩ := r
  induction outcomes with
  | nil => exact .nil
  | cons o outcomes ih =>
    cases o with
    | written e => exact .entry ih
    | failed f => exact .failure ih

/-- A report is complete if it says of no model that it failed. -/
theorem isComplete_iff {r : MixReport} :
    r.isComplete ↔ ∀ k < r.outcomes.length, ∃ entry, r.outcomes[k]? = some (.written entry) := by
  have hnone : r.isComplete ↔ ∀ f, .failed f ∉ r.outcomes := by
    rw [isComplete, List.isEmpty_iff, List.eq_nil_iff_forall_not_mem]
    exact forall_congr' fun f => not_congr mem_failures
  rw [hnone]
  constructor
  · intro h k hk
    cases ho : r.outcomes[k] with
    | written entry => exact ⟨entry, by rw [List.getElem?_eq_getElem hk, ho]⟩
    | failed f => exact absurd (ho ▸ List.getElem_mem hk) (h f)
  · intro h f hf
    obtain ⟨k, hk, hat⟩ := List.getElem_of_mem hf
    obtain ⟨entry, hentry⟩ := h k hk
    rw [List.getElem?_eq_getElem hk, hat] at hentry
    cases hentry

end MixReport

namespace MatrixBuilder

variable {b : MatrixBuilder} {services : List Service} {initial : Option String} {dir : String}
  {tree next : FileTree} {earlier : List WeightedModel} {w : WeightedModel} {o : MixOutcome}

/-! ## The record of one model -/

/-- **The record of a model** after the `earlier` ones, which left `tree`: it fails for its file
name if one of these has it, successful or not, and otherwise it is built and then saved. -/
inductive Records (b : MatrixBuilder) (services : List Service) (initial : Option String)
    (dir : String) (earlier : List WeightedModel) (w : WeightedModel) (tree : FileTree) :
    FileTree → MixOutcome → Prop
  /-- An earlier model has the file name. -/
  | duplicate :
      w.model.filename ∈ earlier.map (·.model.filename) →
      Records b services initial dir earlier w tree tree
        (.failed ⟨w.model.name, .duplicateFilename w.model.name w.model.filename⟩)
  /-- The matrix is not built. -/
  | unbuilt {e : MatrixError} :
      w.model.filename ∉ earlier.map (·.model.filename) →
      b.build services initial w.model = .error e →
      Records b services initial dir earlier w tree tree (.failed ⟨w.model.name, e⟩)
  /-- The matrix is built, and not saved. -/
  | unsaved {m : BehaviorMatrix} {next : FileTree} {e : MatrixError} :
      w.model.filename ∉ earlier.map (·.model.filename) →
      b.build services initial w.model = .ok m → b.save m dir tree = (next, .error e) →
      Records b services initial dir earlier w tree next (.failed ⟨w.model.name, e⟩)
  /-- The matrix is built and saved. -/
  | saved {m : BehaviorMatrix} {next : FileTree} {path : String} :
      w.model.filename ∉ earlier.map (·.model.filename) →
      b.build services initial w.model = .ok m → b.save m dir tree = (next, .ok path) →
      Records b services initial dir earlier w tree next
        (.written ⟨w.model.name, w.relativeFrequency, path⟩)

/-- An attempt is recorded. -/
theorem records_of_attempt
    (h : b.attempt services initial dir (claims [] earlier) tree w = (next, o)) :
    b.Records services initial dir earlier w tree next o := by
  have hclaims : w.model.filename ∈ claims [] earlier ↔
      w.model.filename ∈ earlier.map (·.model.filename) := by
    rw [mem_claims, or_iff_left List.not_mem_nil]
  obtain ⟨e, hdraft, rfl, rfl⟩ | ⟨m, done, hdraft, hsave, rfl⟩ := cases_of_attempt h
  · obtain ⟨hclaimed, rfl⟩ | ⟨hfree, hbuild⟩ := draft_eq_error_iff.1 hdraft
    · exact .duplicate (hclaims.1 hclaimed)
    · exact .unbuilt (hclaims.not.1 hfree) hbuild
  · obtain ⟨hfree, hbuild⟩ := draft_eq_ok_iff.1 hdraft
    obtain ⟨hname, -⟩ := filename_of_build hbuild
    rw [← hname] at hsave
    have hsaved := save_eq hsave
    rw [hname] at hsaved
    cases done with
    | false => exact .unsaved (hclaims.not.1 hfree) hbuild hsaved
    | true => exact .saved (hclaims.not.1 hfree) hbuild hsaved

/-- What is saved goes by the file name, and what cannot be saved fails for that. -/
theorem cases_of_save {m : BehaviorMatrix} {result : Except MatrixError String}
    (h : b.save m dir tree = (next, result)) :
    result = .ok (Path.join dir m.filename) ∨
      result = .error (.unwritable m.model (Path.join dir m.filename)) := by
  rcases hsave : tree.save (Path.join dir m.filename)
    (m.delimited b.config.delimiter).toUTF8 with ⟨next', done⟩
  rw [save_eq hsave] at h
  cases done with
  | false => exact .inr (Prod.mk.inj h).2.symm
  | true => exact .inl (Prod.mk.inj h).2.symm

/-- **A record is that of a duplicate if and only if** an earlier model has the file name. -/
theorem Records.duplicate_iff (h : b.Records services initial dir earlier w tree next o) :
    (∃ name filename, o = .failed ⟨w.model.name, .duplicateFilename name filename⟩) ↔
      w.model.filename ∈ earlier.map (·.model.filename) := by
  constructor
  · rintro ⟨name, filename, rfl⟩
    cases h with
    | duplicate hclaimed => exact hclaimed
    | unbuilt _ hbuild => exact absurd rfl (ne_duplicate_of_build_error hbuild name filename)
    | unsaved _ _ hsave =>
      obtain hcase | hcase := cases_of_save hsave
      · cases hcase
      · cases hcase
  · intro hclaimed
    cases h with
    | duplicate => exact ⟨_, _, rfl⟩
    | unbuilt hfree => exact absurd hclaimed hfree
    | unsaved hfree => exact absurd hclaimed hfree
    | saved hfree => exact absurd hclaimed hfree

/-- **A written record** has the name and the weight of its model, and the path of its file. -/
theorem Records.entry_eq {entry : MixEntry}
    (h : b.Records services initial dir earlier w tree next (.written entry)) :
    entry = ⟨w.model.name, w.relativeFrequency, Path.join dir w.model.filename⟩ := by
  cases h with
  | saved _ hbuild hsave =>
    obtain ⟨hname, -⟩ := filename_of_build hbuild
    obtain hcase | hcase := cases_of_save hsave
    · cases hcase
      rw [hname]
    · cases hcase

/-! ## The records of a mix -/

/-- The file tree that the first `k` models of a mix leave. -/
def treeAfter (b : MatrixBuilder) (services : List Service) (initial : Option String)
    (mix : BehaviorMix) (dir : String) (tree : FileTree) (k : ℕ) : FileTree :=
  (b.writeMix services initial (mix.upTo k) dir tree).1

/-- **A report accounts for a mix.** -/
structure AccountsFor (b : MatrixBuilder) (services : List Service) (initial : Option String)
    (mix : BehaviorMix) (dir : String) (tree : FileTree) (report : MixReport) : Prop where
  /-- Entries and failures are merged in the outcomes. -/
  merges : MixOutcome.Merges report.entries report.failures report.outcomes
  /-- There is one outcome for each model. -/
  length : report.outcomes.length = mix.models.length
  total : report.entries.length + report.failures.length = mix.models.length
  /-- It is the model's record after the models before it. -/
  records : ∀ (k : ℕ) w, mix.models[k]? = some w → ∃ o, report.outcomes[k]? = some o ∧
    b.Records services initial dir (mix.upTo k).models w
      (b.treeAfter services initial mix dir tree k)
      (b.treeAfter services initial mix dir tree (k + 1)) o
  duplicates : ∀ (k : ℕ) w, mix.models[k]? = some w →
    ((∃ name filename, report.outcomes[k]? =
      some (.failed ⟨w.model.name, .duplicateFilename name filename⟩)) ↔
        w.model.filename ∈ (mix.upTo k).filenames)
  entries : ∀ (k : ℕ) w entry, mix.models[k]? = some w →
    report.outcomes[k]? = some (.written entry) →
      entry = ⟨w.model.name, w.relativeFrequency, Path.join dir w.model.filename⟩
  complete : report.isComplete ↔
    ∀ k < mix.models.length, ∃ entry, report.outcomes[k]? = some (.written entry)

section Mixes

variable (b : MatrixBuilder) (services : List Service) (initial : Option String)
  (mix : BehaviorMix) (dir : String) (tree : FileTree)

/-- A mix has as many outcomes as models. -/
theorem length_outcomes_writeMix :
    (b.writeMix services initial mix dir tree).2.outcomes.length = mix.models.length := by
  rcases hwritten : b.writeMix services initial mix dir tree with ⟨last, report⟩
  obtain ⟨outcomes, hrun, rfl⟩ := exists_run_of_writeMix hwritten
  exact length_of_produceAll hrun

variable {mix} in
/-- Every model of a mix has its record, in its place. -/
theorem exists_records_of_writeMix {k : ℕ} (hw : mix.models[k]? = some w) :
    ∃ o, (b.writeMix services initial mix dir tree).2.outcomes[k]? = some o ∧
      b.Records services initial dir (mix.upTo k).models w
        (b.treeAfter services initial mix dir tree k)
        (b.treeAfter services initial mix dir tree (k + 1)) o := by
  have p := parted b services initial dir tree hw
  obtain ⟨hupTo, hthrough⟩ := p.writeMix_upTo hw
  have hlength := p.length_before hw
  refine ⟨p.outcome, ?_, ?_⟩
  · rw [p.writeMix_eq]
    change (p.before ++ p.outcome :: p.after)[k]? = some p.outcome
    rw [List.getElem?_append_right (Nat.le_of_eq hlength), hlength, Nat.sub_self,
      List.getElem?_cons_zero]
  · rw [treeAfter, treeAfter, hupTo, hthrough]
    exact records_of_attempt p.step

/-- **The report of a mix accounts for every model exactly once**, whatever becomes of it. -/
theorem accounts_for_mix :
    b.AccountsFor services initial mix dir tree
      (b.writeMix services initial mix dir tree).2 where
  merges := MixReport.merges _
  length := length_outcomes_writeMix b services initial mix dir tree
  total := by rw [(MixReport.merges _).length_eq, length_outcomes_writeMix]
  records _ _ hw := exists_records_of_writeMix b services initial dir tree hw
  duplicates k w hw := by
    obtain ⟨o, ho, hrecord⟩ := exists_records_of_writeMix b services initial dir tree hw
    rw [ho, BehaviorMix.filenames, ← hrecord.duplicate_iff]
    simp only [Option.some.injEq]
  entries k w entry hw hentry := by
    obtain ⟨o, ho, hrecord⟩ := exists_records_of_writeMix b services initial dir tree hw
    rw [ho] at hentry
    cases hentry
    exact hrecord.entry_eq
  complete := by rw [MixReport.isComplete_iff, length_outcomes_writeMix]

end Mixes

end MatrixBuilder

end LoadPlan
