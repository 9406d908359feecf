import LoadPlan.Proofs.Mix.Attempt
/-!
# Building a mix again

Where the first build of a mix has written a file, the second one writes the same file again;
where it failed on the file tree, the obstacle is still there. So the second build reports what
the first one did, and leaves every file and directory as it was (`MatrixBuilder.rebuild_eq`).
In between the trees may differ: a file that two models write under two spellings holds the first
model's matrix again until the second one is written.
-/

namespace LoadPlan

namespace MatrixBuilder

variable {b : MatrixBuilder} {services : List Service} {initial : Option String} {dir : String}
  {workdir claimed : List String} {tree next last later : FileTree} {w : WeightedModel}
  {models : List WeightedModel} {o : MixOutcome} {outcomes : List MixOutcome}

/-- **An attempt is repeated** in every tree that has grown out of the one it left: it has the same
outcome, and touches nothing or writes the same file. -/
theorem attempt_again (h : b.attempt services initial dir claimed tree w = (next, o))
    (hg : next.Grows later) :
    (o.place? tree.workdir = none ∧
      b.attempt services initial dir claimed later w = (later, o)) ∨
    ∃ place content, o.place? tree.workdir = some place ∧
      next.find? place = some (.file content) ∧
      b.attempt services initial dir claimed later w =
        (later.set place (.file content), o) := by
  obtain ⟨e, hdraft, rfl, rfl⟩ | ⟨m, _ | _, hdraft, hsave, rfl⟩ := cases_of_attempt h
  · exact .inl ⟨rfl, attempt_of_draft_error hdraft later⟩
  · exact .inl ⟨rfl, attempt_of_draft hdraft (hg.save_failed hsave _)⟩
  · obtain ⟨place, hplace, hfile, hagain⟩ := hg.save_done hsave
    exact .inr ⟨place, _, hplace, hfile, attempt_of_draft hdraft (hagain _)⟩

/-- **A tree differs from the last one only in files that are still to be written.** -/
def Pending (workdir : List String) (outcomes : List MixOutcome) (later last : FileTree) : Prop :=
  ∀ names, later.find? names = last.find? names ∨ ∃ o ∈ outcomes, o.place? workdir = some names

/-- A model that wrote no file is not waited for. -/
theorem Pending.pass (h : Pending workdir (o :: outcomes) later last)
    (ho : o.place? workdir = none) : Pending workdir outcomes later last := by
  intro names
  obtain hfound | ⟨o', ho', hplace⟩ := h names
  · exact .inl hfound
  · rcases List.mem_cons.1 ho' with rfl | ho'
    · rw [ho] at hplace
      cases hplace
    · exact .inr ⟨o', ho', hplace⟩

/-- A file that is written is settled, unless it is written once more. -/
theorem Pending.set {place : List String} {entry : Entry}
    (h : Pending workdir (o :: outcomes) later last) (ho : o.place? workdir = some place)
    (hplace : later.find? place ≠ some .directory)
    (hlast : (∀ o ∈ outcomes, o.place? workdir ≠ some place) → last.find? place = some entry) :
    Pending workdir outcomes (later.set place entry) last := by
  intro names
  by_cases hnames : names = place
  · subst hnames
    by_cases hagain : ∃ o ∈ outcomes, o.place? workdir = some names
    · exact .inr hagain
    · left
      rw [FileTree.find?_set_self hplace]
      exact (hlast fun o ho heq => hagain ⟨o, ho, heq⟩).symm
  · rw [FileTree.find?_set_of_ne hnames]
    obtain hfound | ⟨o', ho', hplace'⟩ := h names
    · exact .inl hfound
    · rcases List.mem_cons.1 ho' with rfl | ho'
      · rw [ho] at hplace'
        cases hplace'
        exact absurd rfl hnames
      · exact .inr ⟨o', ho', hplace'⟩

/-- **A run is repeated** in a tree that has grown out of the one it left, and comes to the same
entries if only its files are pending. -/
theorem produceAll_again
    (h : b.produceAll services initial dir claimed tree models = (last, outcomes))
    (hg : last.Grows later) (hpending : Pending tree.workdir outcomes later last) :
    ∃ again, b.produceAll services initial dir claimed later models = (again, outcomes) ∧
      ∀ names, again.find? names = last.find? names := by
  induction models generalizing claimed tree outcomes later with
  | nil =>
    cases h
    exact ⟨later, rfl, fun names => (hpending names).resolve_right (by simp)⟩
  | cons w models ih =>
    obtain ⟨next, o, rest, hnext, hrest, rfl⟩ := produceAll_cons_iff.1 h
    have hgrown : next.Grows later := (grows_of_produceAll hrest).trans hg
    obtain ⟨hnone, hagain⟩ | ⟨place, content, hplace, hfile, hagain⟩ := attempt_again hnext hgrown
    · have hpending' := hpending.pass hnone
      rw [← workdir_of_attempt hnext] at hpending'
      obtain ⟨again, hrun, hfound⟩ := ih hrest hg hpending'
      exact ⟨again, produceAll_cons_iff.2 ⟨later, o, rest, hagain, hrun, rfl⟩, hfound⟩
    · -- the file holds what it held after the first attempt at this model, and so it does at the
      -- end of the first run, unless a later model writes it
      have haccepts := hgrown.accepts_of_file hfile
      have hset := FileTree.grows_set_file haccepts content
      have hpending' := hpending.set hplace (FileTree.accepts_eq_true_iff.1 haccepts).1
        fun hplaces => find?_of_produceAll hrest hfile (workdir_of_attempt hnext ▸ hplaces)
      rw [← workdir_of_attempt hnext] at hpending'
      obtain ⟨again, hrun, hfound⟩ := ih hrest (hg.trans hset) hpending'
      exact ⟨again, produceAll_cons_iff.2 ⟨_, o, rest, hagain, hrun, rfl⟩, hfound⟩

/-- **Building a mix again changes nothing**: every model has the outcome it had, and under every
path there is what was there. -/
theorem rebuild_eq (b : MatrixBuilder) (services : List Service) (initial : Option String)
    (mix : BehaviorMix) (dir : String) (tree : FileTree) :
    let first := b.writeMix services initial mix dir tree
    let second := b.writeMix services initial mix dir first.1
    second.2 = first.2 ∧ ∀ names, second.1.find? names = first.1.find? names := by
  rcases hfirst : b.produceAll services initial dir [] tree mix.models with ⟨last, outcomes⟩
  obtain ⟨again, hsecond, hfound⟩ := produceAll_again hfirst (.refl last) fun _ => .inl rfl
  rw [writeMix_of_produceAll hfirst]
  dsimp only
  rw [writeMix_of_produceAll hsecond]
  exact ⟨rfl, hfound⟩

end MatrixBuilder

end LoadPlan
