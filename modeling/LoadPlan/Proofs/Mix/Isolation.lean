import LoadPlan.Proofs.Files.Leftovers
import LoadPlan.Proofs.Matrix.Refusal
import LoadPlan.Proofs.Mix.Attempt
/-!
# What a failed model does to the others

A model that fails leaves two things behind: its file name stays claimed, and directories that
were made before its file could not be written stay in the tree. The others come to what they come
to without it, unless one of them runs into either. `MatrixBuilder.undisturbed_iff` says so
exactly, by comparing two runs over one mix, with the failed model and without it;
`MatrixBuilder.clear_of_components` tells from the file names that no directory is in the way, and
then the claims decide alone (`MatrixBuilder.stands_alone_iff`).
-/

namespace LoadPlan

namespace BehaviorMix

variable (mix : BehaviorMix) (k : ℕ)

/-- The first `k` models of the mix. -/
def upTo : BehaviorMix := ⟨mix.models.take k⟩

/-- The models behind number `k`. -/
def behind : BehaviorMix := ⟨mix.models.drop (k + 1)⟩

/-- The mix without its model number `k`. -/
def without : BehaviorMix := ⟨mix.models.eraseIdx k⟩

/-- The file names of the mix. -/
def filenames : List String := mix.models.map (·.model.filename)

end BehaviorMix

namespace MatrixBuilder

open FileTree

variable {b : MatrixBuilder} {services : List Service} {initial : Option String} {dir : String}
  {claimed claimed' : List String} {tree wide next last last' : FileTree} {w : WeightedModel}
  {models : List WeightedModel} {o : MixOutcome} {outcomes outcomes' : List MixOutcome}

/-! ## Claimed names -/

/-- A model whose name is claimed fails for that. -/
theorem attempt_of_claimed (h : w.model.filename ∈ claimed) (tree : FileTree) :
    b.attempt services initial dir claimed tree w =
      (tree, .failed ⟨w.model.name, .duplicateFilename w.model.name w.model.filename⟩) :=
  attempt_of_draft_error (by rw [draft, if_pos h]) tree

/-- Another one does not. -/
theorem ne_duplicate_of_attempt (hname : w.model.filename ∉ claimed)
    (h : b.attempt services initial dir claimed tree w = (next, o)) :
    o ≠ .failed ⟨w.model.name, .duplicateFilename w.model.name w.model.filename⟩ := by
  obtain ⟨e, hdraft, -, rfl⟩ | ⟨m, done, -, -, rfl⟩ := cases_of_attempt h
  · obtain ⟨hclaimed, -⟩ | ⟨-, hbuild⟩ := draft_eq_error_iff.1 hdraft
    · exact absurd hclaimed hname
    · intro heq
      cases heq
      exact ne_duplicate_of_build_error hbuild _ _ rfl
  · cases done with
    | false => simp [saved]
    | true => simp [saved]

/-- **Whether a name is claimed shows** in the outcomes, as soon as a model has the name. -/
theorem outcomes_ne_of_claimed {name : String} (hclaimed : name ∈ claimed)
    (hfree : name ∉ claimed') (hmem : name ∈ models.map (·.model.filename))
    (h : b.produceAll services initial dir claimed wide models = (last, outcomes))
    (h' : b.produceAll services initial dir claimed' tree models = (last', outcomes')) :
    outcomes' ≠ outcomes := by
  induction models generalizing claimed claimed' tree wide outcomes outcomes' with
  | nil => cases hmem
  | cons w models ih =>
    obtain ⟨next, o, rest, hnext, hrest, rfl⟩ := produceAll_cons_iff.1 h
    obtain ⟨next', o', rest', hnext', hrest', rfl⟩ := produceAll_cons_iff.1 h'
    intro heq
    obtain ⟨rfl, hrests⟩ := List.cons.inj heq
    by_cases hname : name = w.model.filename
    · subst hname
      rw [attempt_of_claimed hclaimed] at hnext
      cases hnext
      exact ne_duplicate_of_attempt hfree hnext' rfl
    · have hmem' : name ∈ models.map (·.model.filename) :=
        (List.mem_cons.1 hmem).resolve_left hname
      exact ih (List.mem_cons_of_mem _ hclaimed)
        (List.not_mem_cons_of_ne_of_not_mem hname hfree) hmem' hrest hrest' hrests

/-! ## Runs in a tree with litter -/

variable {litter : List String → Prop}

/-- **An attempt has the same outcome in a tree with litter**, unless its file takes the place of a
piece of it. -/
theorem attempt_littered (hl : Littered litter tree wide) (hlitter : Named litter)
    (hclaims : w.model.filename ∈ claimed' ↔ w.model.filename ∈ claimed)
    (h : b.attempt services initial dir claimed' tree w = (next, o))
    (hclean : ∀ place, o.place? tree.workdir = some place → ¬ litter place) :
    ∃ next', b.attempt services initial dir claimed wide w = (next', o) ∧
      Littered litter next next' := by
  obtain ⟨e, hdraft, rfl, rfl⟩ | ⟨m, done, hdraft, hsave, rfl⟩ := cases_of_attempt h
  · rw [draft_congr hclaims] at hdraft
    exact ⟨wide, attempt_of_draft_error hdraft wide, hl⟩
  · rw [draft_congr hclaims] at hdraft
    obtain ⟨tree', wide', done', hsave', hwide, hlittered⟩ | ⟨hdone, place, hplace, hmem⟩ :=
      hl.save_cases hlitter (Path.join dir w.model.filename)
        (m.delimited b.config.delimiter).toUTF8
    · rw [hsave] at hsave'
      cases hsave'
      exact ⟨wide', attempt_of_draft hdraft hwide, hlittered⟩
    · rw [hsave] at hdone
      cases hdone
      exact absurd hmem (hclean place hplace)

/-- **A run has the same outcomes in a tree with litter**, if no file takes the place of a piece of
it and the claimed names make no difference. -/
theorem produceAll_littered (hl : Littered litter tree wide) (hlitter : Named litter)
    (hclaims : ∀ w ∈ models, w.model.filename ∈ claimed' ↔ w.model.filename ∈ claimed)
    (h : b.produceAll services initial dir claimed' tree models = (last', outcomes))
    (hclean : ∀ o ∈ outcomes, ∀ place, o.place? tree.workdir = some place → ¬ litter place) :
    ∃ last, b.produceAll services initial dir claimed wide models = (last, outcomes) ∧
      Littered litter last' last := by
  induction models generalizing claimed claimed' tree wide outcomes with
  | nil =>
    cases h
    exact ⟨wide, rfl, hl⟩
  | cons w models ih =>
    obtain ⟨next, o, rest, hnext, hrest, rfl⟩ := produceAll_cons_iff.1 h
    rw [List.forall_mem_cons] at hclaims hclean
    obtain ⟨next', hnext', hl'⟩ := attempt_littered hl hlitter hclaims.1 hnext hclean.1
    have hclaims' : ∀ v ∈ models, v.model.filename ∈ w.model.filename :: claimed' ↔
        v.model.filename ∈ w.model.filename :: claimed := by
      intro v hv
      rw [List.mem_cons, List.mem_cons, hclaims.2 v hv]
    have hclean' := hclean.2
    rw [← workdir_of_attempt hnext] at hclean'
    obtain ⟨last, hlast, hl''⟩ := ih hl' hclaims' hrest hclean'
    exact ⟨last, produceAll_cons_iff.2 ⟨next', o, rest, hnext', hlast, rfl⟩, hl''⟩

/-- What a failed attempt leaves behind is litter. -/
theorem littered_of_attempt_failed {failure : MixFailure}
    (h : b.attempt services initial dir claimed tree w = (next, .failed failure)) :
    Littered (leftover tree next) tree next ∧ Named (leftover tree next) := by
  obtain ⟨e, -, rfl, -⟩ | ⟨m, _ | _, -, hsave, ho⟩ := cases_of_attempt h
  · exact ⟨.refl (not_leftover_self next) next,
      fun names hmem => absurd hmem (not_leftover_self next names)⟩
  · exact littered_of_save_failed hsave
  · cases ho

/-- After a failed model the others come to what they come to without it, if none of them misses the
name of its file or puts its own file in the place of a directory it left over. -/
theorem resume {failure : MixFailure}
    (h : b.attempt services initial dir claimed tree w = (next, .failed failure))
    (hname : w.model.filename ∈ claimed ∨ w.model.filename ∉ models.map (·.model.filename))
    (hrest : b.produceAll services initial dir claimed tree models = (last', outcomes'))
    (hclear : ∀ o ∈ outcomes', ∀ place, o.place? tree.workdir = some place →
      ¬ leftover tree next place) :
    ∃ last, b.produceAll services initial dir (w.model.filename :: claimed) next models =
      (last, outcomes') ∧ Littered (leftover tree next) last' last := by
  obtain ⟨hl, hnamed⟩ := littered_of_attempt_failed h
  refine produceAll_littered hl hnamed (fun v hv => ?_) hrest hclear
  rw [List.mem_cons]
  refine ⟨.inr, fun hclaimed => hclaimed.elim (fun heq => ?_) id⟩
  rw [heq]
  exact hname.resolve_right fun hfree =>
    hfree (heq ▸ List.mem_map_of_mem hv)

/-- **After a failed model the others come to what they come to without it if and only if** none of
them misses the name of its file, and none puts its own file in the place of a directory it left
over. -/
theorem outcomes_eq_iff {failure : MixFailure}
    (h : b.attempt services initial dir claimed tree w = (next, .failed failure))
    (hrun : b.produceAll services initial dir (w.model.filename :: claimed) next models =
      (last, outcomes))
    (hrest : b.produceAll services initial dir claimed tree models = (last', outcomes')) :
    outcomes' = outcomes ↔
      (w.model.filename ∈ claimed ∨ w.model.filename ∉ models.map (·.model.filename)) ∧
      ∀ o ∈ outcomes', ∀ place, o.place? tree.workdir = some place →
        ¬ leftover tree next place := by
  constructor
  · rintro rfl
    refine ⟨?_, fun o ho place hplace hleft => ?_⟩
    · by_contra hmissed
      obtain ⟨hfree, hmem⟩ := not_or.1 hmissed
      exact outcomes_ne_of_claimed List.mem_cons_self hfree (not_not.1 hmem) hrun hrest rfl
    · -- the directory is still there, and so is the file
      have hdirectory := (grows_of_produceAll hrun).directories.kept _ hleft.2
      rw [← workdir_of_attempt h] at hplace
      obtain ⟨content, hfile⟩ := exists_file_of_produceAll hrun ho hplace
      rw [hdirectory] at hfile
      cases hfile
  · rintro ⟨hname, hclear⟩
    obtain ⟨last₂, hagain, -⟩ := resume h hname hrest hclear
    rw [hrun] at hagain
    cases hagain
    rfl

/-! ## One mix with the failed model and without it -/

variable {mix : BehaviorMix} {k : ℕ}

/-- **The runs over a mix with its model number `k`, which is `w`, and without it**: up to that
model they are one run, and behind it they go on with other claims in another tree. -/
structure Parted (b : MatrixBuilder) (services : List Service) (initial : Option String)
    (dir : String) (tree : FileTree) (mix : BehaviorMix) (k : ℕ) (w : WeightedModel) where
  models : mix.models = (mix.upTo k).models ++ w :: (mix.behind k).models
  /-- Before the model. -/
  mid : FileTree
  before : List MixOutcome
  start : b.produceAll services initial dir [] tree (mix.upTo k).models = (mid, before)
  /-- After it. -/
  next : FileTree
  outcome : MixOutcome
  step : b.attempt services initial dir (claims [] (mix.upTo k).models) mid w = (next, outcome)
  /-- At the end. -/
  last : FileTree
  after : List MixOutcome
  goOn : b.produceAll services initial dir (w.model.filename :: claims [] (mix.upTo k).models)
    next (mix.behind k).models = (last, after)
  /-- At the end without the model. -/
  last' : FileTree
  after' : List MixOutcome
  goOn' : b.produceAll services initial dir (claims [] (mix.upTo k).models) mid
    (mix.behind k).models = (last', after')

/-- The runs are parted at every model. -/
def parted (b : MatrixBuilder) (services : List Service) (initial : Option String) (dir : String)
    (tree : FileTree) (hw : mix.models[k]? = some w) :
    Parted b services initial dir tree mix k w where
  models := by
    obtain ⟨hk, rfl⟩ := List.getElem?_eq_some_iff.1 hw
    exact (List.take_append_drop k mix.models).symm.trans
      (by rw [BehaviorMix.upTo, BehaviorMix.behind, List.drop_eq_getElem_cons hk])
  mid := _
  before := _
  start := rfl
  next := _
  outcome := _
  step := rfl
  last := _
  after := _
  goOn := rfl
  last' := _
  after' := _
  goOn' := rfl

namespace Parted

variable (p : Parted b services initial dir tree mix k w)

theorem length_before (hw : mix.models[k]? = some w) : p.before.length = k := by
  obtain ⟨hk, -⟩ := List.getElem?_eq_some_iff.1 hw
  rw [length_of_produceAll p.start, BehaviorMix.upTo, List.length_take]
  omega

/-- The run with the model. -/
theorem writeMix_eq : b.writeMix services initial mix dir tree =
    (p.last, ⟨p.before ++ p.outcome :: p.after⟩) := by
  refine writeMix_of_produceAll ?_
  rw [p.models]
  exact produceAll_append_iff.2 ⟨p.mid, p.before, _, p.start,
    produceAll_cons_iff.2 ⟨p.next, p.outcome, p.after, p.step, p.goOn, rfl⟩, rfl⟩

/-- The run without it. -/
theorem produceAll_without : b.produceAll services initial dir [] tree (mix.without k).models =
    (p.last', p.before ++ p.after') := by
  rw [BehaviorMix.without, List.eraseIdx_eq_take_drop_succ]
  exact produceAll_append_iff.2 ⟨p.mid, p.before, p.after', p.start, p.goOn', rfl⟩

/-- The run up to the model and the one through it. -/
theorem writeMix_upTo (hw : mix.models[k]? = some w) :
    b.writeMix services initial (mix.upTo k) dir tree = (p.mid, ⟨p.before⟩) ∧
      b.writeMix services initial (mix.upTo (k + 1)) dir tree =
        (p.next, ⟨p.before ++ [p.outcome]⟩) := by
  refine ⟨writeMix_of_produceAll p.start, writeMix_of_produceAll ?_⟩
  have hmodels : (mix.upTo (k + 1)).models = (mix.upTo k).models ++ [w] := by
    rw [BehaviorMix.upTo, BehaviorMix.upTo, List.take_add_one, hw, Option.toList_some]
  rw [hmodels]
  exact produceAll_append_iff.2 ⟨p.mid, p.before, _, p.start,
    produceAll_cons_iff.2 ⟨p.next, p.outcome, [], p.step, rfl, rfl⟩, rfl⟩

end Parted

/-- **The other models come to the same** in two runs, one with model number `k` and one without it:
they have the same outcomes, and their files the same contents. -/
structure Undisturbed (k : ℕ) (run rest : FileTree × MixReport) : Prop where
  outcomes : rest.2.outcomes = run.2.outcomes.eraseIdx k
  contents : ∀ entry ∈ rest.2.entries, ∃ content,
    rest.1.read? entry.filename = some content ∧ run.1.read? entry.filename = some content

/-- The directories that the attempt at model number `k` of a mix leaves over. -/
def leftBy (b : MatrixBuilder) (services : List Service) (initial : Option String)
    (mix : BehaviorMix) (dir : String) (tree : FileTree) (k : ℕ) : List String → Prop :=
  leftover (b.writeMix services initial (mix.upTo k) dir tree).1
    (b.writeMix services initial (mix.upTo (k + 1)) dir tree).1

/-- No file of a report has the place of a piece of litter, seen from a working directory. -/
def Clear (workdir : List String) (litter : List String → Prop) (report : MixReport) : Prop :=
  ∀ o ∈ report.outcomes, ∀ place, o.place? workdir = some place → ¬ litter place

/-- Only the files behind the model matter: the ones before it are no directories left over. -/
theorem Parted.clear_iff (p : Parted b services initial dir tree mix k w)
    (hw : mix.models[k]? = some w) :
    Clear tree.workdir (b.leftBy services initial mix dir tree k)
        (b.writeMix services initial (mix.without k) dir tree).2 ↔
      ∀ o ∈ p.after', ∀ place, o.place? p.mid.workdir = some place →
        ¬ leftover p.mid p.next place := by
  obtain ⟨hupTo, hthrough⟩ := p.writeMix_upTo hw
  rw [leftBy, hupTo, hthrough, writeMix_of_produceAll p.produceAll_without,
    workdir_of_produceAll p.start]
  refine ⟨fun h o hmem => h o (List.mem_append_right _ hmem), fun h o hmem => ?_⟩
  rcases List.mem_append.1 hmem with hmem | hmem
  · intro place hplace hleft
    obtain ⟨content, hfile⟩ := exists_file_of_produceAll p.start hmem hplace
    rw [hleft.1] at hfile
    cases hfile
  · exact h o hmem

/-- **A failed model leaves the others undisturbed if and only if** none of them misses the name of
its file, and none of their files has the place of a directory it left over. -/
theorem undisturbed_iff {failure : MixFailure} (hw : mix.models[k]? = some w)
    (hfailed : (b.writeMix services initial mix dir tree).2.outcomes[k]? = some (.failed failure)) :
    Undisturbed k (b.writeMix services initial mix dir tree)
        (b.writeMix services initial (mix.without k) dir tree) ↔
      (w.model.filename ∈ (mix.upTo k).filenames ∨
        w.model.filename ∉ (mix.behind k).filenames) ∧
      Clear tree.workdir (b.leftBy services initial mix dir tree k)
        (b.writeMix services initial (mix.without k) dir tree).2 := by
  have p := parted b services initial dir tree hw
  have hrest := p.produceAll_without
  have hlength := p.length_before hw
  rw [p.writeMix_eq] at hfailed ⊢
  have ho : p.outcome = .failed failure := by
    simpa [← hlength] using hfailed
  have hstep := p.step
  rw [ho] at hstep
  have hsame := outcomes_eq_iff hstep p.goOn p.goOn'
  have hclaims : w.model.filename ∈ claims [] (mix.upTo k).models ↔
      w.model.filename ∈ (mix.upTo k).filenames := by
    rw [mem_claims, or_iff_left List.not_mem_nil, BehaviorMix.filenames]
  rw [hclaims] at hsame
  have houtcomes : p.before ++ p.after' = (p.before ++ p.outcome :: p.after).eraseIdx k ↔
      p.after' = p.after := by
    rw [List.eraseIdx_append_of_length_le (Nat.le_of_eq hlength), hlength, Nat.sub_self,
      List.eraseIdx_cons_zero, List.append_cancel_left_eq]
  rw [p.clear_iff hw, writeMix_of_produceAll hrest]
  constructor
  · intro h
    exact hsame.1 (houtcomes.1 h.outcomes)
  · intro h
    obtain ⟨last, hlast, hl⟩ := resume hstep (h.1.imp_left hclaims.2) p.goOn' h.2
    rw [p.goOn] at hlast
    refine ⟨houtcomes.2 (hsame.2 h), fun entry he => ?_⟩
    obtain ⟨content, hread⟩ := exists_read?_of_mem hrest (MixReport.mem_entries.1 he)
    refine ⟨content, hread, ?_⟩
    rw [(Prod.mk.inj hlast).1]
    exact hl.keeps.read? hread

/-- **The names alone can tell** that no file has the place of a directory left over: no later
model's file is one of the directories that the path of the model's own file goes through. -/
theorem clear_of_components (hw : mix.models[k]? = some w)
    (hpaths : ∀ v ∈ (mix.behind k).models,
      ¬ Path.components v.model.filename <+: (Path.components w.model.filename).dropLast) :
    Clear tree.workdir (b.leftBy services initial mix dir tree k)
      (b.writeMix services initial (mix.without k) dir tree).2 := by
  have p := parted b services initial dir tree hw
  rw [p.clear_iff hw]
  intro o ho place hplace hleft
  cases o with
  | failed failure => cases hplace
  | written entry =>
    obtain ⟨j, houtcome⟩ := List.mem_iff_getElem?.1 ho
    obtain ⟨v, n, hv, hbuild, hname⟩ := exists_build_of_written p.goOn' houtcome
    obtain ⟨-, hcontained⟩ := filename_of_build hbuild
    obtain ⟨content, hread⟩ := exists_read?_of_mem p.goOn' ho
    rw [MixOutcome.place?, hname] at hplace
    rw [hname] at hread
    obtain ⟨e, -, hnext, -⟩ | ⟨m, done, hdraft, hsave, -⟩ := cases_of_attempt p.step
    · rw [hnext] at hleft
      exact not_leftover_self p.mid place hleft
    · obtain ⟨-, hcontained'⟩ := filename_of_build (draft_eq_ok_iff.1 hdraft).2
      obtain ⟨before, s, after, hway, rfl⟩ := exists_step_of_leftover hsave hleft
      rw [← workdir_of_produceAll p.goOn'] at hplace
      exact hpaths v (List.mem_of_getElem? hv)
        (prefix_of_step hcontained' hcontained hway hread hplace)

/-- **A failed model stands alone if and only if** its file name, if it was the first to have it, is
that of no later model. This is as far as file names go: directories that it left over are to be
in the place of no file. -/
theorem stands_alone_iff {failure : MixFailure} (hw : mix.models[k]? = some w)
    (hfailed : (b.writeMix services initial mix dir tree).2.outcomes[k]? = some (.failed failure))
    (hclear : Clear tree.workdir (b.leftBy services initial mix dir tree k)
      (b.writeMix services initial (mix.without k) dir tree).2) :
    Undisturbed k (b.writeMix services initial mix dir tree)
        (b.writeMix services initial (mix.without k) dir tree) ↔
      (w.model.filename ∈ (mix.upTo k).filenames ∨
        w.model.filename ∉ (mix.behind k).filenames) :=
  (undisturbed_iff hw hfailed).trans (and_iff_left hclear)

/-- A model like `brief`, with think times that no built-in formatter knows. -/
def erratic (name filename : String) : WeightedModel :=
  ⟨1.0, name, filename, [⟨"a", [⟨1.0, .exit, .extension "pareto"⟩]⟩], some 0⟩

/-- An erratic model among others, each with a file name of its own. -/
def company : BehaviorMix :=
  ⟨[brief "first" "x/m.csv" 0.25, erratic "second" "x/n.csv", brief "third" "n.csv" 0.75]⟩

/-- The erratic model fails, and the others are written as they are without it, here in a directory
outside the working directory. -/
theorem stands_alone_company :
    Undisturbed 1 (standard.writeMix [⟨"a", "A"⟩] none company "/srv/out" (.fresh ["home"]))
      (standard.writeMix [⟨"a", "A"⟩] none (company.without 1) "/srv/out" (.fresh ["home"])) := by
  have hw : company.models[1]? = some (erratic "second" "x/n.csv") := rfl
  have hfailed : ((standard.writeMix [⟨"a", "A"⟩] none company "/srv/out"
      (.fresh ["home"])).2.outcomes.map
        fun | .failed f => some f.model | .written _ => none)[1]? = some (some "second") := by
    decide +kernel
  rw [List.getElem?_map, Option.map_eq_some_iff] at hfailed
  obtain ⟨o, ho, hmodel⟩ := hfailed
  have hpaths : ∀ v ∈ (company.behind 1).models, ¬ Path.components v.model.filename <+:
      (Path.components (erratic "second" "x/n.csv").model.filename).dropLast := by
    decide +kernel
  cases o with
  | failed failure =>
    exact (stands_alone_iff hw ho (clear_of_components hw hpaths)).2 (by decide +kernel)
  | written entry => cases hmodel

/-- Two models of one file name, the first of them erratic. -/
def heirs : BehaviorMix := ⟨[erratic "first" "m.csv", brief "second" "m.csv" 0.25]⟩

/-- The first path leads through the file of the second one, and to no file itself. -/
def neighbors : BehaviorMix := ⟨[brief "first" "x/y/" 0.25, brief "second" "x" 0.75]⟩

/-- **The failure of one model becomes that of another**: of the next one with its file name, and of
one whose file has the place of a directory left over. -/
theorem disturbed_heirs :
    (standard.writeMix [⟨"a", "A"⟩] none heirs "out" .empty).2.failedModels =
      ["first", "second"] ∧
    ¬ Undisturbed 0 (standard.writeMix [⟨"a", "A"⟩] none heirs "out" .empty)
      (standard.writeMix [⟨"a", "A"⟩] none (heirs.without 0) "out" .empty) ∧
    (standard.writeMix [⟨"a", "A"⟩] none neighbors "out" .empty).2.failedModels =
      ["first", "second"] ∧
    ¬ Undisturbed 0 (standard.writeMix [⟨"a", "A"⟩] none neighbors "out" .empty)
      (standard.writeMix [⟨"a", "A"⟩] none (neighbors.without 0) "out" .empty) := by
  refine ⟨by decide +kernel, fun h => ?_, by decide +kernel, fun h => ?_⟩
  · exact absurd (congrArg (List.map (MixOutcome.place? [])) h.outcomes) (by decide +kernel)
  · exact absurd (congrArg (List.map (MixOutcome.place? [])) h.outcomes) (by decide +kernel)

end MatrixBuilder

end LoadPlan
