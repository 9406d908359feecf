import LoadPlan.Compile
import LoadPlan.Proofs.Matrix.Refusal
import LoadPlan.Proofs.Mix.Attempt
import LoadPlan.Proofs.Session.Wiring
/-!
# All or nothing

A model is refused as a whole by the layout of matrices, by its own validation or by the lowering
of its session graph, in this order (`Compiler.Refuses`). All of that is over before a file is
touched or a plan is handed on. Once it is over, whatever happens to the matrices is left to the
report, and no matrix can fail for the layout any more (`Compiler.refused_or_compiled`).
-/

namespace LoadPlan

namespace Compiler

variable {c : Compiler} {stamp : Stamp} {m : LoadModel} {tree last : FileTree} {e : CompileError}

/-! ## The checks -/

/-- **Why a model is refused as a whole**: the first check that fails. -/
inductive Refuses (c : Compiler) (m : LoadModel) : CompileError → Prop
  /-- No matrix can be laid out. -/
  | layout {e : MatrixError} : c.config.matrix.validate = .error e → Refuses c m (.configuration e)
  /-- The model has a defect. -/
  | model {e : ModelError} : c.config.matrix.validate = .ok () → m.validate = .error e →
      Refuses c m (.model e)
  /-- The session graph cannot be lowered. -/
  | lowering {e : CompileError} : c.config.matrix.validate = .ok () → m.validate = .ok () →
      m.session.lower c.transformers c.config.plan.guardNegation = .error e → Refuses c m e

/-- **A model passes all checks**, and its session graph is lowered. -/
structure Admits (c : Compiler) (m : LoadModel) (l : LoweredSession) : Prop where
  layout : c.config.matrix.validate = .ok ()
  model : m.validate = .ok ()
  lowered : m.session.lower c.transformers c.config.plan.guardNegation = .ok l

/-- One or the other. -/
theorem exists_admits_or_refuses (c : Compiler) (m : LoadModel) :
    (∃ l, c.Admits m l) ∨ ∃ e, c.Refuses m e := by
  cases hlayout : c.config.matrix.validate with
  | error e => exact .inr ⟨_, .layout hlayout⟩
  | ok u =>
    cases hmodel : m.validate with
    | error e => exact .inr ⟨_, .model hlayout hmodel⟩
    | ok u =>
      cases hlower : m.session.lower c.transformers c.config.plan.guardNegation with
      | error e => exact .inr ⟨e, .lowering hlayout hmodel hlower⟩
      | ok l => exact .inl ⟨l, hlayout, hmodel, hlower⟩

/-- A refused model gets no plan. -/
theorem prepare_of_refuses (h : c.Refuses m e) : c.prepare stamp m = .error e := by
  cases h with
  | layout hlayout =>
    rw [prepare, bind_eq_error_iff, Config.validate, hlayout]
    exact .inl rfl
  | model hlayout hmodel =>
    have hconfig : c.config.validate = .ok () := by rw [Config.validate, hlayout]; rfl
    rw [prepare, bind_eq_error_iff, lower, bind_eq_error_iff, hmodel]
    exact .inr ⟨(), hconfig, .inl rfl⟩
  | lowering hlayout hmodel hlower =>
    have hconfig : c.config.validate = .ok () := by rw [Config.validate, hlayout]; rfl
    have hvalid : m.validate.mapError CompileError.model = .ok () := by rw [hmodel]; rfl
    rw [prepare, bind_eq_error_iff, lower, bind_eq_error_iff, bind_eq_error_iff]
    exact .inr ⟨(), hconfig, .inr ⟨(), hvalid, .inl hlower⟩⟩

/-- Another one gets the plan of its session. -/
theorem prepare_of_admits {l : LoweredSession} (h : c.Admits m l) : c.prepare stamp m =
    .ok ⟨stamp.id, m.name, stamp.time, l.initial, l.nodes, [], l.warnings⟩ := by
  have hconfig : c.config.validate = .ok () := mapError_eq_ok_iff.2 h.layout
  rw [prepare, check_bind_eq_ok_iff, lower, check_bind_eq_ok_iff, mapError_eq_ok_iff]
  exact ⟨hconfig, h.model, bind_eq_ok_iff.2 ⟨l, h.lowered, rfl⟩⟩

/-- A model that passes all checks is not refused. -/
theorem Admits.not_refuses {l : LoweredSession} (h : c.Admits m l) : ¬ c.Refuses m e := by
  intro hrefuses
  have hrefused : c.prepare ⟨"", ⟨0, 0, 0⟩⟩ m = .error e := prepare_of_refuses hrefuses
  rw [prepare_of_admits h] at hrefused
  cases hrefused

/-! ## Compiling -/

/-- **A refused model leaves the file tree alone.** -/
theorem compile_of_refuses (h : c.Refuses m e) (stamp : Stamp) (tree : FileTree) :
    c.compile stamp m tree = (tree, .error e) := by
  unfold compile
  rw [prepare_of_refuses h]

/-- **A model is compiled** if it passes all checks and its mix is written, whatever the report
says. -/
theorem compile_eq_ok_iff {artifact : Artifact} :
    c.compile stamp m tree = (last, .ok artifact) ↔ ∃ l, c.Admits m l ∧
      c.matrices.writeMix m.session.services (m.session.initialService?.map (·.id)) m.mix
        c.config.outputDir tree = (last, artifact.report) ∧
      artifact.plan = ⟨stamp.id, m.name, stamp.time, l.initial, l.nodes, artifact.report.entries,
        l.warnings⟩ := by
  obtain ⟨l, hadmits⟩ | ⟨e, hrefuses⟩ := exists_admits_or_refuses c m
  · rcases hmix : c.matrices.writeMix m.session.services
      (m.session.initialService?.map (·.id)) m.mix c.config.outputDir tree with ⟨made, report⟩
    unfold compile
    rw [prepare_of_admits hadmits]
    dsimp only
    rw [hmix]
    constructor
    · intro h
      cases h
      exact ⟨l, hadmits, rfl, rfl⟩
    · rintro ⟨l', hadmits', hmade, hplan⟩
      cases hmade
      cases hadmits.lowered.symm.trans hadmits'.lowered
      rw [← hplan]
  · rw [compile_of_refuses hrefuses]
    constructor
    · intro h
      cases h
    · rintro ⟨l, hadmits, -⟩
      exact absurd hrefuses hadmits.not_refuses

/-- **A model is refused as a whole for no other reason**, and then the file tree is left alone. -/
theorem compile_eq_error_iff :
    c.compile stamp m tree = (last, .error e) ↔ c.Refuses m e ∧ last = tree := by
  constructor
  · intro h
    obtain ⟨l, hadmits⟩ | ⟨e', hrefuses⟩ := exists_admits_or_refuses c m
    · unfold compile at h
      rw [prepare_of_admits hadmits] at h
      cases h
    · rw [compile_of_refuses hrefuses] at h
      cases h
      exact ⟨hrefuses, rfl⟩
  · rintro ⟨hrefuses, rfl⟩
    exact compile_of_refuses hrefuses stamp last

/-! ## Handing the plan on -/

/-- **Compile a model and hand its plan to a sink**, which may have a state of its own and may use
the file tree. -/
def compileTo {σ : Type} (c : Compiler)
    (sink : Plan → σ × FileTree → (σ × FileTree) × Except CompileError Unit) (stamp : Stamp)
    (m : LoadModel) (s : σ × FileTree) : (σ × FileTree) × Except CompileError Artifact :=
  match c.compile stamp m s.2 with
  | (tree, .error e) => ((s.1, tree), .error e)
  | (tree, .ok artifact) =>
    match sink artifact.plan (s.1, tree) with
    | (s, .error e) => (s, .error e)
    | (s, .ok ()) => (s, .ok artifact)

/-- The sink that writes plans to a file has no state. -/
def fileSink (path : String) (p : Plan) (s : Unit × FileTree) :
    (Unit × FileTree) × Except CompileError Unit :=
  (((), (p.save path s.2).1), (p.save path s.2).2)

/-- Compiling into a file is compiling to this sink. -/
theorem compileInto_eq_compileTo (path : String) : c.compileInto stamp m path tree =
    ((c.compileTo (fileSink path) stamp m ((), tree)).1.2,
      (c.compileTo (fileSink path) stamp m ((), tree)).2) := by
  unfold compileInto compileTo
  rcases c.compile stamp m tree with ⟨made, e | artifact⟩
  · rfl
  · rcases hsave : artifact.plan.save path made with ⟨saved, e | ⟨⟩⟩
    · simp only [fileSink, hsave]
    · simp only [fileSink, hsave]

/-- **With a refused model the sink is not called**: whatever it does, nothing has changed. -/
theorem compileTo_of_refuses (h : c.Refuses m e) {σ : Type}
    (sink : Plan → σ × FileTree → (σ × FileTree) × Except CompileError Unit) (stamp : Stamp)
    (s : σ × FileTree) : c.compileTo sink stamp m s = (s, .error e) := by
  unfold compileTo
  rw [compile_of_refuses h]

theorem compileInto_of_refuses (h : c.Refuses m e) (stamp : Stamp) (path : String)
    (tree : FileTree) : c.compileInto stamp m path tree = (tree, .error e) := by
  rw [compileInto_eq_compileTo, compileTo_of_refuses h]

end Compiler

/-! ## What is left to the report -/

/-- **With a good layout no matrix fails for the layout**: each fails for its model, a think time, a
label, its file name or its file. -/
theorem MatrixBuilder.ne_badLayout_of_writeMix {b : MatrixBuilder} {services : List Service}
    {initial : Option String} {mix : BehaviorMix} {dir : String} {tree last : FileTree}
    {report : MixReport} (hlayout : b.config.validate = .ok ())
    (h : b.writeMix services initial mix dir tree = (last, report)) {f : MixFailure}
    (hf : f ∈ report.failures) (fault : LayoutFault) : f.error ≠ .badLayout fault := by
  obtain ⟨outcomes, hrun, rfl⟩ := exists_run_of_writeMix h
  rw [MixReport.mem_failures] at hf
  obtain ⟨k, ho⟩ := List.mem_iff_getElem?.1 hf
  obtain ⟨w, claimed, tree', next, -, hattempt⟩ := exists_attempt_of_getElem? hrun ho
  obtain ⟨e, hdraft, -, hfailed⟩ | ⟨m, _ | _, -, -, hsaved⟩ := cases_of_attempt hattempt
  · obtain rfl := MixOutcome.failed.inj hfailed
    obtain ⟨-, hcase⟩ | ⟨-, hbuild⟩ := draft_eq_error_iff.1 hdraft
    · simp [hcase]
    · exact ne_badLayout_of_build_error hlayout hbuild fault
  · obtain rfl := MixOutcome.failed.inj hsaved
    simp
  · cases hsaved

namespace Compiler

/-- **A model is refused as a whole or compiled.** It is refused for the first check that fails, and
then the file tree is as before and no sink is called. If none fails, it is compiled with any mix in
any tree: the plan has the nodes, the initial one and the warnings of its session graph and the
entries of the report, and no failure in the report is one of the layout. -/
theorem refused_or_compiled (config : Config) (transformers : Transformers)
    (formatters : Formatters) (stamp : Stamp) (m : LoadModel) (tree : FileTree) :
    let c := ofRegistries config transformers formatters
    (∀ e, (∃ last, c.compile stamp m tree = (last, .error e)) ↔ c.Refuses m e) ∧
    (∀ e, c.Refuses m e → c.compile stamp m tree = (tree, .error e) ∧
      (∀ path, c.compileInto stamp m path tree = (tree, .error e)) ∧
      ∀ (σ : Type) (sink : Plan → σ × FileTree → (σ × FileTree) × Except CompileError Unit) (s : σ),
        c.compileTo sink stamp m (s, tree) = ((s, tree), .error e)) ∧
    ((∀ e, ¬ c.Refuses m e) →
      ∃ l, m.session.lower transformers config.plan.guardNegation = .ok l ∧
        ∀ (mix : BehaviorMix) (tree : FileTree), ∃ last artifact,
          c.compile stamp { m with mix := mix } tree = (last, .ok artifact) ∧
          artifact.plan.initial = l.initial ∧ artifact.plan.nodes = l.nodes ∧
          artifact.plan.warnings = l.warnings ∧ artifact.plan.mix = artifact.report.entries ∧
          ∀ f ∈ artifact.report.failures, ∀ fault, f.error ≠ .badLayout fault) := by
  intro c
  refine ⟨fun e => ⟨?_, fun h => ⟨tree, compile_of_refuses h stamp tree⟩⟩, fun e h =>
    ⟨compile_of_refuses h stamp tree, fun path => compileInto_of_refuses h stamp path tree,
      fun σ sink s => compileTo_of_refuses h sink stamp (s, tree)⟩, fun hnone => ?_⟩
  · rintro ⟨last, h⟩
    exact (compile_eq_error_iff.1 h).1
  · obtain ⟨l, hadmits⟩ | ⟨e, hrefuses⟩ := exists_admits_or_refuses c m
    · refine ⟨l, hadmits.lowered, fun mix tree => ?_⟩
      -- the mix has no part in the checks
      have hadmits' : c.Admits { m with mix := mix } l :=
        ⟨hadmits.layout, hadmits.model, hadmits.lowered⟩
      rcases hmix : c.matrices.writeMix m.session.services
        (m.session.initialService?.map (·.id)) mix c.config.outputDir tree with ⟨last, report⟩
      refine ⟨last, ⟨⟨stamp.id, m.name, stamp.time, l.initial, l.nodes, report.entries, l.warnings⟩,
        report⟩, compile_eq_ok_iff.2 ⟨l, hadmits', hmix, rfl⟩, rfl, rfl, rfl, rfl,
        fun f hf fault => ?_⟩
      have hlayout : c.matrices.config.validate = .ok () := hadmits.layout
      exact MatrixBuilder.ne_badLayout_of_writeMix hlayout hmix hf fault
    · exact absurd hrefuses (hnone e)

/-- Users of the shuttle who get out at once. -/
def ride : LoadModel :=
  ⟨"ride", SessionGraph.shuttle,
    ⟨[⟨1.0, "rider", "rider.csv", [⟨"A", [⟨1.0, .exit, .normal 1.0 1.0⟩]⟩], some 0⟩]⟩⟩

/-- Made at midnight. -/
def rideStamp : Stamp := ⟨"ride-1", ⟨20000, 0, 0⟩⟩

theorem admits_ride : standard.Admits ride SessionGraph.shuttlePlan := by
  have hlower : SessionGraph.shuttle.lower .builtIn .prefixUnnegated =
      .ok SessionGraph.shuttlePlan := by cbv
  exact ⟨rfl, rfl, hlower⟩

/-- A configuration whose delimiter occurs in every cell. -/
def cramped : Config := { Config.standard with matrix := ⟨';', "$", "*"⟩ }

/-- **The ride is refused for the delimiter**, and compiled with the standard one. -/
theorem refused_or_compiled_ride :
    (ofRegistries cramped .builtIn .builtIn).compile rideStamp ride .empty =
      (.empty, .error (.configuration (.badLayout (.delimiterInCell ';')))) ∧
    ∃ last artifact, standard.compile rideStamp ride .empty = (last, .ok artifact) ∧
      artifact.plan.nodes = SessionGraph.shuttlePlan.nodes := by
  obtain ⟨-, hrefused, -⟩ := refused_or_compiled cramped .builtIn .builtIn rideStamp ride .empty
  obtain ⟨-, -, hcompiled⟩ :=
    refused_or_compiled .standard .builtIn .builtIn rideStamp ride .empty
  refine ⟨(hrefused _ (.layout rfl)).1, ?_⟩
  obtain ⟨l, hlower, hall⟩ := hcompiled fun e => admits_ride.not_refuses
  obtain ⟨last, artifact, hcompile, -, hnodes, -⟩ := hall ride.mix .empty
  cases admits_ride.lowered.symm.trans hlower
  exact ⟨last, artifact, hcompile, hnodes⟩

end Compiler

end LoadPlan
