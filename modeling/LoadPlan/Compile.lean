import LoadPlan.Config
import LoadPlan.Json.Plan
import LoadPlan.Json.Printer
import LoadPlan.Lowering.Session
import LoadPlan.Model
/-!
# Compiling load models

A `Compiler` takes a load model through validation, lowering and the writing of its matrices.
Whatever can refuse the model as a whole comes first; once a matrix is written there is a plan,
and failing matrices are left to the report.
-/

namespace LoadPlan

/-- What tells a plan from every other: its id, and when it was made. -/
structure Stamp where
  id : String
  time : Timestamp

/-- A configuration, and what transforms requests and writes matrices. -/
structure Compiler where
  config : Config
  transformers : Transformers
  matrices : MatrixBuilder

/-- A plan, and what became of the matrices. -/
structure Artifact where
  plan : Plan
  report : MixReport

namespace Compiler

/-- The compiler of a configuration and registries. -/
def ofRegistries (config : Config) (transformers : Transformers) (formatters : Formatters) :
    Compiler :=
  ⟨config, transformers, ⟨config.matrix, formatters⟩⟩

/-- The standard configuration with everything built in. -/
def standard : Compiler := ofRegistries .standard .builtIn .builtIn

instance : Inhabited Compiler := ⟨standard⟩

variable (c : Compiler)

/-- The plan of a model, without a mix. -/
def lower (stamp : Stamp) (m : LoadModel) : Except CompileError Plan := do
  m.validate.mapError .model
  let s ← m.session.lower c.transformers c.config.plan.guardNegation
  return ⟨stamp.id, m.name, stamp.time, s.initial, s.nodes, [], s.warnings⟩

/-- The plan of a model that the configuration allows, without a mix. -/
def prepare (stamp : Stamp) (m : LoadModel) : Except CompileError Plan := do
  c.config.validate
  c.lower stamp m

/-- Make the plan of a model and write its matrices. -/
def compile (stamp : Stamp) (m : LoadModel) (tree : FileTree) :
    FileTree × Except CompileError Artifact :=
  match c.prepare stamp m with
  | .error e => (tree, .error e)
  | .ok plan =>
    let initial := m.session.initialService?.map (·.id)
    let (tree, report) :=
      c.matrices.writeMix m.session.services initial m.mix c.config.outputDir tree
    (tree, .ok ⟨{ plan with mix := report.entries }, report⟩)

end Compiler

/-- Write a plan as a JSON document. -/
def Plan.save (p : Plan) (path : String) (tree : FileTree) : FileTree × Except CompileError Unit :=
  match tree.save path (Json.ofPlan Json.float p).pretty.toUTF8 with
  | (tree, true) => (tree, .ok ())
  | (tree, false) => (tree, .error (.planUnwritable path))

/-- Make the plan of a model, write its matrices, and write the plan. -/
def Compiler.compileInto (c : Compiler) (stamp : Stamp) (m : LoadModel) (path : String)
    (tree : FileTree) : FileTree × Except CompileError Artifact :=
  match c.compile stamp m tree with
  | (tree, .error e) => (tree, .error e)
  | (tree, .ok artifact) =>
    match artifact.plan.save path tree with
    | (tree, .error e) => (tree, .error e)
    | (tree, .ok ()) => (tree, .ok artifact)

end LoadPlan
