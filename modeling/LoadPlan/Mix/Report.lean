import LoadPlan.Files.Tree
import LoadPlan.Matrix.Build
/-!
# Writing the matrices of a mix

The models of a mix are built and written one after another. A model that fails is reported and
the next one is tried; a file name belongs to the first model that has it, even if that one
fails.
-/

namespace LoadPlan

/-- A written matrix. -/
structure MixEntry where
  /-- Name of the model. -/
  name : String
  relativeFrequency : Float
  /-- Path of the file. -/
  filename : String

/-- A model without a matrix. -/
structure MixFailure where
  model : String
  error : MatrixError

/-- What became of one model of a mix. -/
inductive MixOutcome where
  | written (entry : MixEntry)
  | failed (failure : MixFailure)

/-- What became of the models of a mix, in their order. -/
structure MixReport where
  outcomes : List MixOutcome

namespace MixReport

variable (r : MixReport)

/-- The written matrices. -/
def entries : List MixEntry := r.outcomes.filterMap fun
  | .written e => some e
  | .failed _ => none

/-- The failed models. -/
def failures : List MixFailure := r.outcomes.filterMap fun
  | .written _ => none
  | .failed f => some f

/-- Has every model a matrix? -/
def isComplete : Bool := r.failures.isEmpty

/-- The names of the failed models. -/
def failedModels : List String := r.failures.map (·.model)

/-- The first entry of a name. -/
def entry? (name : String) : Option MixEntry := r.entries.find? fun e => e.name == name

end MixReport

namespace MatrixBuilder

variable (b : MatrixBuilder)

/-- Write a matrix below a directory. Answers the path of the file. -/
def save (m : BehaviorMatrix) (dir : String) (tree : FileTree) :
    FileTree × Except MatrixError String :=
  let path := Path.join dir m.filename
  match tree.save path (m.delimited b.config.delimiter).toUTF8 with
  | (tree, true) => (tree, .ok path)
  | (tree, false) => (tree, .error (.unwritable m.model path))

/-- Build the matrix of a model and write it. -/
def produce (services : List Service) (initial : Option String) (dir : String) (tree : FileTree)
    (model : BehaviorModel) : FileTree × Except MatrixError String :=
  match b.build services initial model with
  | .ok matrix => b.save matrix dir tree
  | .error e => (tree, .error e)

/-- What became of a weighted model. -/
def outcome (w : WeightedModel) : Except MatrixError String → MixOutcome
  | .ok path => .written ⟨w.model.name, w.relativeFrequency, path⟩
  | .error e => .failed ⟨w.model.name, e⟩

/-- Build and write the models of a list; `claimed` holds the file names before it. -/
def produceAll (services : List Service) (initial : Option String) (dir : String) :
    List String → FileTree → List WeightedModel → FileTree × List MixOutcome
  | _, tree, [] => (tree, [])
  | claimed, tree, w :: rest =>
    let (tree, result) :=
      -- a name stays claimed by a model that failed
      if w.model.filename ∈ claimed then
        (tree, .error (.duplicateFilename w.model.name w.model.filename))
      else b.produce services initial dir tree w.model
    let (tree, outcomes) := produceAll services initial dir (w.model.filename :: claimed) tree rest
    (tree, outcome w result :: outcomes)

/-- Build and write the matrices of a mix. -/
def writeMix (services : List Service) (initial : Option String) (mix : BehaviorMix) (dir : String)
    (tree : FileTree) : FileTree × MixReport :=
  let (tree, outcomes) := b.produceAll services initial dir [] tree mix.models
  (tree, ⟨outcomes⟩)

end MatrixBuilder

end LoadPlan
