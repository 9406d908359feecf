import LoadPlan.Behavior.Validation
import LoadPlan.Matrix.Error
import LoadPlan.Matrix.Formatter
import LoadPlan.Matrix.Table
/-!
# Building matrices

The row of a service shows how the model's first state of that service is left: for every
service, and for the exit, the first transition that leads there. The first transition of the
initial state decides which formatter writes the think times of the whole matrix.
-/

namespace LoadPlan

/-- What a column of a matrix stands for. -/
inductive Column where
  | service (id : String)
  | exit
deriving DecidableEq

namespace Column

/-- The columns of a matrix over some services. -/
def all (services : List Service) : List Column := services.map (fun s => .service s.id) ++ [.exit]

/-- Does a target of the model lead into the column? -/
def matchesTarget (column : Column) (model : BehaviorModel) (target : Target) : Bool :=
  match column with
  | .service id => model.targetService? target == some id
  | .exit => target == .exit

end Column

/-- The first transition of a state that leads into a column. -/
def MarkovState.transitionInto? (state : MarkovState) (model : BehaviorModel) (column : Column) :
    Option MarkovTransition :=
  state.transitions.find? fun t => column.matchesTarget model t.target

/-- A layout and the formatters to fill it with. -/
structure MatrixBuilder where
  config : MatrixConfig
  formatters : Formatters

namespace MatrixBuilder

/-- The standard layout and the built-in formatters. -/
def standard : MatrixBuilder := ⟨.standard, .builtIn⟩

instance : Inhabited MatrixBuilder := ⟨standard⟩

variable (b : MatrixBuilder)

/-- The label of a service. The initial service is marked. -/
def label (initial : Option String) (s : Service) : String :=
  if initial = some s.id then s.name ++ b.config.initialMarker else s.name

/-- The formatter for the first transition of the initial state. -/
def formatterFor (model : BehaviorModel) : Except MatrixError Formatter :=
  match model.initialState?.bind fun s => s.transitions.head? with
  | none => .error (.emptyInitialState model.name)
  | some t =>
    match b.formatters.get? t.thinkTime.kind with
    | none => .error (.unknownThinkTime model.name t.thinkTime.kind)
    | some f => .ok f

/-- Refuse the first label that would break its line. -/
def checkLabels (model : BehaviorModel) (labels : List String) : Except MatrixError Unit :=
  match labels.find? (breaksLine b.config.delimiter) with
  | none => .ok ()
  | some label => .error (.unrepresentableLabel model.name label b.config.delimiter)

/-- The cell of a transition, or of none. -/
def cell (model : BehaviorModel) (f : Formatter) :
    Option MarkovTransition → Except MatrixError String
  | none => .ok (Cell.write 0.0 f.default)
  | some t =>
    match f.format t.thinkTime with
    | none => .error (.unknownThinkTime model.name t.thinkTime.kind)
    | some text => .ok (Cell.write t.probability text)

/-- The row of a service, label first. -/
def row (services : List Service) (initial : Option String) (model : BehaviorModel) (f : Formatter)
    (s : Service) : Except MatrixError (List String) := do
  let state := model.stateForService? s.id
  let cells ← (Column.all services).mapM fun column =>
    cell model f (state.bind fun st => st.transitionInto? model column)
  return b.label initial s :: cells

/-- The labels of all columns. -/
def headerRow (services : List Service) (initial : Option String) : List String :=
  "" :: services.map (b.label initial) ++ [b.config.exitMarker]

/-- The matrix of a model over some services, one of which may be marked as initial. -/
def build (services : List Service) (initial : Option String) (model : BehaviorModel) :
    Except MatrixError BehaviorMatrix := do
  b.config.validate
  (model.validate services).mapError .badModel
  -- a valid model has an initial state, but that state may lead nowhere
  let f ← b.formatterFor model
  b.checkLabels model (services.map (b.label initial))
  let rows ← services.mapM (b.row services initial model f)
  return ⟨model.name, model.filename, b.headerRow services initial :: rows⟩

end MatrixBuilder

end LoadPlan
