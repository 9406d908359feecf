import LoadPlan.Behavior.ThinkTime
import LoadPlan.Matrix.Config
import LoadPlan.ModelError
/-!
# Why a matrix is not made
-/

namespace LoadPlan

/-- Why the matrix of a behavior model is not built or not written. -/
inductive MatrixError where
  /-- No formatter knows the think time. -/
  | unknownThinkTime (model : String) (kind : ThinkTimeKind)
  /-- The initial state has no transitions to take the family of think times from. -/
  | emptyInitialState (model : String)
  | badLayout (fault : LayoutFault)
  /-- A label holds the delimiter or a line break. -/
  | unrepresentableLabel (model label : String) (delimiter : Char)
  /-- An earlier model of the mix has the same file name. -/
  | duplicateFilename (model filename : String)
  | badModel (error : ModelError)
  /-- The file cannot be written. -/
  | unwritable (model path : String)

namespace MatrixError

/-- The wording of an error. -/
def message : MatrixError → String
  | unknownThinkTime model kind =>
    "No think time formatter registered for '" ++ kind.label ++ "' (behavior model '" ++ model ++
      "')"
  | emptyInitialState model =>
    "Initial state of behavior model '" ++ model ++ "' has no outgoing transitions"
  | badLayout fault => "Invalid matrix configuration: " ++ fault.message
  | unrepresentableLabel model label delimiter =>
    "Label '" ++ label ++ "' of behavior model '" ++ model ++ "' contains the delimiter '" ++
      delimiter.toString ++ "'"
  | duplicateFilename model filename =>
    "Matrix file '" ++ filename ++ "' of behavior model '" ++ model ++
      "' is already used in this mix"
  | badModel error => "Invalid behavior model: " ++ error.message
  | unwritable model path => "Failed to write matrix of '" ++ model ++ "' to " ++ path

end MatrixError

/-- Refuse a layout for its first fault. -/
def MatrixConfig.validate (config : MatrixConfig) : Except MatrixError Unit :=
  match config.faults with
  | [] => .ok ()
  | fault :: _ => .error (.badLayout fault)

end LoadPlan
