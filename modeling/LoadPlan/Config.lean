import LoadPlan.CompileError
import LoadPlan.Lowering.Expression
/-!
# Configuration

Where matrices are written, how guards are spelled, how matrices are laid out and what is
logged.
-/

namespace LoadPlan

/-- How plans are written. -/
structure PlanConfig where
  guardNegation : GuardNegation
deriving DecidableEq

/-- What is logged. -/
structure LoggingConfig where
  /-- Filter of the events. -/
  level : String
  json : Bool
  timestamps : Bool
deriving DecidableEq

/-- The whole configuration. -/
structure Config where
  /-- Directory that matrices are written to. -/
  outputDir : String
  plan : PlanConfig
  matrix : MatrixConfig
  logging : LoggingConfig
deriving DecidableEq

/-- Guards that are not negated are marked. -/
def PlanConfig.standard : PlanConfig := ⟨.prefixUnnegated⟩

/-- Events of level `info` and above, as lines with a time. -/
def LoggingConfig.standard : LoggingConfig := ⟨"info", false, true⟩

namespace Config

/-- Everything standard, with the working directory as output directory. -/
def standard : Config := ⟨".", .standard, .standard, .standard⟩

instance : Inhabited Config := ⟨standard⟩

/-- Refuse a configuration for the first fault of its layout. -/
def validate (c : Config) : Except CompileError Unit := c.matrix.validate.mapError .configuration

end Config

end LoadPlan
