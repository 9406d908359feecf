import LoadPlan.Matrix.Error
import LoadPlan.Request
/-!
# Why nothing is compiled

A plan is made as a whole or not at all. Failures of single matrices are no reason: they are
reported with the mix.
-/

namespace LoadPlan

/-- Why no plan is made, no configuration read, or no logging set up. -/
inductive CompileError where
  /-- No transformer knows the request. -/
  | unknownRequestType (request : String) (kind : RequestTag)
  | invalidRequest (request reason : String)
  | model (error : ModelError)
  /-- The configuration is well formed, but cannot be used. -/
  | configuration (error : MatrixError)
  /-- The configuration file is missing, no file, or no text. -/
  | configUnreadable (path : String)
  /-- The configuration is not well formed. -/
  | configMalformed
  /-- The plan file cannot be written. -/
  | planUnwritable (path : String)
  /-- The log level is no filter. -/
  | badLogLevel (level : String)
  /-- Logging was set up before. -/
  | loggingInUse

namespace CompileError

/-- The wording of an error. -/
def message : CompileError → String
  | unknownRequestType request kind =>
    "Unknown request type '" ++ kind.label ++ "' for request '" ++ request ++ "'"
  | invalidRequest request reason => "Invalid request '" ++ request ++ "': " ++ reason
  | model error => "Model error: " ++ error.message
  | configuration error => "Configuration error: " ++ error.message
  | configUnreadable path => "Configuration error: cannot read " ++ path
  | configMalformed => "Configuration parse error"
  | planUnwritable path => "Failed to write plan to " ++ path
  | badLogLevel level => "Logging initialization failed: invalid level '" ++ level ++ "'"
  | loggingInUse => "Logging initialization failed"

end CompileError

end LoadPlan
