import LoadPlan.Config
import LoadPlan.Document.Model
/-!
# Documents of configurations

How a configuration is read from any source. Everything in it has a default.
-/

namespace LoadPlan.Document

variable {σ : Type} [Source σ]

open Source (record?)

/-- A single character. -/
def char? (x : σ) : Reading Char := do
  match (← text? x).toList with
  | [c] => return c
  | _ => failure

/-- Which boolean guards are marked. -/
def guardNegation? (x : σ) : Reading GuardNegation := do
  match ← unitVariant? ["prefix_unnegated", "prefix_negated"] x with
  | "prefix_unnegated" => return .prefixUnnegated
  | "prefix_negated" => return .prefixNegated
  | _ => failure

/-- How plans are written. -/
def planConfig? (x : σ) : Reading PlanConfig := do
  let r ← record? ["guard_negation"] x
  return ⟨← r.defaulted "guard_negation" .prefixUnnegated guardNegation?⟩

/-- How matrices are laid out. -/
def matrixConfig? (x : σ) : Reading MatrixConfig := do
  let r ← record? ["delimiter", "exit_marker", "initial_marker"] x
  let d := MatrixConfig.standard
  return ⟨← r.defaulted "delimiter" d.delimiter char?,
    ← r.defaulted "exit_marker" d.exitMarker text?,
    ← r.defaulted "initial_marker" d.initialMarker text?⟩

/-- What is logged. -/
def loggingConfig? (x : σ) : Reading LoggingConfig := do
  let r ← record? ["level", "json", "timestamps"] x
  let d := LoggingConfig.standard
  return ⟨← r.defaulted "level" d.level text?, ← r.defaulted "json" d.json bool?,
    ← r.defaulted "timestamps" d.timestamps bool?⟩

/-- The whole configuration. -/
def config? (x : σ) : Reading Config := do
  let r ← record? ["output_dir", "plan", "matrix", "logging"] x
  let d := Config.standard
  return ⟨← r.defaulted "output_dir" d.outputDir text?, ← r.defaulted "plan" d.plan planConfig?,
    ← r.defaulted "matrix" d.matrix matrixConfig?,
    ← r.defaulted "logging" d.logging loggingConfig?⟩

end LoadPlan.Document
