import LoadPlan.Compile
import LoadPlan.Document.ConfigLoading
import LoadPlan.Document.Loading
import LoadPlan.Document.Plan
import LoadPlan.Logging.Filter
import LoadPlan.Proofs.Compile.Agreement
import LoadPlan.Proofs.Json.Models
import LoadPlan.Proofs.Lowering.Effects
import LoadPlan.Proofs.Lowering.FirstEntries
import LoadPlan.Proofs.Lowering.Polarity
import LoadPlan.Proofs.Matrix.Decoding
import LoadPlan.Proofs.Matrix.Fractions
import LoadPlan.Proofs.Matrix.Refusal
import LoadPlan.Proofs.Matrix.Renumbering
import LoadPlan.Proofs.Matrix.RowBound
import LoadPlan.Proofs.Matrix.Shape
import LoadPlan.Proofs.Mix.Accounting
import LoadPlan.Proofs.Mix.Containment
import LoadPlan.Proofs.Mix.Isolation
import LoadPlan.Proofs.Mix.Rebuilding
import LoadPlan.Proofs.Plan.ReadBack
import LoadPlan.Proofs.Protocol.Linear
import LoadPlan.Proofs.Session.Builders
import LoadPlan.Proofs.Session.Defects
import LoadPlan.Proofs.Session.Findings
import LoadPlan.Proofs.Session.Preorder
import LoadPlan.Proofs.Session.Renumbering
import LoadPlan.Proofs.Session.Simulation
