import LoadPlan.Behavior.Model
import LoadPlan.Session.Validation
/-!
# Load models

Everything a plan is compiled from: the session graph, and the behavior mix next to it. The
behavior models are looked at one by one when their matrices are built, so that a broken one
does not spoil the whole model.
-/

namespace LoadPlan

/-- A session graph and a behavior mix over its services. -/
structure LoadModel where
  /-- Name of the plan. -/
  name : String
  session : SessionGraph
  mix : BehaviorMix

/-- Refuse a model for the first defect of its session graph. -/
def LoadModel.validate (m : LoadModel) : Except ModelError Unit := m.session.validate

end LoadPlan
