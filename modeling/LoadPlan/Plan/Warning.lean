/-!
# Warnings

What lowering has left out of the plan.
-/

namespace LoadPlan

/-- What lowering has left out. -/
inductive Warning where
  /-- A protocol state has several transitions; only the first is followed. -/
  | nonLinearProtocol (service request : String) (branches : Nat)
  /-- A session state has several transitions to one state; only the first is kept. -/
  | duplicateTransition (source target : String)
deriving DecidableEq

namespace Warning

/-- The wording of a warning. -/
def message : Warning → String
  | nonLinearProtocol service request branches =>
    "request '" ++ request ++ "' in service '" ++ service ++ "' has " ++ toString branches ++
      " outgoing transitions; following the first"
  | duplicateTransition source target =>
    "duplicate transition '" ++ source ++ "' -> '" ++ target ++ "'; keeping the first"

end Warning

end LoadPlan
