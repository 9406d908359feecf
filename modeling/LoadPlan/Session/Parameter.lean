/-!
# Guards and actions

A session transition is taken while its guards hold and then runs its actions. Both speak of
parameters: named booleans and counters of the session.
-/

namespace LoadPlan

/-- What values a parameter has. -/
inductive ParameterKind where
  | boolean | integer
deriving DecidableEq

/-- A named variable of the session. A counter may name the service whose entry raises it and
the service whose leaving lowers it. -/
structure Parameter where
  name : String
  kind : ParameterKind
  /-- Name of the service that lowers the counter when it is left. -/
  source : Option String
  /-- Name of the service that raises the counter when it is entered. -/
  target : Option String
deriving DecidableEq

/-- A condition on a parameter. -/
structure Guard where
  parameter : Parameter
  negate : Bool
deriving DecidableEq

/-- An update of a parameter. -/
structure Action where
  parameter : Parameter
deriving DecidableEq

end LoadPlan
