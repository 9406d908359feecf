import LoadPlan.Session.Parameter
/-!
# Guards and actions as texts

Guards become a conjunction that is evaluated before a transition is taken, actions a sequence
of assignments that is run after it.
-/

namespace LoadPlan

/-- Which boolean guards are written with an exclamation mark. -/
inductive GuardNegation where
  /-- Those that are not negated. -/
  | prefixUnnegated
  /-- Those that are negated. -/
  | prefixNegated
deriving DecidableEq

namespace GuardNegation

/-- Is a boolean guard written with an exclamation mark? -/
def marks (convention : GuardNegation) (negate : Bool) : Bool :=
  match convention with
  | prefixUnnegated => !negate
  | prefixNegated => negate

end GuardNegation

namespace Guard

/-- One term of a conjunction. A counter is compared with zero, negated or not. -/
def term (convention : GuardNegation) (g : Guard) : String :=
  match g.parameter.kind with
  | .boolean => if convention.marks g.negate then "!" ++ g.parameter.name else g.parameter.name
  | .integer => g.parameter.name ++ " > 0"

/-- The conjunction of guards. -/
def expression (convention : GuardNegation) (guards : List Guard) : String :=
  " && ".intercalate (guards.map (term convention))

end Guard

namespace Action

/-- The assignment of an action between two services. A boolean is set; a counter goes up at its
target, else down at its source, else nothing is assigned. -/
def term? (source target : String) (a : Action) : Option String :=
  let name := a.parameter.name
  match a.parameter.kind with
  | .boolean => some (name ++ "=true")
  | .integer =>
    if a.parameter.target = some target then some (name ++ "=" ++ name ++ "+1")
    else if a.parameter.source = some source then some (name ++ "=" ++ name ++ "-1")
    else none

/-- The assignments of actions between two services. -/
def expression (source target : String) (actions : List Action) : String :=
  "; ".intercalate (actions.filterMap (term? source target))

end Action

end LoadPlan
