import LoadPlan.Lowering.Expression
/-!
# What guards and actions mean

A session carries variables: flags that are set, counters that go up and down. A guard asks for
one of them and an action changes one. Texts play no part here; they are read in
`LoadPlan.Proofs.Lowering.Reading`.
-/

namespace LoadPlan

/-- The variables of a session. Flags and counters are told apart, whatever their names. -/
structure Store where
  flag : String → Bool
  counter : String → Int

namespace Store

/-- A flag is set. -/
def set (σ : Store) (x : String) : Store :=
  { σ with flag := fun y => if y = x then true else σ.flag y }

/-- A counter is moved by a difference. -/
def add (σ : Store) (x : String) (d : Int) : Store :=
  { σ with counter := fun y => if y = x then σ.counter y + d else σ.counter y }

end Store

namespace Guard

/-- The value that a boolean guard asks for. The usual convention asks for it the other way
round: a guard that is not negated is held by a flag that is not set. -/
def asks (convention : GuardNegation) (g : Guard) : Bool :=
  match convention with
  | .prefixUnnegated => g.negate
  | .prefixNegated => !g.negate

/-- **A guard holds**: its flag has the value it asks for, or its counter is positive. -/
def Holds (convention : GuardNegation) (σ : Store) (g : Guard) : Prop :=
  match g.parameter.kind with
  | .boolean => σ.flag g.parameter.name = g.asks convention
  | .integer => 0 < σ.counter g.parameter.name

end Guard

namespace Action

/-- **What an action does** on the way from one service to another: it sets its flag, or moves
its counter up when its target is entered, else down when its source is left. -/
def run (source target : String) (σ : Store) (a : Action) : Store :=
  match a.parameter.kind with
  | .boolean => σ.set a.parameter.name
  | .integer =>
    if a.parameter.target = some target then σ.add a.parameter.name 1
    else if a.parameter.source = some source then σ.add a.parameter.name (-1)
    else σ

/-- Actions are done in their order. -/
def runAll (source target : String) (actions : List Action) (σ : Store) : Store :=
  actions.foldl (run source target) σ

end Action

end LoadPlan
