/-!
# Where a transition leads

Session, protocol and Markov transitions lead to a state of their own graph, given by its
index, or out of it.
-/

namespace LoadPlan

/-- Where a transition leads. -/
inductive Target where
  /-- To the state with this index. -/
  | state (index : Nat)
  /-- Out of the graph. -/
  | exit
deriving DecidableEq

namespace Target

/-- The index of a state target. -/
def index? : Target → Option Nat
  | .state i => some i
  | .exit => none

/-- Is the target an exit, or a state of a graph with `n` states? -/
def inRange (n : Nat) : Target → Bool
  | .state i => i < n
  | .exit => true

end Target

end LoadPlan
