import LoadPlan.ModelError
import LoadPlan.Request
import LoadPlan.Target
/-!
# Protocol graphs

The requests issued while a user is inside a service. Every session state owns one graph; its
states carry one request each and the patterns to look for in the response.

The operations that build a graph refuse indices it does not have, so a graph made by them is
closed under its transitions.
-/

namespace LoadPlan

/-- A request, the patterns its response must match, and what may follow. -/
structure ProtocolState where
  request : Request
  assertions : List String
  transitions : List Target

namespace ProtocolState

/-- A state without assertions and transitions. -/
def ofRequest (request : Request) : ProtocolState := ⟨request, [], []⟩

end ProtocolState

/-- The states of a protocol graph, and the index of the initial one. -/
structure ProtocolGraph where
  states : List ProtocolState
  initial : Option Nat

namespace ProtocolGraph

/-- No states. -/
def empty : ProtocolGraph := ⟨[], none⟩

instance : Inhabited ProtocolGraph := ⟨empty⟩

/-- The states of requests in a row. Each but the last leads to the next; `i` is the index of
the first. -/
def chain (i : Nat) : List Request → List ProtocolState
  | [] => []
  | [r] => [.ofRequest r]
  | r :: rest => ⟨r, [], [.state (i + 1)]⟩ :: chain (i + 1) rest

/-- The graph of requests in a row. -/
def linear (requests : List Request) : ProtocolGraph :=
  ⟨chain 0 requests, if requests.isEmpty then none else some 0⟩

/-- The graph of one request. -/
def single (request : Request) : ProtocolGraph := linear [request]

variable (g : ProtocolGraph)

/-- The state with an index. -/
def state? (i : Nat) : Option ProtocolState := g.states[i]?

/-- The state the graph starts in. -/
def initialState? : Option ProtocolState := g.initial.bind g.state?

/-- Add a state, and the index it has. The first state becomes the initial one. -/
def addState (s : ProtocolState) : ProtocolGraph × Nat :=
  (⟨g.states ++ [s], some (g.initial.getD g.states.length)⟩, g.states.length)

/-- Start in another state. -/
def setInitial (i : Nat) : Except ModelError ProtocolGraph :=
  if i < g.states.length then .ok { g with initial := some i }
  else .error (.unknownProtocolState i)

/-- Add a transition whatever its target, if there is a state to add it to. -/
def pushTransition (source : Nat) (target : Target) : ProtocolGraph :=
  { g with states := g.states.modify source fun s =>
      { s with transitions := s.transitions ++ [target] } }

/-- Add a transition between states of the graph. A missing target is reported before a
missing source. -/
def addTransition (source : Nat) (target : Target) : Except ModelError ProtocolGraph :=
  match target with
  | .state i =>
    if i < g.states.length then
      if source < g.states.length then .ok (g.pushTransition source target)
      else .error (.unknownProtocolState source)
    else .error (.unknownProtocolState i)
  | .exit =>
    if source < g.states.length then .ok (g.pushTransition source target)
    else .error (.unknownProtocolState source)

end ProtocolGraph

end LoadPlan
