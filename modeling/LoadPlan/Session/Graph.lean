import LoadPlan.Protocol.Graph
import LoadPlan.Service
import LoadPlan.Session.Parameter
/-!
# Session graphs

The state machine of a user session. Each state sits in one service and owns the protocol graph
of the requests issued there; transitions carry guards and actions.

Operations that build a graph refuse services and states it does not have. `pushService` and
`pushTransition` do not look.
-/

namespace LoadPlan

/-- A transition, with the index of the state it starts from. -/
structure SessionTransition where
  source : Nat
  target : Target
  guards : List Guard
  actions : List Action
deriving DecidableEq

/-- A state: where the user is, what is requested there, where to go. -/
structure SessionState where
  /-- Id of the service. -/
  service : String
  protocol : ProtocolGraph
  transitions : List SessionTransition

/-- The services, the states of the session and the index of the initial one. -/
structure SessionGraph where
  services : List Service
  states : List SessionState
  initial : Option Nat

namespace SessionGraph

/-- Neither services nor states. -/
def empty : SessionGraph := ⟨[], [], none⟩

instance : Inhabited SessionGraph := ⟨empty⟩

variable (g : SessionGraph)

/-- The state with an index. -/
def state? (i : Nat) : Option SessionState := g.states[i]?

/-- The service with an id. -/
def service? (id : String) : Option Service := Service.find? g.services id

/-- The service of a state. -/
def serviceOf? (i : Nat) : Option Service := (g.state? i).bind fun s => g.service? s.service

/-- The state the session starts in. -/
def initialState? : Option SessionState := g.initial.bind g.state?

/-- The service the session starts in. -/
def initialService? : Option Service := g.initial.bind g.serviceOf?

/-- How many transitions the states have. -/
def transitionCount : Nat := (g.states.map fun s => s.transitions.length).foldr (· + ·) 0

/-- Add a service whatever its id. -/
def pushService (s : Service) : SessionGraph := { g with services := g.services ++ [s] }

/-- Add a service with a new id. -/
def addService (s : Service) : Except ModelError SessionGraph :=
  if (g.service? s.id).isSome then .error (.duplicateService s.id) else .ok (g.pushService s)

/-- Add a state in one of the services, and the index it has. The first state becomes the
initial one. -/
def addState (service : String) (protocol : ProtocolGraph) :
    Except ModelError (SessionGraph × Nat) :=
  if (g.service? service).isSome then
    .ok ({ g with
      states := g.states ++ [⟨service, protocol, []⟩]
      initial := some (g.initial.getD g.states.length) }, g.states.length)
  else .error (.serviceNotFound service)

/-- Start in another state. -/
def setInitial (i : Nat) : Except ModelError SessionGraph :=
  if i < g.states.length then .ok { g with initial := some i }
  else .error (.sessionStateNotFound i)

/-- Store a transition on a state whatever its source and target. -/
def pushTransition (owner : Nat) (t : SessionTransition) : SessionGraph :=
  { g with states := g.states.modify owner fun s =>
      { s with transitions := s.transitions ++ [t] } }

/-- Add a transition between states of the graph. A missing target is reported before a
missing source. -/
def addTransition (t : SessionTransition) : Except ModelError SessionGraph :=
  match t.target with
  | .state i =>
    if i < g.states.length then
      if t.source < g.states.length then .ok (g.pushTransition t.source t)
      else .error (.sessionStateNotFound t.source)
    else .error (.sessionStateNotFound i)
  | .exit =>
    if t.source < g.states.length then .ok (g.pushTransition t.source t)
    else .error (.sessionStateNotFound t.source)

end SessionGraph

end LoadPlan
