import LoadPlan.Session.Graph
/-!
# Defects of session graphs

`SessionGraph.defects` lists everything that is wrong with a graph, in a fixed order: services,
then the initial state, then state by state the service, the transitions and the protocol graph.
A graph is refused for the first of them.
-/

namespace LoadPlan

namespace ProtocolGraph

/-- The targets out of range, in the order of their states. -/
def danglingTargets (g : ProtocolGraph) : List Nat :=
  (g.states.flatMap fun s => s.transitions.filterMap Target.index?).filter
    fun i => decide (g.states.length ≤ i)

/-- What is wrong with the protocol graph of a session state. A graph without states needs no
initial one. -/
def defects (session : Nat) (g : ProtocolGraph) : List ModelError :=
  if g.states.isEmpty then []
  else
    (match g.initial with
      | none => [.noProtocolInitial session]
      | some i => if i < g.states.length then [] else [.protocolStateNotFound session i]) ++
    g.danglingTargets.map (.protocolStateNotFound session)

end ProtocolGraph

namespace SessionTransition

/-- What is wrong with a transition stored on the state `owner` of a graph with `n` states. -/
def defects (n owner : Nat) (t : SessionTransition) : List ModelError :=
  (if t.source = owner then [] else [.sourceMismatch owner t.source]) ++
  (match t.target with
    | .state i => if i < n then [] else [.sessionStateNotFound i]
    | .exit => [])

end SessionTransition

namespace SessionGraph

/-- The ids that an earlier service has; `seen` holds the ids before the list. -/
def repeatedIds (seen : List String) : List Service → List String
  | [] => []
  | s :: rest => if s.id ∈ seen then s.id :: repeatedIds seen rest else repeatedIds (s.id :: seen) rest

/-- What is wrong with the state `owner`. -/
def stateDefects (g : SessionGraph) (owner : Nat) (s : SessionState) : List ModelError :=
  (if (g.service? s.service).isSome then [] else [.serviceNotFound s.service]) ++
  s.transitions.flatMap (SessionTransition.defects g.states.length owner) ++
  s.protocol.defects owner

/-- Everything that is wrong with a graph. -/
def defects (g : SessionGraph) : List ModelError :=
  (if g.services.isEmpty then [.noServices] else []) ++
  (repeatedIds [] g.services).map .duplicateService ++
  (match g.initial with
    | none => [.noInitialState]
    | some i => if i < g.states.length then [] else [.sessionStateNotFound i]) ++
  g.states.zipIdx.flatMap fun (s, i) => g.stateDefects i s

/-- Refuse a graph for its first defect. -/
def validate (g : SessionGraph) : Except ModelError Unit :=
  match g.defects with
  | [] => .ok ()
  | e :: _ => .error e

end SessionGraph

end LoadPlan
