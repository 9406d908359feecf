import LoadPlan.Lowering.Expression
import LoadPlan.Lowering.Protocol
import LoadPlan.Lowering.Table
import LoadPlan.Session.Graph
/-!
# Lowering session graphs

A walk over the graph visits every state that can be reached, each once, and gives it the next
node of the plan. `SessionGraph.visits` keeps the states still to come on a stack, the first
transition's target on top, so nodes are in depth-first order. Then the transitions are wired:
each becomes an enabled entry, unless an earlier one leads to the same node.
-/

namespace LoadPlan

/-- A state that the walk has come to. -/
structure Visit where
  /-- Index of the state. -/
  index : Nat
  state : SessionState
  service : Service
  requests : List RequestNode

/-- A session graph in plan form. -/
structure LoweredSession where
  /-- Id of the node that the session starts in. -/
  initial : Nat
  nodes : List SessionNode
  warnings : List Warning

namespace SessionState

/-- The states a state leads to, in the order of its transitions. -/
def successors (s : SessionState) : List Nat := s.transitions.filterMap fun t => t.target.index?

end SessionState

namespace SessionGraph

variable (ts : Transformers) (g : SessionGraph)

/-- Come to a state: look up its service and lower its protocol graph. -/
def visit (index : Nat) (s : SessionState) : Except CompileError (Visit × List Warning) :=
  match g.service? s.service with
  | none => .error (.model (.serviceNotFound s.service))
  | some service =>
    match s.protocol.lower ts service.name with
    | (.error e, _) => .error e
    | (.ok requests, warnings) => .ok (⟨index, s, service, requests⟩, warnings)

/-- The visits of a walk and the reports made on it. `fresh` holds the states not visited, the
list those still to come. -/
def visits (fresh : List Nat) : List Nat → Except CompileError (List Visit × List Warning)
  | [] => .ok ([], [])
  | i :: stack =>
    match g.state? i with
    | none => .error (.model (.sessionStateNotFound i))
    | some s =>
      if _h : i ∈ fresh then
        match g.visit ts i s with
        | .error e => .error e
        | .ok (v, warnings) =>
          let left := fresh.erase i
          -- states that do not exist are kept, so that the walk comes to the first of them
          let next := s.successors.filter fun j => j ∈ left || g.states.length ≤ j
          match visits left (next ++ stack) with
          | .error e => .error e
          | .ok (vs, more) => .ok (v :: vs, warnings ++ more)
      else visits fresh stack
termination_by stack => (fresh.length, stack.length)
decreasing_by
  · have := List.length_pos_of_mem _h
    have := List.length_erase_of_mem _h
    apply Prod.Lex.left
    omega
  · apply Prod.Lex.right
    simp

/-- The node that a visited state has. -/
def nodeOf? (vs : List Visit) (index : Nat) : Option Nat := vs.findIdx? fun v => v.index == index

/-- The name of the node with an id. -/
def nodeName (vs : List Visit) (id : Nat) : String := (vs[id]?.map (·.service.name)).getD ""

/-- Turn transitions of a node into entries, after the entries it has. -/
def wire (convention : GuardNegation) (vs : List Visit) (source : String) :
    List TransitionEntry → List SessionTransition →
      Except CompileError (List TransitionEntry × List Warning)
  | table, [] => .ok (table, [])
  | table, t :: rest =>
    match t.target with
    | .exit => wire convention vs source table rest
    | .state j =>
      match nodeOf? vs j with
      | none => .error (.model (.sessionStateNotFound j))
      | some target =>
        let name := nodeName vs target
        if table.any fun e => e.target == target then do
          let (table, warnings) ← wire convention vs source table rest
          return (table, .duplicateTransition source name :: warnings)
        else
          wire convention vs source
            (table ++ [⟨target, name, Guard.expression convention t.guards,
              Action.expression source name t.actions, true⟩]) rest

/-- The nodes of some visits, numbered from `id` on; `vs` holds all visits. -/
def wireAll (convention : GuardNegation) (vs : List Visit) :
    Nat → List Visit → Except CompileError (List SessionNode × List Warning)
  | _, [] => .ok ([], [])
  | id, v :: rest => do
    let (table, warnings) ← wire convention vs v.service.name [] v.state.transitions
    let (nodes, more) ← wireAll convention vs (id + 1) rest
    return (⟨id, v.service.name, v.service.id, v.requests, table⟩ :: nodes, warnings ++ more)

/-- The plan form of a graph. -/
def lower (convention : GuardNegation) : Except CompileError LoweredSession := do
  match g.initial with
  | none => .error (.model .noInitialState)
  | some initial =>
    let (vs, warnings) ← g.visits ts (List.range g.states.length) [initial]
    let (nodes, more) ← wireAll convention vs 0 vs
    match nodeOf? vs initial with
    | none => .error (.model (.sessionStateNotFound initial))
    | some start => return ⟨start, completeTables nodes, warnings ++ more⟩

end SessionGraph

end LoadPlan
