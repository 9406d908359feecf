import LoadPlan.Lowering.Transformer
import LoadPlan.Protocol.Graph
/-!
# Lowering protocol graphs

The requests of a protocol graph are issued in a row: the walk starts in the initial state and
follows the first transition of each state until it leaves the graph or comes back to a state.
A state with more transitions is reported.
-/

namespace LoadPlan

namespace Transformers

/-- The plan's node of a protocol state. -/
def requestNode (ts : Transformers) (s : ProtocolState) : Except CompileError RequestNode := do
  let sampler ← ts.transform s.request
  return {
    name := s.request.id
    sampler := sampler
    assertion :=
      if s.assertions.isEmpty then none else some ⟨s.request.id ++ " assertion", s.assertions⟩ }

end Transformers

namespace ProtocolState

/-- The report on a state with several transitions. -/
def branchWarnings (service : String) (s : ProtocolState) : List Warning :=
  if 1 < s.transitions.length then
    [.nonLinearProtocol service s.request.id s.transitions.length]
  else []

end ProtocolState

namespace ProtocolGraph

/-- The request nodes from the state `i` on, and the reports made on the way, which stay when the
walk fails. `fresh` holds the states that the walk has not come through. -/
def follow (ts : Transformers) (service : String) (g : ProtocolGraph) (fresh : List Nat) (i : Nat) :
    Except CompileError (List RequestNode) × List Warning :=
  match g.state? i with
  | none => (.error (.model (.unknownProtocolState i)), [])
  | some s =>
    if _h : i ∈ fresh then
      match ts.requestNode s with
      -- a state whose request fails is not reported for its transitions
      | .error e => (.error e, [])
      | .ok node =>
        let warnings := s.branchWarnings service
        match s.transitions.head? with
        | some (.state j) =>
          let (rest, more) := follow ts service g (fresh.erase i) j
          (rest.map (node :: ·), warnings ++ more)
        | _ => (.ok [node], warnings)
    else (.ok [], [])
termination_by fresh.length
decreasing_by
  have := List.length_pos_of_mem _h
  rw [List.length_erase_of_mem _h]
  omega

/-- The request nodes of a graph in the order they are issued, and the reports on it. -/
def lower (ts : Transformers) (service : String) (g : ProtocolGraph) :
    Except CompileError (List RequestNode) × List Warning :=
  match g.initial with
  | none => (.ok [], [])
  | some i => follow ts service g (List.range g.states.length) i

end ProtocolGraph

end LoadPlan
