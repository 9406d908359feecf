import LoadPlan.Lowering.Protocol
import Mathlib.Logic.Relation
/-!
# The walk through a protocol graph

`ProtocolGraph.follow` step by step, with one equation for each thing that a step can find: no
state, a state that is not fresh, a request without a sampler, another state to go to, or none.
A walk that stays in the graph has one way to fail, and that is a request it comes to
(`fault_of_follow`).
-/

namespace LoadPlan

namespace Transformers

variable {ts : Transformers} {s : ProtocolState}

/-- A state has a node when its request has a sampler. -/
theorem exists_requestNode_iff :
    (∃ node, ts.requestNode s = .ok node) ↔ ∃ sampler, ts.transform s.request = .ok sampler := by
  cases h : ts.transform s.request with
  | error e => simp [requestNode, h, bind, Except.bind]
  | ok sampler => simp [requestNode, h, bind, Except.bind, pure, Except.pure]

/-- A state's node fails with its request. -/
theorem transform_of_requestNode {e : CompileError} (h : ts.requestNode s = .error e) :
    ts.transform s.request = .error e := by
  cases htransform : ts.transform s.request with
  | error e' =>
    rw [requestNode, htransform] at h
    cases h
    rfl
  | ok sampler =>
    rw [requestNode, htransform] at h
    cases h

end Transformers

namespace ProtocolGraph

variable {ts : Transformers} {service : String} {g : ProtocolGraph}

/-- The first transition of the state `i` leads to the state `j`. -/
def Follows (g : ProtocolGraph) (i j : Nat) : Prop :=
  ∃ s, g.state? i = some s ∧ s.transitions.head? = some (.state j)

/-! ## One step of the walk -/

variable {fresh : List Nat} {i j : Nat} {s : ProtocolState} {node : RequestNode}

theorem follow_missing (hs : g.state? i = none) :
    g.follow ts service fresh i = (.error (.model (.unknownProtocolState i)), []) := by
  rw [follow]
  simp only [hs]

theorem follow_stale (hs : g.state? i = some s) (hi : i ∉ fresh) :
    g.follow ts service fresh i = (.ok [], []) := by
  rw [follow]
  simp only [hs, dif_neg hi]

theorem follow_failed {e : CompileError} (hs : g.state? i = some s) (hi : i ∈ fresh)
    (hnode : ts.requestNode s = .error e) : g.follow ts service fresh i = (.error e, []) := by
  rw [follow]
  simp only [hs, dif_pos hi, hnode]

theorem follow_next (hs : g.state? i = some s) (hi : i ∈ fresh)
    (hnode : ts.requestNode s = .ok node) (hnext : s.transitions.head? = some (.state j)) :
    (g.follow ts service fresh i).1 =
      (g.follow ts service (fresh.erase i) j).1.map (node :: ·) := by
  rw [follow]
  simp only [hs, dif_pos hi, hnode, hnext]

theorem follow_next_reports (hs : g.state? i = some s) (hi : i ∈ fresh)
    (hnode : ts.requestNode s = .ok node) (hnext : s.transitions.head? = some (.state j)) :
    (g.follow ts service fresh i).2 =
      s.branchWarnings service ++ (g.follow ts service (fresh.erase i) j).2 := by
  rw [follow]
  simp only [hs, dif_pos hi, hnode, hnext]

theorem follow_last (hs : g.state? i = some s) (hi : i ∈ fresh)
    (hnode : ts.requestNode s = .ok node)
    (hlast : ∀ j, s.transitions.head? = some (.state j) → False) :
    g.follow ts service fresh i = (.ok [node], s.branchWarnings service) := by
  rw [follow]
  simp only [hs, dif_pos hi, hnode]

/-- A state leads to the target of its first transition only. -/
theorem Follows.head? (h : g.Follows i j) (hs : g.state? i = some s) :
    s.transitions.head? = some (.state j) := by
  obtain ⟨s', hs', hhead⟩ := h
  rw [hs] at hs'
  cases hs'
  exact hhead

/-! ## The whole walk -/

/-- **A walk that stays in the graph fails for a request on its way.** -/
theorem fault_of_follow
    (hclosed : ∀ s ∈ g.states, ∀ j, .state j ∈ s.transitions → j < g.states.length)
    (hi : i < g.states.length) {e : CompileError}
    (h : (g.follow ts service fresh i).1 = .error e) :
    ∃ k s, Relation.ReflTransGen g.Follows i k ∧ g.state? k = some s ∧
      ts.transform s.request = .error e := by
  induction fresh, i using follow.induct ts service g with
  | case1 fresh i hs =>
    have := List.getElem?_eq_none_iff.1 hs
    omega
  | case2 fresh i s hs hfresh e' hnode =>
    rw [follow_failed hs hfresh hnode] at h
    cases h
    exact ⟨i, s, .refl, hs, Transformers.transform_of_requestNode hnode⟩
  | case3 fresh i s hs hfresh node hnode j hnext rest more hrest ih =>
    rw [follow_next hs hfresh hnode hnext] at h
    cases hfollow : (g.follow ts service (fresh.erase i) j).1 with
    | ok nodes => rw [hfollow] at h; cases h
    | error e' =>
      rw [hfollow] at h
      cases h
      have hj := hclosed s (List.mem_of_getElem? hs) j (List.mem_of_mem_head? hnext)
      obtain ⟨k, s', hreach, hk⟩ := ih hj hfollow
      exact ⟨k, s', .head ⟨s, hs, hnext⟩ hreach, hk⟩
  | case4 fresh i s hs hfresh node hnode hlast =>
    rw [follow_last hs hfresh hnode hlast] at h
    cases h
  | case5 fresh i s hs hfresh => rw [follow_stale hs hfresh] at h; cases h

end ProtocolGraph

end LoadPlan
