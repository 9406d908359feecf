import LoadPlan.Proofs.Session.Wiring
import Mathlib.Algebra.BigOperators.Group.List.Basic
import Mathlib.Algebra.GroupWithZero.Nat
import Mathlib.Logic.Relation
/-!
# Which states get a node, and how long that takes

A lowered graph has a node for each state that can be reached, and no other: what a walk visits
is reachable from its stack (`Walk.reachable`), and what it visits is closed under transitions.
`SessionGraph.run` is the loop of the walk with a number of turns at most. A turn takes one
state off the stack, and a state is pushed only by a transition of a state that is visited then,
so the loop is over after one turn more than there are transitions (`run_eq_visits`).
-/

namespace LoadPlan

namespace SessionGraph

variable {ts : Transformers} {g : SessionGraph} {convention : GuardNegation}

/-! ## Reachable states -/

/-- A transition of the state `i` leads to the state `j`. -/
def Leads (g : SessionGraph) (i j : Nat) : Prop :=
  ∃ s, g.state? i = some s ∧ ∃ t ∈ s.transitions, t.target = .state j

/-- **A state can be reached** from the initial one through state targets. -/
def Reachable (g : SessionGraph) (i : Nat) : Prop :=
  ∃ initial, g.initial = some initial ∧ Relation.ReflTransGen g.Leads initial i

/-- What a walk visits can be reached from a state on its stack. -/
theorem Walk.reachable {fresh stack : List Nat} {vs : List Visit} {ws : List Warning}
    (h : Walk ts g fresh stack vs ws) :
    ∀ v ∈ vs, ∃ i ∈ stack, Relation.ReflTransGen g.Leads i v.index := by
  induction h with
  | done => simp
  | skip _ _ _ ih =>
    intro v hv
    obtain ⟨i, hi, hreach⟩ := ih v hv
    exact ⟨i, List.mem_cons_of_mem _ hi, hreach⟩
  | @come fresh stack i s v vs ws more hs _ hv _ ih =>
    obtain ⟨rfl, -⟩ := lowered_of_visit hv
    intro w hw
    rcases List.mem_cons.1 hw with rfl | hw
    · exact ⟨w.index, List.mem_cons_self .., .refl⟩
    · obtain ⟨j, hj, hreach⟩ := ih w hw
      rcases List.mem_append.1 hj with hj | hj
      · have hlead : g.Leads v.index j :=
          ⟨s, hs, SessionState.mem_successors.1 (mem_pushed.1 hj).1⟩
        exact ⟨v.index, List.mem_cons_self .., .head hlead hreach⟩
      · exact ⟨j, List.mem_cons_of_mem _ hj, hreach⟩

/-- What can be reached from a visited state is visited. -/
theorem Tour.mem_of_reflTransGen {initial i j : Nat} {vs : List Visit} (h : Tour ts g initial vs)
    (hi : i ∈ vs.map (·.index)) (hreach : Relation.ReflTransGen g.Leads i j) :
    j ∈ vs.map (·.index) := by
  induction hreach with
  | refl => exact hi
  | tail _ hlead ih =>
    obtain ⟨v, hv, rfl⟩ := List.mem_map.1 ih
    obtain ⟨s, hs, ht⟩ := hlead
    rw [(h.declared v hv).state] at hs
    cases hs
    exact h.closed v hv _ (SessionState.mem_successors.2 ht)

/-- **A walk visits the states that can be reached.** -/
theorem mem_visits_iff {initial : Nat} {vs : List Visit} {ws : List Warning}
    (hinitial : g.initial = some initial)
    (h : g.visits ts (List.range g.states.length) [initial] = .ok (vs, ws)) (i : Nat) :
    i ∈ vs.map (·.index) ↔ g.Reachable i := by
  have htour := tour_of_visits h
  constructor
  · intro hi
    obtain ⟨v, hv, rfl⟩ := List.mem_map.1 hi
    obtain ⟨j, hj, hreach⟩ := (walk_of_visits h).reachable v hv
    rw [List.mem_singleton] at hj
    exact ⟨initial, hinitial, hj ▸ hreach⟩
  · rintro ⟨start, hstart, hreach⟩
    rw [hinitial] at hstart
    cases hstart
    exact htour.mem_of_reflTransGen (List.mem_of_mem_head? htour.head) hreach

/-! ## How long the loop runs -/

/-- The loop of the walk between two turns. -/
structure Loop where
  fresh : List Nat
  stack : List Nat
  visits : List Visit
  warnings : List Warning

/-- One turn of the loop, with `i` off the stack. -/
def turn (ts : Transformers) (g : SessionGraph) (i : Nat) (l : Loop) :
    Except CompileError Loop :=
  match g.state? i with
  | none => .error (.model (.sessionStateNotFound i))
  | some s =>
    if i ∈ l.fresh then
      match g.visit ts i s with
      | .error e => .error e
      | .ok (v, ws) =>
        .ok ⟨l.fresh.erase i, g.pushed (l.fresh.erase i) s ++ l.stack, l.visits ++ [v],
          l.warnings ++ ws⟩
    else .ok l

/-- **The loop, for a number of turns at most.** There is no answer if it is not over by then. -/
def run (ts : Transformers) (g : SessionGraph) :
    Nat → Loop → Option (Except CompileError (List Visit × List Warning))
  | _, ⟨_, [], vs, ws⟩ => some (.ok (vs, ws))
  | 0, ⟨_, _ :: _, _, _⟩ => none
  | n + 1, ⟨fresh, i :: stack, vs, ws⟩ =>
    match turn ts g i ⟨fresh, stack, vs, ws⟩ with
    | .error e => some (.error e)
    | .ok l => run ts g n l

/-- How many transitions a state has. -/
def outDegree (g : SessionGraph) (i : Nat) : Nat :=
  ((g.state? i).map fun s => s.transitions.length).getD 0

/-- A turn that visits a state pushes no more than its transitions. -/
theorem length_pushed_le {i : Nat} {s : SessionState} (hs : g.state? i = some s)
    (left : List Nat) : (g.pushed left s).length ≤ g.outDegree i := by
  calc (g.pushed left s).length ≤ s.successors.length := List.length_filter_le ..
    _ ≤ s.transitions.length := List.length_filterMap_le ..
    _ = g.outDegree i := by simp [outDegree, hs]

/-- Over all states there are the transitions of the graph. -/
theorem sum_outDegree_range :
    ((List.range g.states.length).map g.outDegree).sum = g.transitionCount := by
  rw [transitionCount, ← List.sum_eq_foldr]
  congr 1
  refine List.ext_getElem (by simp) fun i hi _ => ?_
  rw [List.length_map, List.length_range] at hi
  simp [outDegree, state?, List.getElem?_eq_getElem hi]

/-- **The loop is over when its stack and the transitions of the fresh states are used up**, and
it ends as the walk does. -/
theorem run_eq_visits {fresh stack : List Nat} {n : Nat}
    (hn : stack.length + (fresh.map g.outDegree).sum ≤ n) (vs : List Visit) (ws : List Warning) :
    run ts g n ⟨fresh, stack, vs, ws⟩ = some (before vs ws (g.visits ts fresh stack)) := by
  induction n generalizing fresh stack vs ws with
  | zero =>
    cases stack with
    | nil => simp [run, visits_nil, before, Except.map]
    | cons i stack => simp at hn
  | succ n ih =>
    cases stack with
    | nil => simp [run, visits_nil, before, Except.map]
    | cons i stack =>
      rw [run]
      cases hs : g.state? i with
      | none =>
        rw [visits_missing hs]
        simp only [turn, hs]
        rfl
      | some s =>
        by_cases hi : i ∈ fresh
        · cases hv : g.visit ts i s with
          | error e =>
            rw [visits_failed hs hi hv]
            simp only [turn, hs, hi, hv, if_true]
            rfl
          | ok r =>
            have hpushed := length_pushed_le hs (fresh.erase i)
            have hsum := List.sum_map_erase g.outDegree hi
            rw [visits_fresh hs hi hv]
            simp only [turn, hs, hi, hv, if_true]
            rw [ih (by simp only [List.length_append, List.length_cons] at hn ⊢; omega)]
            cases g.visits ts (fresh.erase i) (g.pushed (fresh.erase i) s ++ stack) <;>
              simp [before, Except.map]
        · rw [visits_stale hs hi]
          simp only [turn, hs, hi, if_false]
          exact ih (by simp only [List.length_cons] at hn; omega) vs ws

/-! ## One node for each reachable state -/

/-- **A node shows a state as it is declared**: the service it sits in, and the requests that its
protocol graph lowers to there. -/
def Shows (ts : Transformers) (g : SessionGraph) (n : SessionNode) (i : Nat) : Prop :=
  ∃ s service, g.state? i = some s ∧ g.service? s.service = some service ∧
    n.name = service.name ∧ n.service = service.id ∧
      (s.protocol.lower ts service.name).1 = .ok n.requests

/-- The planned node of a visit shows the visited state. -/
theorem shows_plannedNode {vs : List Visit} {k : Nat} {v : Visit} (h : v.Declared ts g) :
    Shows ts g (plannedNode convention vs k v) v.index :=
  ⟨v.state, v.service, h.state, h.service, rfl, rfl, h.requests⟩

/-- A node has its place as id, and shows the state that is visited in that place. -/
theorem Tour.shows_of_getElem? {initial : Nat} {vs : List Visit} (h : Tour ts g initial vs)
    {k i : Nat} {n : SessionNode}
    (hn : (vs.mapIdx (plannedNode convention vs))[k]? = some n)
    (hi : (vs.map (·.index))[k]? = some i) : n.id = k ∧ Shows ts g n i := by
  obtain ⟨v, hv, rfl⟩ := getElem?_index_eq_some_iff.1 hi
  rw [getElem?_plannedNode convention hv] at hn
  cases hn
  exact ⟨rfl, shows_plannedNode (h.declared v (List.mem_of_getElem? hv))⟩

/-- **The walk ends, and a lowered graph has one node for each reachable state.** The loop takes
one turn more than there are transitions at most. When lowering succeeds, `order` lists the
reachable states, each once; the node with the id `k` shows the `k`-th of them, and the first one
is the initial state. -/
theorem nodes_biject_reachable (ts : Transformers) (g : SessionGraph)
    (convention : GuardNegation) :
    (∀ start, run ts g (1 + g.transitionCount) ⟨List.range g.states.length, [start], [], []⟩ =
      some (g.visits ts (List.range g.states.length) [start])) ∧
    ∀ l, g.lower ts convention = .ok l →
      ∃ order : List Nat, order.Nodup ∧ (∀ i, i ∈ order ↔ g.Reachable i) ∧
        order.length = l.nodes.length ∧
        (∀ (k : Nat) (n : SessionNode) (i : Nat), l.nodes[k]? = some n → order[k]? = some i →
          n.id = k ∧ Shows ts g n i) ∧
        l.initial = 0 ∧ order[l.initial]? = g.initial := by
  constructor
  · intro start
    have hturns : [start].length + ((List.range g.states.length).map g.outDegree).sum =
        1 + g.transitionCount := by rw [sum_outDegree_range, List.length_singleton]
    rw [run_eq_visits (Nat.le_of_eq hturns)]
    cases g.visits ts (List.range g.states.length) [start] <;> rfl
  · intro l hlower
    obtain ⟨initial, vs, ws, hinitial, hvisits, hstart, hnodes⟩ := nodes_of_lower hlower
    have htour := tour_of_visits hvisits
    refine ⟨vs.map (·.index), htour.nodup, mem_visits_iff hinitial hvisits, by simp [hnodes],
      fun k n i hn hi => ?_, hstart, ?_⟩
    · exact htour.shows_of_getElem? (hnodes ▸ hn) hi
    · rw [hstart, hinitial, htour.getElem?_zero]

/-- The walk over the shuttle is over within seven turns, and finds its two reachable states. -/
theorem nodes_biject_reachable_shuttle :
    run .builtIn shuttle 7 ⟨[0, 1, 2], [1], [], []⟩ =
        some (shuttle.visits .builtIn [0, 1, 2] [1]) ∧
      shuttle.lower .builtIn .prefixUnnegated = .ok shuttlePlan ∧
      ∃ order : List Nat, order.Nodup ∧ (∀ i, i ∈ order ↔ shuttle.Reachable i) ∧
        order.length = 2 ∧ order[0]? = some 1 := by
  have hlower : shuttle.lower .builtIn .prefixUnnegated = .ok shuttlePlan := by cbv
  obtain ⟨hrun, hnodes⟩ := nodes_biject_reachable .builtIn shuttle .prefixUnnegated
  obtain ⟨order, hnodup, hmem, hlength, -, -, hhead⟩ := hnodes shuttlePlan hlower
  exact ⟨hrun 1, hlower, order, hnodup, hmem, hlength, hhead⟩

end SessionGraph

end LoadPlan
