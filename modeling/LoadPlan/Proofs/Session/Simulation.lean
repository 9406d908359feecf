import LoadPlan.Proofs.Lowering.Reading
import LoadPlan.Proofs.Session.Reachability
import LoadPlan.Session.Validation
import Mathlib.Data.List.Chain
import Mathlib.Data.List.Forall2
/-!
# A lowered graph runs as the graph does

A session is in a place, a state of the graph or a node of the plan, and carries its variables.
`SessionGraph.Moves` is a step of the graph: a transition whose guards hold is taken, and its
actions are done. `Takes` is a step of the plan: an entry whose guard text holds is taken, and its
action text is run. Both are the step of a visit, read off the graph (`moves_iff`) and off the
planned nodes (`takes_iff`), so one matches the other step by step, and runs of any length match
(`exists_matching_run`).
-/

namespace LoadPlan

/-- Where a session is, and what its variables are. -/
structure Situation where
  /-- Index of the state, or id of the node. -/
  place : Nat
  store : Store

/-! ## Steps -/

/-- **A step of the graph**: a transition of the state leads to a state, its guards hold, and its
actions are done between the services of the two. -/
def SessionGraph.Moves (convention : GuardNegation) (g : SessionGraph) (c d : Situation) : Prop :=
  ∃ s t a b, g.state? c.place = some s ∧ t ∈ s.transitions ∧ t.target = .state d.place ∧
    g.serviceOf? c.place = some a ∧ g.serviceOf? d.place = some b ∧
    (∀ u ∈ t.guards, u.Holds convention c.store) ∧
    d.store = Action.runAll a.name b.name t.actions c.store

/-- **A step of the plan**: an enabled entry of the node leads to another node, its guard text
holds, and its action text is run. -/
def Takes (nodes : List SessionNode) (c d : Situation) : Prop :=
  ∃ n e, nodes[c.place]? = some n ∧ e ∈ n.enabled ∧ e.target = d.place ∧
    GuardTextHolds c.store e.guard ∧ runActionText? e.action c.store = some d.store

/-- A run: each situation comes from the one before it by a step. -/
def IsRun (step : Situation → Situation → Prop) (start : Situation) (run : List Situation) : Prop :=
  List.IsChain step (start :: run)

/-- **Where every step is matched, every run is**, situation by situation. -/
theorem exists_matching_run {step step' agree : Situation → Situation → Prop}
    (hmatch : ∀ c d c', agree c d → step c c' → ∃ d', step' d d' ∧ agree c' d')
    {c d : Situation} {run : List Situation} (hagree : agree c d) (hrun : IsRun step c run) :
    ∃ run', IsRun step' d run' ∧ List.Forall₂ agree run run' := by
  induction run generalizing c d with
  | nil => exact ⟨[], .singleton d, .nil⟩
  | cons c' run ih =>
    obtain ⟨hstep, hrest⟩ := List.isChain_cons_cons.1 hrun
    obtain ⟨d', hstep', hagree'⟩ := hmatch c d c' hagree hstep
    obtain ⟨run', hrun', hforall⟩ := ih hagree' hrest
    exact ⟨d' :: run', List.isChain_cons_cons.2 ⟨hstep', hrun'⟩, .cons hagree' hforall⟩

namespace SessionGraph

variable {ts : Transformers} {g : SessionGraph} {convention : GuardNegation}

/-! ## Graphs whose transitions can be told apart -/

/-- No state has two transitions to the same state. -/
def SingleTransitions (g : SessionGraph) : Prop := ∀ s ∈ g.states, s.successors.Nodup

/-- Guards and actions are about variables whose names are identifiers. -/
def NamesIdentifiers (g : SessionGraph) : Prop :=
  ∀ s ∈ g.states, ∀ t ∈ s.transitions,
    (∀ u ∈ t.guards, Text.IsIdentifier u.parameter.name) ∧
    ∀ a ∈ t.actions, Text.IsIdentifier a.parameter.name

/-- Two transitions of such a state to one state are the same. -/
theorem eq_of_target_eq {s : SessionState} (h : s.successors.Nodup) {t u : SessionTransition}
    (ht : t ∈ s.transitions) (hu : u ∈ s.transitions) {j : Nat} (htarget : t.target = .state j)
    (hutarget : u.target = .state j) : t = u := by
  by_contra hne
  have hpair := List.pairwise_filterMap.1 h
  have hsymm : Std.Symm fun t u : SessionTransition =>
      ∀ i, t.target.index? = some i → ∀ j, u.target.index? = some j → i ≠ j :=
    ⟨fun _ _ hij i hi j hj => (hij j hj i hi).symm⟩
  exact hpair.forall ht hu hne j (by rw [htarget]; rfl) j (by rw [hutarget]; rfl) rfl

/-- The first transition to a state is then the only one. -/
theorem find?_target_eq_some_iff {s : SessionState} (h : s.successors.Nodup) {j : Nat}
    {t : SessionTransition} :
    s.transitions.find? (fun t => t.target = .state j) = some t ↔
      t ∈ s.transitions ∧ t.target = .state j := by
  constructor
  · intro hfind
    exact ⟨List.mem_of_find?_eq_some hfind, by simpa using List.find?_some hfind⟩
  · rintro ⟨ht, htarget⟩
    have hsome : (s.transitions.find? fun t => t.target = .state j).isSome :=
      List.find?_isSome.2 ⟨t, ht, by simpa using htarget⟩
    obtain ⟨u, hfind⟩ := Option.isSome_iff_exists.1 hsome
    have hutarget : u.target = .state j := by simpa using List.find?_some hfind
    rw [hfind, eq_of_target_eq h ht (List.mem_of_find?_eq_some hfind) htarget hutarget]

/-! ## The step between two visits -/

/-- **The step between two visited states**: a transition leads from the one to the other. -/
def Passes (convention : GuardNegation) (v w : Visit) (σ τ : Store) : Prop :=
  ∃ t ∈ v.state.transitions, t.target = .state w.index ∧
    (∀ u ∈ t.guards, u.Holds convention σ) ∧
    τ = Action.runAll v.service.name w.service.name t.actions σ

/-- The graph moves between visited states. -/
theorem moves_iff {initial : Nat} {vs : List Visit} (htour : Tour ts g initial vs) {v : Visit}
    (hv : v ∈ vs) {c d : Situation} (hc : c.place = v.index) :
    g.Moves convention c d ↔
      ∃ w ∈ vs, w.index = d.place ∧ Passes convention v w c.store d.store := by
  have hdeclared := htour.declared v hv
  constructor
  · rintro ⟨s, t, a, b, hs, ht, htarget, ha, hb, hguards, hstore⟩
    rw [hc, hdeclared.state] at hs
    cases hs
    rw [hc, hdeclared.serviceOf?] at ha
    cases ha
    have hsucc := htour.closed v hv d.place (SessionState.mem_successors.2 ⟨t, ht, htarget⟩)
    obtain ⟨w, hw, hindex⟩ := List.mem_map.1 hsucc
    rw [← hindex, (htour.declared w hw).serviceOf?] at hb
    cases hb
    exact ⟨w, hw, hindex, t, ht, by rw [htarget, hindex], hguards, hstore⟩
  · rintro ⟨w, hw, hindex, t, ht, htarget, hguards, hstore⟩
    refine ⟨v.state, t, v.service, w.service, ?_, ht, by rw [htarget, hindex], ?_, ?_, hguards,
      hstore⟩
    · rw [hc, hdeclared.state]
    · rw [hc, hdeclared.serviceOf?]
    · rw [← hindex, (htour.declared w hw).serviceOf?]

/-- An enabled entry of a planned node shows a transition between two visits. -/
theorem mem_enabled_plannedNode {vs : List Visit} {k : Nat} {v : Visit}
    (hsingle : v.state.successors.Nodup) {e : TransitionEntry} :
    e ∈ (plannedNode convention vs k v).enabled ↔
      ∃ m w t, vs[m]? = some w ∧ t ∈ v.state.transitions ∧ t.target = .state w.index ∧
        e = ⟨m, w.service.name, Guard.expression convention t.guards,
          Action.expression v.service.name w.service.name t.actions, true⟩ := by
  rw [SessionNode.enabled, List.mem_filter, plannedNode, List.mem_mapIdx]
  constructor
  · rintro ⟨⟨m, hm, rfl⟩, henabled⟩
    have hw : vs[m]? = some vs[m] := List.getElem?_eq_getElem hm
    unfold plannedEntry at henabled ⊢
    split at henabled
    · rename_i t hfind
      obtain ⟨ht, htarget⟩ := (find?_target_eq_some_iff hsingle).1 hfind
      exact ⟨m, vs[m], t, hw, ht, htarget, rfl⟩
    · cases henabled
  · rintro ⟨m, w, t, hw, ht, htarget, rfl⟩
    obtain ⟨hm, rfl⟩ := List.getElem?_eq_some_iff.1 hw
    refine ⟨⟨m, hm, ?_⟩, rfl⟩
    rw [plannedEntry, (find?_target_eq_some_iff hsingle).2 ⟨ht, htarget⟩]

/-- The plan takes entries between planned nodes, and their texts say what the transitions do. -/
theorem takes_iff {initial : Nat} {vs : List Visit} (htour : Tour ts g initial vs)
    (hsingle : g.SingleTransitions) (hnames : g.NamesIdentifiers) {c d : Situation} {v : Visit}
    (hv : vs[c.place]? = some v) :
    Takes (vs.mapIdx (plannedNode convention vs)) c d ↔
      ∃ w, vs[d.place]? = some w ∧ Passes convention v w c.store d.store := by
  have hstate : v.state ∈ g.states :=
    List.mem_of_getElem? (htour.declared v (List.mem_of_getElem? hv)).state
  have hnode := getElem?_plannedNode convention hv
  constructor
  · rintro ⟨n, e, hn, he, hplace, hguard, haction⟩
    rw [hnode] at hn
    cases hn
    obtain ⟨m, w, t, hw, ht, htarget, rfl⟩ := (mem_enabled_plannedNode (hsingle _ hstate)).1 he
    obtain ⟨hguardNames, hactionNames⟩ := hnames _ hstate t ht
    rw [Action.runActionText?_expression hactionNames] at haction
    exact ⟨w, hplace ▸ hw, t, ht, htarget, (Guard.guardTextHolds_expression hguardNames).1 hguard,
      (Option.some.inj haction).symm⟩
  · rintro ⟨w, hw, t, ht, htarget, hguards, hstore⟩
    obtain ⟨hguardNames, hactionNames⟩ := hnames _ hstate t ht
    refine ⟨_, _, hnode, (mem_enabled_plannedNode (hsingle _ hstate)).2
      ⟨d.place, w, t, hw, ht, htarget, rfl⟩, rfl, ?_, ?_⟩
    · exact (Guard.guardTextHolds_expression hguardNames).2 hguards
    · rw [Action.runActionText?_expression hactionNames, hstore]

/-! ## Runs -/

/-- **A state and its node**: `order` lists the states in the order of their nodes, and the
variables are the same. -/
def Agree (order : List Nat) (c d : Situation) : Prop :=
  order[d.place]? = some c.place ∧ d.store = c.store

/-- A state that is listed once has one node, and a node one state. -/
theorem biUnique_agree {order : List Nat} (h : order.Nodup) : Relator.BiUnique (Agree order) := by
  constructor
  · rintro ⟨i, σ⟩ ⟨j, τ⟩ ⟨k, ρ⟩ ⟨hi, hσ⟩ ⟨hj, hτ⟩
    cases hσ
    cases hτ
    rw [hi] at hj
    cases hj
    rfl
  · rintro ⟨i, σ⟩ ⟨k, τ⟩ ⟨m, ρ⟩ ⟨hk, hτ⟩ ⟨hm, hρ⟩
    cases hτ
    cases hρ
    have hlt := (List.getElem?_eq_some_iff.1 hk).1
    cases (List.getElem?_inj hlt h).1 (hk.trans hm.symm)
    rfl

variable {initial : Nat} {vs : List Visit}

/-- **A step of the graph is a step of the plan.** -/
theorem exists_takes_of_moves (htour : Tour ts g initial vs) (hsingle : g.SingleTransitions)
    (hnames : g.NamesIdentifiers) {c d c' : Situation} (hagree : Agree (vs.map (·.index)) c d)
    (hmoves : g.Moves convention c c') :
    ∃ d', Takes (vs.mapIdx (plannedNode convention vs)) d d' ∧
      Agree (vs.map (·.index)) c' d' := by
  obtain ⟨hplace, hstore⟩ := hagree
  obtain ⟨v, hv, hindex⟩ := getElem?_index_eq_some_iff.1 hplace
  obtain ⟨w, hw, hwindex, hpasses⟩ :=
    (moves_iff htour (List.mem_of_getElem? hv) hindex.symm).1 hmoves
  obtain ⟨m, hm⟩ := List.mem_iff_getElem?.1 hw
  refine ⟨⟨m, c'.store⟩, (takes_iff htour hsingle hnames hv).2 ⟨w, hm, ?_⟩, ?_, rfl⟩
  · rwa [hstore]
  · exact getElem?_index_eq_some_iff.2 ⟨w, hm, hwindex⟩

/-- **A step of the plan is a step of the graph.** -/
theorem exists_moves_of_takes (htour : Tour ts g initial vs) (hsingle : g.SingleTransitions)
    (hnames : g.NamesIdentifiers) {c d d' : Situation} (hagree : Agree (vs.map (·.index)) c d)
    (htakes : Takes (vs.mapIdx (plannedNode convention vs)) d d') :
    ∃ c', g.Moves convention c c' ∧ Agree (vs.map (·.index)) c' d' := by
  obtain ⟨hplace, hstore⟩ := hagree
  obtain ⟨v, hv, hindex⟩ := getElem?_index_eq_some_iff.1 hplace
  obtain ⟨w, hw, hpasses⟩ := (takes_iff htour hsingle hnames hv).1 htakes
  refine ⟨⟨w.index, d'.store⟩,
    (moves_iff htour (List.mem_of_getElem? hv) hindex.symm).2
      ⟨w, List.mem_of_getElem? hw, rfl, ?_⟩, ?_, rfl⟩
  · rwa [← hstore]
  · exact getElem?_index_eq_some_iff.2 ⟨w, hw, rfl⟩

/-- **The plan of a lowered graph runs as the graph does.** `order` lists the states that have a
node, in the order of the nodes. From the initial state and the initial node, with the same
variables, every run of the graph is matched by one run of the plan, and every run of the plan by
one of the graph, situation by situation. The graph need not be valid. -/
theorem runs_of_lower {l : LoweredSession} (hsingle : g.SingleTransitions)
    (hnames : g.NamesIdentifiers) (h : g.lower ts convention = .ok l) :
    ∃ order initial, g.initial = some initial ∧ order.Nodup ∧ order.length = l.nodes.length ∧
      order[l.initial]? = some initial ∧
      (∀ (k : Nat) (n : SessionNode) (i : Nat), l.nodes[k]? = some n → order[k]? = some i →
        Shows ts g n i) ∧
      ∀ σ : Store,
        (∀ run, IsRun (g.Moves convention) ⟨initial, σ⟩ run →
          ∃! run', IsRun (Takes l.nodes) ⟨l.initial, σ⟩ run' ∧
            List.Forall₂ (Agree order) run run') ∧
        ∀ run', IsRun (Takes l.nodes) ⟨l.initial, σ⟩ run' →
          ∃! run, IsRun (g.Moves convention) ⟨initial, σ⟩ run ∧
            List.Forall₂ (Agree order) run run' := by
  obtain ⟨initial, vs, ws, hinitial, hvisits, hstart, hnodes⟩ := nodes_of_lower h
  have htour := tour_of_visits hvisits
  have hfirst : (vs.map (·.index))[l.initial]? = some initial := by
    rw [hstart, htour.getElem?_zero]
  have hagree : ∀ σ, Agree (vs.map (·.index)) ⟨initial, σ⟩ ⟨l.initial, σ⟩ := fun σ => ⟨hfirst, rfl⟩
  have hunique := (biUnique_agree htour.nodup).forall₂
  refine ⟨vs.map (·.index), initial, hinitial, htour.nodup, by simp [hnodes], hfirst,
    fun k n i hn hi => ?_, fun σ => ⟨fun run hrun => ?_, fun run' hrun' => ?_⟩⟩
  · exact (htour.shows_of_getElem? (hnodes ▸ hn) hi).2
  · have hstep : ∀ c d c', Agree (vs.map (·.index)) c d → g.Moves convention c c' →
        ∃ d', Takes l.nodes d d' ∧ Agree (vs.map (·.index)) c' d' := by
      intro c d c' hagree hmoves
      rw [hnodes]
      exact exists_takes_of_moves htour hsingle hnames hagree hmoves
    obtain ⟨run', hrun', hforall⟩ := exists_matching_run hstep (hagree σ) hrun
    exact ⟨run', ⟨hrun', hforall⟩, fun _ h => hunique.2 h.2 hforall⟩
  · have hstep : ∀ d c d', Agree (vs.map (·.index)) c d → Takes l.nodes d d' →
        ∃ c', g.Moves convention c c' ∧ Agree (vs.map (·.index)) c' d' := by
      intro d c d' hagree htakes
      rw [hnodes] at htakes
      exact exists_moves_of_takes htour hsingle hnames hagree htakes
    obtain ⟨run, hrun, hforall⟩ := exists_matching_run hstep (hagree σ) hrun'
    exact ⟨run, ⟨hrun, hforall.flip⟩, fun _ h => hunique.1 h.2 hforall.flip⟩

/-- Shopping with a basket: it is filled in one state and emptied in the other. -/
def errand : SessionGraph where
  services := [.named "Shelf", .named "Till"]
  states := [
    ⟨"Till", .empty, [⟨0, .exit, [], []⟩,
      ⟨0, .state 1, [⟨⟨"paid", .boolean, none, none⟩, true⟩], []⟩]⟩,
    ⟨"Shelf", .empty, [
      ⟨1, .state 1, [⟨⟨"paid", .boolean, none, none⟩, false⟩],
        [⟨⟨"basket", .integer, some "Till", some "Shelf"⟩⟩]⟩,
      ⟨1, .state 0, [⟨⟨"basket", .integer, none, none⟩, false⟩],
        [⟨⟨"paid", .boolean, none, none⟩⟩, ⟨⟨"basket", .integer, some "Shelf", none⟩⟩]⟩]⟩]
  initial := some 1

/-- Its plan. -/
def errandPlan : LoweredSession where
  initial := 0
  nodes := [
    ⟨0, "Shelf", "Shelf", [], [⟨0, "Shelf", "!paid", "basket=basket+1", true⟩,
      ⟨1, "Till", "basket > 0", "paid=true; basket=basket-1", true⟩]⟩,
    ⟨1, "Till", "Till", [], [⟨0, "Shelf", "paid", "", true⟩, ⟨1, "Till", "", "", false⟩]⟩]
  warnings := []

/-- No flag is set and no counter moved. -/
def blank : Store := ⟨fun _ => false, fun _ => 0⟩

/-- The basket is filled once and paid. -/
def shopped : List Situation :=
  [⟨1, blank.add "basket" 1⟩, ⟨0, ((blank.add "basket" 1).set "paid").add "basket" (-1)⟩]

theorem isRun_shopped : IsRun (errand.Moves .prefixUnnegated) ⟨1, blank⟩ shopped := by
  refine .cons_cons ?_ (.cons_cons ?_ (.singleton _))
  · refine ⟨_, _, _, _, rfl, List.mem_cons_self .., rfl, rfl, rfl, ?_, rfl⟩
    simp [Guard.Holds, Guard.asks, blank]
  · refine ⟨_, _, _, _, rfl, List.mem_cons_of_mem _ (List.mem_cons_self ..), rfl, rfl, rfl, ?_, rfl⟩
    simp [Guard.Holds, Store.add, blank]

theorem runs_of_lower_errand :
    errand.validate = .ok () ∧ errand.SingleTransitions ∧ errand.NamesIdentifiers ∧
      errand.lower .builtIn .prefixUnnegated = .ok errandPlan ∧
      IsRun (errand.Moves .prefixUnnegated) ⟨1, blank⟩ shopped ∧
      ∃ order run, IsRun (Takes errandPlan.nodes) ⟨0, blank⟩ run ∧
        List.Forall₂ (Agree order) shopped run := by
  have hsingle : errand.SingleTransitions := by
    simp [SingleTransitions, errand, SessionState.successors, Target.index?]
  have hnames : errand.NamesIdentifiers := by
    have hpaid : Text.IsIdentifier "paid" := by decide
    have hbasket : Text.IsIdentifier "basket" := by decide
    simp [NamesIdentifiers, errand, hpaid, hbasket]
  have hlower : errand.lower .builtIn .prefixUnnegated = .ok errandPlan := by cbv
  obtain ⟨order, initial, hinitial, -, -, -, -, hruns⟩ := runs_of_lower hsingle hnames hlower
  cases hinitial
  obtain ⟨run, ⟨hrun, hforall⟩, -⟩ := (hruns blank).1 shopped isRun_shopped
  exact ⟨by cbv, hsingle, hnames, hlower, isRun_shopped, order, run, hrun, hforall⟩

end SessionGraph

end LoadPlan
