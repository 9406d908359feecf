import LoadPlan.Proofs.Protocol.Issuing
import LoadPlan.Proofs.Session.Reachability
import Mathlib.Data.Finset.Card
import Mathlib.Data.List.Permutation
/-!
# What lowering reports

The reports of a lowered graph are those of the walk and, after them, those of the wiring. Either
part goes through the nodes in their order: the walk reports the branches on the first-transition
path of each protocol graph (`Walk.reports`), the wiring each transition to a state that an earlier
transition leads to as well (`reports_of_wireAll`). The wiring looks for the target in the table it
is building, which has an entry for just the nodes that it has come across (`Seen`).
-/

namespace LoadPlan

namespace SessionGraph

variable {ts : Transformers} {g : SessionGraph} {convention : GuardNegation}

/-! ## Reports by state -/

/-- Name of the service that the state `i` is in. -/
def serviceName (g : SessionGraph) (i : ℕ) : String := ((g.serviceOf? i).map (·.name)).getD ""

/-- **The reports on the protocol graph of the state `i`**: one for each branch on its path. -/
def branchReports (g : SessionGraph) (i : ℕ) : List Warning :=
  match g.state? i with
  | none => []
  | some s => s.protocol.branches (g.serviceName i) s.protocol.path

/-- **The report on the transition in place `p`**: there is one if the transition leads to a state
and an earlier one leads to the same state. -/
def duplicateAt? (g : SessionGraph) (source : String) (transitions : List SessionTransition)
    (p : ℕ) : Option Warning :=
  (transitions[p]?.bind fun t => t.target.index?).bind fun j =>
    if ∃ u ∈ transitions.take p, u.target = .state j then
      some (.duplicateTransition source (g.serviceName j))
    else none

/-- The reports on the transitions of the state `i`, in their order. -/
def duplicateReports (g : SessionGraph) (i : ℕ) : List Warning :=
  match g.state? i with
  | none => []
  | some s =>
    (List.range s.transitions.length).filterMap (g.duplicateAt? (g.serviceName i) s.transitions)

theorem serviceName_of_declared {v : Visit} (h : v.Declared ts g) :
    g.serviceName v.index = v.service.name := by
  rw [SessionGraph.serviceName, h.serviceOf?, Option.map_some, Option.getD_some]

theorem branchReports_of_declared {v : Visit} (h : v.Declared ts g) :
    g.branchReports v.index = v.state.protocol.branches v.service.name v.state.protocol.path := by
  simp only [branchReports, h.state, serviceName_of_declared h]

theorem duplicateReports_of_declared {v : Visit} (h : v.Declared ts g) :
    g.duplicateReports v.index = (List.range v.state.transitions.length).filterMap
      (g.duplicateAt? v.service.name v.state.transitions) := by
  simp only [duplicateReports, h.state, serviceName_of_declared h]

/-! ## The reports of the walk -/

/-- **A walk reports the branches of the states that it visits**, in their order. -/
theorem Walk.reports {fresh stack : List ℕ} {vs : List Visit} {ws : List Warning}
    (h : Walk ts g fresh stack vs ws) : ws = vs.flatMap fun v => g.branchReports v.index := by
  induction h with
  | done => rfl
  | skip _ _ _ ih => exact ih
  | @come fresh stack i s v vs ws more hs _ hv _ ih =>
    have hdeclared := declared_of_visit hs hv
    obtain ⟨rfl, rfl, -, hlower⟩ := lowered_of_visit hv
    have hreports := ProtocolGraph.reports_of_lower hdeclared.requests
    rw [hlower] at hreports
    rw [List.flatMap_cons, ← ih, branchReports_of_declared hdeclared]
    exact congrArg (· ++ more) hreports

/-! ## The reports of the wiring -/

section Wiring

variable {vs : List Visit} {source : String} {earlier rest : List SessionTransition}
  {t : SessionTransition} {j : ℕ}

theorem duplicateAt?_exit (ht : t.target = .exit) :
    g.duplicateAt? source (earlier ++ t :: rest) earlier.length = none := by
  simp [duplicateAt?, ht, Target.index?]

theorem duplicateAt?_repeated (ht : t.target = .state j)
    (hold : ∃ u ∈ earlier, u.target = .state j) :
    g.duplicateAt? source (earlier ++ t :: rest) earlier.length =
      some (.duplicateTransition source (g.serviceName j)) := by
  simp [duplicateAt?, ht, Target.index?, hold]

theorem duplicateAt?_new (ht : t.target = .state j)
    (hnew : ¬ ∃ u ∈ earlier, u.target = .state j) :
    g.duplicateAt? source (earlier ++ t :: rest) earlier.length = none := by
  simp [duplicateAt?, ht, Target.index?, hnew]

/-- **The table has an entry for the nodes that some transitions lead to**, and for no others. -/
def Seen (vs : List Visit) (earlier : List SessionTransition) (table : List TransitionEntry) :
    Prop :=
  ∀ j k, nodeOf? vs j = some k →
    ((∃ e ∈ table, e.target = k) ↔ ∃ u ∈ earlier, u.target = .state j)

theorem seen_nil : Seen vs [] [] := by
  intro j k _
  simp

/-- A transition that leads out leaves the table. -/
theorem Seen.exit {table : List TransitionEntry} (h : Seen vs earlier table)
    (ht : t.target = .exit) : Seen vs (earlier ++ [t]) table := by
  intro j k hk
  rw [h j k hk]
  simp [ht]

/-- So does one to a node that has an entry. -/
theorem Seen.repeated {table : List TransitionEntry} (h : Seen vs earlier table)
    (ht : t.target = .state j) (hold : ∃ u ∈ earlier, u.target = .state j) :
    Seen vs (earlier ++ [t]) table := by
  intro i k hk
  rw [h i k hk]
  constructor
  · rintro ⟨u, hu, htarget⟩
    exact ⟨u, List.mem_append_left _ hu, htarget⟩
  · rintro ⟨u, hu, htarget⟩
    rcases List.mem_append.1 hu with hu | hu
    · exact ⟨u, hu, htarget⟩
    · cases List.mem_singleton.1 hu
      cases ht.symm.trans htarget
      exact hold

/-- A transition to another node adds the entry of that node. -/
theorem Seen.new (hnodup : (vs.map (·.index)).Nodup) {table : List TransitionEntry} {m : ℕ}
    (h : Seen vs earlier table) (ht : t.target = .state j) (hm : nodeOf? vs j = some m) :
    Seen vs (earlier ++ [t]) (table ++ [entryOf convention vs source t m]) := by
  intro i k hk
  -- the nodes of two states are the same only if the states are
  have hsame : m = k ↔ j = i := by
    obtain ⟨v, hv, rfl⟩ := (nodeOf?_eq_some_iff hnodup).1 hm
    obtain ⟨w, hw, rfl⟩ := (nodeOf?_eq_some_iff hnodup).1 hk
    constructor
    · rintro rfl
      rw [hv] at hw
      cases hw
      rfl
    · intro heq
      rw [heq, hk] at hm
      exact (Option.some.inj hm).symm
  simp only [List.mem_append, List.mem_singleton, or_and_right, exists_or, exists_eq_left, h i k hk,
    entryOf, ht, hsame, Target.state.injEq]

/-- **Wiring reports the transitions to a state that an earlier one leads to**, in their order. -/
theorem reports_of_wire (hnodup : (vs.map (·.index)).Nodup)
    (hnames : ∀ j k, nodeOf? vs j = some k → nodeName vs k = g.serviceName j)
    {table table' : List TransitionEntry} {ws : List Warning} (hseen : Seen vs earlier table)
    (hnode : ∀ t ∈ rest, ∀ j, t.target = .state j → ∃ k, nodeOf? vs j = some k)
    (h : wire convention vs source table rest = .ok (table', ws)) :
    ws = (List.range' earlier.length rest.length).filterMap
      (g.duplicateAt? source (earlier ++ rest)) := by
  induction rest generalizing earlier table ws with
  | nil =>
    rw [wire] at h
    cases h
    rfl
  | cons t rest ih =>
    have hrest := fun u hu => hnode u (List.mem_cons_of_mem t hu)
    have hsplit : earlier ++ t :: rest = earlier ++ [t] ++ rest := by simp
    have hlength : (earlier ++ [t]).length = earlier.length + 1 := by simp
    rw [List.length_cons, List.range'_succ]
    cases ht : t.target with
    | exit =>
      rw [wire_exit ht] at h
      rw [List.filterMap_cons_none (duplicateAt?_exit ht), hsplit, ← hlength]
      exact ih (hseen.exit ht) hrest h
    | state j =>
      obtain ⟨k, hk⟩ := hnode t (List.mem_cons_self ..) j ht
      by_cases hold : ∃ u ∈ earlier, u.target = .state j
      · rw [wire_repeated ht hk ((hseen j k hk).2 hold)] at h
        rw [List.filterMap_cons_some (duplicateAt?_repeated ht hold), hsplit, ← hlength]
        cases hwire : wire convention vs source table rest with
        | error e => rw [hwire] at h; cases h
        | ok r =>
          rw [hwire] at h
          cases h
          rw [hnames j k hk, ih (hseen.repeated ht hold) hrest hwire]
      · have hnew : ∀ e ∈ table, e.target ≠ k := fun e he htarget =>
          hold ((hseen j k hk).1 ⟨e, he, htarget⟩)
        rw [wire_new ht hk hnew] at h
        rw [List.filterMap_cons_none (duplicateAt?_new ht hold), hsplit, ← hlength]
        exact ih (hseen.new hnodup ht hk) hrest h

end Wiring

/-- **Wiring all nodes reports the repeated transitions of their states**, in the order of the
nodes. -/
theorem reports_of_wireAll {initial : ℕ} {vs : List Visit} (htour : Tour ts g initial vs)
    {rest : List Visit} (hrest : ∀ v ∈ rest, v ∈ vs) {id : ℕ} {nodes : List SessionNode}
    {ws : List Warning} (h : wireAll convention vs id rest = .ok (nodes, ws)) :
    ws = rest.flatMap fun v => g.duplicateReports v.index := by
  induction rest generalizing id nodes ws with
  | nil =>
    rw [wireAll] at h
    cases h
    rfl
  | cons v rest ih =>
    obtain ⟨hv, hrest⟩ := List.forall_mem_cons.1 hrest
    rw [wireAll, bind_eq_ok_iff] at h
    obtain ⟨⟨table, reports⟩, hwire, h⟩ := h
    obtain ⟨⟨tail, more⟩, hall, h⟩ := bind_eq_ok_iff.1 h
    cases h
    have hdeclared := htour.declared v hv
    have hnames : ∀ j k, nodeOf? vs j = some k → nodeName vs k = g.serviceName j := by
      intro j k hk
      obtain ⟨w, hw, rfl⟩ := (nodeOf?_eq_some_iff htour.nodup).1 hk
      rw [nodeName_of_getElem? hw,
        serviceName_of_declared (htour.declared w (List.mem_of_getElem? hw))]
    have hnode : ∀ t ∈ v.state.transitions, ∀ j, t.target = .state j →
        ∃ k, nodeOf? vs j = some k := fun t ht j hj =>
      exists_nodeOf? htour.nodup
        (htour.closed v hv j (SessionState.mem_successors.2 ⟨t, ht, hj⟩))
    have hreports := reports_of_wire htour.nodup hnames seen_nil hnode hwire
    rw [List.flatMap_cons, ← ih hrest hall, duplicateReports_of_declared hdeclared,
      List.range_eq_range']
    exact congrArg (· ++ more) hreports

/-! ## How many there are -/

/-- The states that some transitions lead to. -/
def targets (transitions : List SessionTransition) : Finset ℕ :=
  (transitions.filterMap fun t => t.target.index?).toFinset

section Targets

variable {transitions : List SessionTransition} {t : SessionTransition} {j : ℕ}

theorem mem_targets : j ∈ targets transitions ↔ ∃ t ∈ transitions, t.target = .state j := by
  rw [targets, List.mem_toFinset]
  exact SessionState.mem_successors (s := ⟨"", .empty, transitions⟩)

theorem targets_cons_exit (ht : t.target = .exit) :
    targets (t :: transitions) = targets transitions := by
  simp [targets, ht, Target.index?]

theorem targets_cons_state (ht : t.target = .state j) :
    targets (t :: transitions) = insert j (targets transitions) := by
  simp [targets, ht, Target.index?]

theorem targets_concat_exit (ht : t.target = .exit) :
    targets (transitions ++ [t]) = targets transitions := by
  simp [targets, ht, Target.index?]

theorem targets_concat_state (ht : t.target = .state j) :
    targets (transitions ++ [t]) = insert j (targets transitions) := by
  ext i
  simp [targets, ht, Target.index?]

end Targets

/-- **A transition to a state is reported, or it is the first that leads there.** -/
theorem length_duplicates_add_card (source : String) (earlier rest : List SessionTransition) :
    ((List.range' earlier.length rest.length).filterMap
        (g.duplicateAt? source (earlier ++ rest))).length +
      (targets rest \ targets earlier).card = (rest.filterMap fun t => t.target.index?).length := by
  induction rest generalizing earlier with
  | nil => simp [targets]
  | cons t rest ih =>
    have hsplit : earlier ++ t :: rest = earlier ++ [t] ++ rest := by simp
    have hlength : (earlier ++ [t]).length = earlier.length + 1 := by simp
    have hrest := ih (earlier ++ [t])
    rw [List.length_cons, List.range'_succ]
    cases ht : t.target with
    | exit =>
      rw [targets_concat_exit ht, hlength] at hrest
      rw [List.filterMap_cons_none (duplicateAt?_exit ht), targets_cons_exit ht, hsplit,
        List.filterMap_cons_none (by rw [ht]; rfl), hrest]
    | state j =>
      rw [targets_concat_state ht, hlength] at hrest
      rw [List.filterMap_cons_some (b := j) (by rw [ht]; rfl), List.length_cons, ← hrest,
        targets_cons_state ht]
      by_cases hold : ∃ u ∈ earlier, u.target = .state j
      · have hin : j ∈ targets earlier := mem_targets.2 hold
        rw [List.filterMap_cons_some (duplicateAt?_repeated ht hold), hsplit, List.length_cons,
          Finset.insert_sdiff_of_mem _ hin, Finset.insert_eq_of_mem hin]
        omega
      · have hout : j ∉ targets earlier := mt mem_targets.1 hold
        have hfirst : insert j (targets rest) \ targets earlier =
            insert j (targets rest \ insert j (targets earlier)) := by
          ext i
          by_cases hi : i = j <;> simp [hi, hout]
        rw [List.filterMap_cons_none (duplicateAt?_new ht hold), hsplit, hfirst,
          Finset.card_insert_of_notMem (by simp)]
        omega

/-- The enabled entries of a planned node are as many as the states that its transitions lead to. -/
theorem length_enabled {initial : ℕ} {vs : List Visit} (htour : Tour ts g initial vs) {k : ℕ}
    {v : Visit} (hv : v ∈ vs) :
    (plannedNode convention vs k v).enabled.length = (targets v.state.transitions).card := by
  have henabled : ∀ m w, (plannedEntry convention v m w).enabled =
      decide (w.index ∈ targets v.state.transitions) := by
    intro m w
    rw [Bool.eq_iff_iff, decide_eq_true_iff, mem_targets]
    exact (entryFor_plannedEntry v w m).enabled_iff
  have hmarks : (vs.mapIdx (plannedEntry convention v)).map (·.enabled) =
      (vs.map (·.index)).map fun i => decide (i ∈ targets v.state.transitions) :=
    List.ext_getElem (by simp) fun m _ _ => by simp [henabled]
  have hstates : ((vs.map (·.index)).filter (· ∈ targets v.state.transitions)).toFinset =
      targets v.state.transitions := by
    ext j
    rw [List.mem_toFinset, List.mem_filter, decide_eq_true_iff]
    refine ⟨fun h => h.2, fun hj => ⟨?_, hj⟩⟩
    exact htour.closed v hv j (SessionState.mem_successors.2 (mem_targets.1 hj))
  calc (plannedNode convention vs k v).enabled.length
      = (vs.mapIdx (plannedEntry convention v)).countP (·.enabled) :=
        (List.countP_eq_length_filter ..).symm
    _ = ((vs.map (·.index)).map fun i => decide (i ∈ targets v.state.transitions)).countP id := by
        rw [← hmarks, List.countP_map]
        rfl
    _ = ((vs.map (·.index)).filter (· ∈ targets v.state.transitions)).length := by
        rw [List.countP_map, List.countP_eq_length_filter]
        rfl
    _ = (targets v.state.transitions).card := by
        rw [← List.toFinset_card_of_nodup (htour.nodup.filter _), hstates]

/-- **What lowering reports**, of a graph whose nodes are those of the states in `order`. -/
structure ReportsFindings (ts : Transformers) (g : SessionGraph) (l : LoweredSession)
    (order : List ℕ) : Prop where
  /-- The states that have a node are those that can be reached. -/
  nodup : order.Nodup
  reachable : ∀ i, i ∈ order ↔ g.Reachable i
  length : order.length = l.nodes.length
  /-- They are in the order of their nodes. -/
  shows : ∀ (k : ℕ) (n : SessionNode) (i : ℕ), l.nodes[k]? = some n → order[k]? = some i →
    n.id = k ∧ Shows ts g n i
  /-- The branches of the protocol graphs are reported first, then the repeated transitions. -/
  warnings : l.warnings = order.flatMap g.branchReports ++ order.flatMap g.duplicateReports
  /-- A transition to a state is reported, or has an enabled entry. -/
  counts : ∀ (k : ℕ) (n : SessionNode) (i : ℕ) (s : SessionState), l.nodes[k]? = some n →
    order[k]? = some i → g.state? i = some s →
      n.enabled.length + (g.duplicateReports i).length = s.successors.length

/-- **Lowering reports exactly the findings there are**: for the states that are visited, in the
order of their nodes, the branches on the paths of their protocol graphs and the transitions that
repeat an earlier one. -/
theorem findings_of_lower {l : LoweredSession} (h : g.lower ts convention = .ok l) :
    ∃ initial vs ws, g.initial = some initial ∧
      g.visits ts (List.range g.states.length) [initial] = .ok (vs, ws) ∧
      ReportsFindings ts g l (vs.map (·.index)) := by
  obtain ⟨initial, vs, ws, hinitial, hvisits, -, hnodes⟩ := nodes_of_lower h
  obtain ⟨nodes, more, hall, hwarnings⟩ := warnings_of_lower h hinitial hvisits
  have htour := tour_of_visits hvisits
  refine ⟨initial, vs, ws, hinitial, hvisits, htour.nodup, mem_visits_iff hinitial hvisits,
    by simp [hnodes], fun k n i hn hi => htour.shows_of_getElem? (hnodes ▸ hn) hi, ?_,
    fun k n i s hn hi hs => ?_⟩
  · rw [hwarnings, (walk_of_visits hvisits).reports, reports_of_wireAll htour (fun v hv => hv) hall,
      List.flatMap_map, List.flatMap_map]
  · obtain ⟨v, hv, rfl⟩ := getElem?_index_eq_some_iff.1 hi
    have hmem := List.mem_of_getElem? hv
    have hdeclared := htour.declared v hmem
    rw [hnodes, getElem?_plannedNode convention hv] at hn
    cases hn
    rw [hdeclared.state] at hs
    cases hs
    have hcount := length_duplicates_add_card (g := g) v.service.name [] v.state.transitions
    have hnone : targets [] = ∅ := rfl
    rw [hnone, Finset.sdiff_empty, List.nil_append, List.length_nil] at hcount
    rw [length_enabled htour hmem, duplicateReports_of_declared hdeclared, List.range_eq_range',
      Nat.add_comm]
    exact hcount

/-- Two states that repeat transitions, one of which searches, and a third that no one comes to. -/
def haunts : SessionGraph where
  services := [.named "Home", .named "Shop"]
  states := [
    ⟨"Shop", .searching, [⟨0, .state 1, [], []⟩, ⟨0, .exit, [], []⟩, ⟨0, .exit, [], []⟩,
      ⟨0, .state 1, [], []⟩]⟩,
    ⟨"Home", .empty, [⟨1, .state 0, [], []⟩, ⟨1, .state 1, [], []⟩, ⟨1, .state 0, [], []⟩,
      ⟨1, .state 0, [], []⟩]⟩,
    ⟨"Shop", .searching, [⟨2, .state 0, [], []⟩, ⟨2, .state 0, [], []⟩]⟩]
  initial := some 1

theorem findings_of_lower_haunts :
    ∃ l order, haunts.lower .builtIn .prefixUnnegated = .ok l ∧
      l.warnings = [.nonLinearProtocol "Shop" "find" 3, .duplicateTransition "Home" "Shop",
        .duplicateTransition "Home" "Shop", .duplicateTransition "Shop" "Home"] ∧
      ReportsFindings .builtIn haunts l order := by
  have hwarnings : (haunts.lower .builtIn .prefixUnnegated).toOption.map (·.warnings) =
      some [.nonLinearProtocol "Shop" "find" 3, .duplicateTransition "Home" "Shop",
        .duplicateTransition "Home" "Shop", .duplicateTransition "Shop" "Home"] := by cbv
  obtain ⟨l, hlower, hreports⟩ := exists_eq_ok_of_toOption_map hwarnings
  obtain ⟨initial, vs, ws, -, -, hfindings⟩ := findings_of_lower hlower
  exact ⟨l, _, hlower, hreports, hfindings⟩

end SessionGraph

end LoadPlan
