import LoadPlan.Proofs.Lowering.Completion
import LoadPlan.Proofs.Results
import LoadPlan.Proofs.Session.Walk
/-!
# The nodes of a lowered graph

What lowering makes of the visits of a walk, in closed form. `SessionGraph.wire` looks into the
table it is building, and completion takes that table apart again; what is left at the end is
`plannedNode`, which reads the entry for each node off the transitions of the state. The main
statement is `nodes_of_lower`: the nodes of a lowered graph are the planned ones, one for each
visit and in that order. That nothing fails once the walk is over is `exists_lower_of_visits`.
-/

namespace LoadPlan

namespace SessionGraph

variable {ts : Transformers} {g : SessionGraph} {convention : GuardNegation}
variable {vs : List Visit} {source : String}

/-! ## Nodes by state -/

theorem getElem?_index_eq_some_iff {i k : Nat} :
    (vs.map (·.index))[k]? = some i ↔ ∃ v, vs[k]? = some v ∧ v.index = i := by
  rw [List.getElem?_map, Option.map_eq_some_iff]

/-- The node of a state has the place of its visit. -/
theorem nodeOf?_eq_some_iff (hnodup : (vs.map (·.index)).Nodup) {j k : Nat} :
    nodeOf? vs j = some k ↔ ∃ v, vs[k]? = some v ∧ v.index = j := by
  rw [nodeOf?, List.findIdx?_eq_some_iff_getElem]
  constructor
  · rintro ⟨hk, hindex, -⟩
    exact ⟨vs[k], List.getElem?_eq_getElem hk, by simpa using hindex⟩
  · rintro ⟨v, hv, rfl⟩
    obtain ⟨hk, rfl⟩ := List.getElem?_eq_some_iff.1 hv
    refine ⟨hk, by simp, fun m hm heq => ?_⟩
    have hm' : (vs.map (·.index))[m]? = some vs[k].index :=
      getElem?_index_eq_some_iff.2 ⟨vs[m], List.getElem?_eq_getElem _, by simpa using heq⟩
    have hk' : (vs.map (·.index))[k]? = some vs[k].index :=
      getElem?_index_eq_some_iff.2 ⟨vs[k], List.getElem?_eq_getElem _, rfl⟩
    have hlt : m < (vs.map (·.index)).length := by rw [List.length_map]; omega
    exact absurd ((List.getElem?_inj hlt hnodup).1 (hm'.trans hk'.symm)) (by omega)

theorem exists_nodeOf? (hnodup : (vs.map (·.index)).Nodup) {j : Nat}
    (hj : j ∈ vs.map (·.index)) : ∃ k, nodeOf? vs j = some k := by
  obtain ⟨v, hv, rfl⟩ := List.mem_map.1 hj
  obtain ⟨k, hk⟩ := List.mem_iff_getElem?.1 hv
  exact ⟨k, (nodeOf?_eq_some_iff hnodup).2 ⟨v, hk, rfl⟩⟩

/-- The initial state is visited first. -/
theorem Tour.getElem?_zero {initial : Nat} (h : Tour ts g initial vs) :
    (vs.map (·.index))[0]? = some initial := by
  rw [← List.head?_eq_getElem?, h.head]

/-- It has the first node. -/
theorem Tour.nodeOf?_initial {initial : Nat} (h : Tour ts g initial vs) :
    nodeOf? vs initial = some 0 :=
  (nodeOf?_eq_some_iff h.nodup).2 (getElem?_index_eq_some_iff.1 h.getElem?_zero)

theorem Tour.length_pos {initial : Nat} (h : Tour ts g initial vs) : 0 < vs.length := by
  obtain ⟨v, hv, -⟩ := getElem?_index_eq_some_iff.1 h.getElem?_zero
  exact (List.getElem?_eq_some_iff.1 hv).1

theorem nodeName_of_getElem? {k : Nat} {v : Visit} (h : vs[k]? = some v) :
    nodeName vs k = v.service.name := by
  simp [nodeName, h]

/-! ## Wiring one node -/

/-- The node that a transition leads to. -/
def destination (vs : List Visit) (t : SessionTransition) : Option Nat :=
  t.target.index?.bind (nodeOf? vs)

/-- The entry that a transition becomes. -/
def entryOf (convention : GuardNegation) (vs : List Visit) (source : String)
    (t : SessionTransition) (target : Nat) : TransitionEntry :=
  ⟨target, nodeName vs target, Guard.expression convention t.guards,
    Action.expression source (nodeName vs target) t.actions, true⟩

/-- A transition without a node to lead to leaves the table, if it leads out. -/
theorem wire_exit {table : List TransitionEntry} {t : SessionTransition}
    {rest : List SessionTransition} (ht : t.target = .exit) :
    wire convention vs source table (t :: rest) = wire convention vs source table rest := by
  simp only [wire, ht]

/-- A second transition to a node is reported and leaves the table. -/
theorem wire_repeated {table : List TransitionEntry} {t : SessionTransition}
    {rest : List SessionTransition} {j k : Nat} (ht : t.target = .state j)
    (hk : nodeOf? vs j = some k) (hold : ∃ e ∈ table, e.target = k) :
    wire convention vs source table (t :: rest) =
      (wire convention vs source table rest).map fun r =>
        (r.1, .duplicateTransition source (nodeName vs k) :: r.2) := by
  have hany : (table.any fun e => e.target == k) = true := by simpa using hold
  simp only [wire, ht, hk, hany, if_true]
  cases wire convention vs source table rest <;> rfl

/-- The first transition to a node becomes an entry. -/
theorem wire_new {table : List TransitionEntry} {t : SessionTransition}
    {rest : List SessionTransition} {j k : Nat} (ht : t.target = .state j)
    (hk : nodeOf? vs j = some k) (hnew : ∀ e ∈ table, e.target ≠ k) :
    wire convention vs source table (t :: rest) =
      wire convention vs source (table ++ [entryOf convention vs source t k]) rest := by
  have hany : (table.any fun e => e.target == k) = false := by simpa using hnew
  simp only [wire, ht, hk, hany]
  rfl

/-- **What wiring adds to a table**: for each node without an entry, one for the first transition
that leads to it. -/
structure Wired (convention : GuardNegation) (vs : List Visit) (source : String)
    (table : List TransitionEntry) (transitions : List SessionTransition)
    (table' : List TransitionEntry) : Prop where
  mem_iff (e : TransitionEntry) : e ∈ table' ↔ e ∈ table ∨
    (∀ e' ∈ table, e'.target ≠ e.target) ∧
      ∃ t, transitions.find? (fun t => destination vs t == some e.target) = some t ∧
        e = entryOf convention vs source t e.target

namespace Wired

variable {t : SessionTransition} {rest : List SessionTransition}
variable {table table' : List TransitionEntry} {k : Nat}

/-- A transition that leads out adds nothing. -/
theorem exit (ht : t.target = .exit) (h : Wired convention vs source table rest table') :
    Wired convention vs source table (t :: rest) table' := by
  refine ⟨fun e => ?_⟩
  have hskip : ∀ k, (destination vs t == some k) = false := by simp [destination, ht, Target.index?]
  rw [h.mem_iff e, List.find?_cons_of_neg (by simp [hskip])]

/-- A second transition to a node adds nothing. -/
theorem repeated (hdest : destination vs t = some k) (hold : ∃ e ∈ table, e.target = k)
    (h : Wired convention vs source table rest table') :
    Wired convention vs source table (t :: rest) table' := by
  refine ⟨fun e => ?_⟩
  obtain ⟨e', he', htarget⟩ := hold
  rw [h.mem_iff e]
  by_cases he : e.target = k
  · have hnot : ¬ ∀ e' ∈ table, e'.target ≠ e.target :=
      fun h => h e' he' (htarget.trans he.symm)
    simp [hnot]
  · rw [List.find?_cons_of_neg (by simp [hdest, Ne.symm he])]

/-- The first transition to a node adds its entry. -/
theorem new (hdest : destination vs t = some k) (hnew : ∀ e ∈ table, e.target ≠ k)
    (h : Wired convention vs source (table ++ [entryOf convention vs source t k]) rest table') :
    Wired convention vs source table (t :: rest) table' := by
  refine ⟨fun e => ?_⟩
  rw [h.mem_iff e, List.mem_append, List.mem_singleton, List.forall_mem_append,
    List.forall_mem_singleton]
  by_cases he : e.target = k
  · -- the new entry is the one for this node, and no later one is added
    subst he
    rw [List.find?_cons_of_pos (by simp [hdest])]
    have hadded : ¬ (entryOf convention vs source t e.target).target ≠ e.target := by
      simp [entryOf]
    simp only [hadded, and_false, false_and, or_false, Option.some.injEq, exists_eq_left']
    exact or_congr_right ⟨fun h => ⟨hnew, h⟩, fun h => h.2⟩
  · have hother : (entryOf convention vs source t k).target ≠ e.target := Ne.symm he
    have hadded : e ≠ entryOf convention vs source t k := fun h => he (by rw [h]; rfl)
    rw [List.find?_cons_of_neg (by simp [hdest, Ne.symm he])]
    simp only [hadded, or_false, ne_eq, hother, not_false_eq_true, and_true]

end Wired

variable (convention source) in
/-- Wiring succeeds when every target has a node. -/
theorem exists_wire {transitions : List SessionTransition}
    (hnode : ∀ t ∈ transitions, ∀ j, t.target = .state j → ∃ k, nodeOf? vs j = some k)
    (table : List TransitionEntry) :
    ∃ table' ws, wire convention vs source table transitions = .ok (table', ws) ∧
      Wired convention vs source table transitions table' := by
  induction transitions generalizing table with
  | nil => exact ⟨table, [], by rw [wire], ⟨fun e => by simp⟩⟩
  | cons t rest ih =>
    have hrest := fun u hu => hnode u (List.mem_cons_of_mem t hu)
    cases ht : t.target with
    | exit =>
      obtain ⟨table', ws, hwire, hwired⟩ := ih hrest table
      exact ⟨table', ws, by rw [wire_exit ht, hwire], hwired.exit ht⟩
    | state j =>
      obtain ⟨k, hk⟩ := hnode t (List.mem_cons_self ..) j ht
      have hdest : destination vs t = some k := by simp [destination, ht, Target.index?, hk]
      by_cases hold : ∃ e ∈ table, e.target = k
      · obtain ⟨table', ws, hwire, hwired⟩ := ih hrest table
        exact ⟨table', _, by rw [wire_repeated ht hk hold, hwire]; rfl, hwired.repeated hdest hold⟩
      · have hnew : ∀ e ∈ table, e.target ≠ k := fun e he htarget => hold ⟨e, he, htarget⟩
        obtain ⟨table', ws, hwire, hwired⟩ := ih hrest (table ++ [entryOf convention vs source t k])
        exact ⟨table', ws, by rw [wire_new ht hk hnew, hwire], hwired.new hdest hnew⟩

/-! ## The planned nodes -/

/-- **The entry of a node for another one**, read off the state: the first transition that leads
to the other's state, or a disabled entry. -/
def plannedEntry (convention : GuardNegation) (v : Visit) (m : Nat) (w : Visit) :
    TransitionEntry :=
  match v.state.transitions.find? fun t => t.target = .state w.index with
  | some t =>
    ⟨m, w.service.name, Guard.expression convention t.guards,
      Action.expression v.service.name w.service.name t.actions, true⟩
  | none => .disabled m w.service.name

/-- **The node of a visit**, with an entry for every visit of the walk. -/
def plannedNode (convention : GuardNegation) (vs : List Visit) (k : Nat) (v : Visit) :
    SessionNode :=
  ⟨k, v.service.name, v.service.id, v.requests, vs.mapIdx (plannedEntry convention v)⟩

variable (convention) in
/-- The planned node in a place is the one of the visit there. -/
theorem getElem?_plannedNode {k : Nat} {v : Visit} (hv : vs[k]? = some v) :
    (vs.mapIdx (plannedNode convention vs))[k]? = some (plannedNode convention vs k v) := by
  rw [List.getElem?_mapIdx, hv, Option.map_some]

/-- A transition leads to the node of a visit when its target is the state visited. -/
theorem destination_eq_some_iff (hnodup : (vs.map (·.index)).Nodup) {t : SessionTransition}
    {m : Nat} {w : Visit} (hw : vs[m]? = some w) :
    destination vs t = some m ↔ t.target = .state w.index := by
  cases ht : t.target with
  | exit => simp [destination, ht, Target.index?]
  | state j =>
    have hdest : destination vs t = nodeOf? vs j := by simp [destination, ht, Target.index?]
    rw [hdest, nodeOf?_eq_some_iff hnodup, Target.state.injEq]
    constructor
    · rintro ⟨w', hw', rfl⟩
      rw [hw] at hw'
      cases hw'
      rfl
    · rintro rfl
      exact ⟨w, hw, rfl⟩

/-- Completing a wired table gives the planned entry. -/
theorem eq_plannedEntry_of_completes (hnodup : (vs.map (·.index)).Nodup) {v w : Visit} {m : Nat}
    (hw : vs[m]? = some w) {table : List TransitionEntry} {e : TransitionEntry}
    (hwired : Wired convention vs v.service.name [] v.state.transitions table)
    (he : SessionNode.Completes table m w.service.name e) : e = plannedEntry convention v m w := by
  have hmem : ∀ e', e' ∈ table ↔
      ∃ t, v.state.transitions.find? (fun t => destination vs t == some e'.target) = some t ∧
        e' = entryOf convention vs v.service.name t e'.target := by
    intro e'
    simpa using hwired.mem_iff e'
  have hfind : v.state.transitions.find? (fun t => destination vs t == some m) =
      v.state.transitions.find? fun t => t.target = .state w.index := by
    congr 1
    funext t
    rw [Bool.eq_iff_iff, beq_iff_eq, decide_eq_true_iff, destination_eq_some_iff hnodup hw]
  rcases he with ⟨hin, hserves⟩ | ⟨hnone, rfl⟩
  · obtain ⟨t, ht, heq⟩ := (hmem e).1 hin
    rw [(SessionNode.servesFor_iff.1 hserves).1, hfind] at ht
    rw [(SessionNode.servesFor_iff.1 hserves).1] at heq
    rw [heq, plannedEntry, ht, entryOf, nodeName_of_getElem? hw]
  · rw [plannedEntry]
    cases ht : v.state.transitions.find? fun t => t.target = .state w.index with
    | none => rfl
    | some t =>
      -- then the table has an entry for the node, so it is not completed by a disabled one
      rw [← hfind] at ht
      exact absurd (SessionNode.servesFor_iff.2 ⟨rfl, rfl⟩)
        (hnone (entryOf convention vs v.service.name t m) ((hmem _).2 ⟨t, ht, rfl⟩))

variable (convention) in
/-- Wiring all nodes succeeds when every target has a node. -/
theorem exists_wireAll {rest : List Visit}
    (hnode : ∀ v ∈ rest, ∀ j ∈ v.state.successors, ∃ k, nodeOf? vs j = some k) (id : Nat) :
    ∃ (nodes : List SessionNode) (ws : List Warning),
      wireAll convention vs id rest = .ok (nodes, ws) ∧ nodes.length = rest.length ∧
      ∀ (p : Nat) (v : Visit), rest[p]? = some v → ∃ table,
        nodes[p]? = some ⟨id + p, v.service.name, v.service.id, v.requests, table⟩ ∧
          Wired convention vs v.service.name [] v.state.transitions table := by
  induction rest generalizing id with
  | nil => exact ⟨[], [], by rw [wireAll], rfl, by simp⟩
  | cons v rest ih =>
    obtain ⟨nodes, more, hall, hlength, hnodes⟩ :=
      ih (fun w hw => hnode w (List.mem_cons_of_mem v hw)) (id + 1)
    obtain ⟨table, ws, hwire, hwired⟩ := exists_wire convention v.service.name
      (fun t ht j hj => hnode v (List.mem_cons_self ..) j
        (SessionState.mem_successors.2 ⟨t, ht, hj⟩)) []
    refine ⟨⟨id, v.service.name, v.service.id, v.requests, table⟩ :: nodes, ws ++ more, ?_,
      by rw [List.length_cons, List.length_cons, hlength], fun p w hp => ?_⟩
    · rw [wireAll, hwire, hall]
      rfl
    · cases p with
      | zero =>
        cases hp
        exact ⟨table, rfl, hwired⟩
      | succ p =>
        obtain ⟨table', hget, hwired'⟩ := hnodes p w hp
        refine ⟨table', ?_, hwired'⟩
        rw [List.getElem?_cons_succ, hget, Nat.add_right_comm, Nat.add_assoc]

/-- What completion asks an entry for: the id and the name of the node of each visit. -/
def nodeTargets (vs : List Visit) : List (Nat × String) := vs.mapIdx fun k v => (k, v.service.name)

theorem nodup_nodeTargets : ((nodeTargets vs).map (·.1)).Nodup := by
  have hids : (nodeTargets vs).map (·.1) = List.range vs.length :=
    List.ext_getElem (by simp [nodeTargets]) fun p _ _ => by simp [nodeTargets]
  rw [hids]
  exact List.nodup_range

/-- **Filled, a wired table has the planned entries.** -/
theorem fill_of_wired (hnodup : (vs.map (·.index)).Nodup) {v : Visit}
    {table : List TransitionEntry}
    (hwired : Wired convention vs v.service.name [] v.state.transitions table) :
    SessionNode.fill table (nodeTargets vs) = vs.mapIdx (plannedEntry convention v) := by
  refine List.ext_getElem? fun m => ?_
  rw [List.getElem?_mapIdx]
  cases hm : vs[m]? with
  | none =>
    have hlen : (SessionNode.fill table (nodeTargets vs)).length = vs.length := by
      rw [SessionNode.length_fill, nodeTargets, List.length_mapIdx]
    rw [List.getElem?_eq_none (hlen ▸ List.getElem?_eq_none_iff.1 hm), Option.map_none]
  | some w =>
    have htarget : (nodeTargets vs)[m]? = some (m, w.service.name) := by
      rw [nodeTargets, List.getElem?_mapIdx, hm, Option.map_some]
    obtain ⟨e, hfill, hcompletes⟩ := SessionNode.getElem?_fill nodup_nodeTargets table htarget
    rw [hfill, eq_plannedEntry_of_completes hnodup hm hwired hcompletes, Option.map_some]

/-- **Completed, the wired nodes are the planned ones.** -/
theorem completeTables_of_wireAll (hnodup : (vs.map (·.index)).Nodup) {nodes : List SessionNode}
    (hlength : nodes.length = vs.length)
    (hnodes : ∀ (p : Nat) (v : Visit), vs[p]? = some v → ∃ table,
      nodes[p]? = some ⟨p, v.service.name, v.service.id, v.requests, table⟩ ∧
        Wired convention vs v.service.name [] v.state.transitions table) :
    completeTables nodes = vs.mapIdx (plannedNode convention vs) := by
  have hnone : ∀ p, vs[p]? = none → nodes[p]? = none := fun p hp =>
    List.getElem?_eq_none (hlength ▸ List.getElem?_eq_none_iff.1 hp)
  have htargets : nodes.map (fun n => (n.id, n.name)) = nodeTargets vs := by
    refine List.ext_getElem? fun p => ?_
    rw [nodeTargets, List.getElem?_map, List.getElem?_mapIdx]
    cases hp : vs[p]? with
    | none => rw [hnone p hp, Option.map_none, Option.map_none]
    | some v =>
      obtain ⟨table, hget, -⟩ := hnodes p v hp
      rw [hget, Option.map_some, Option.map_some]
  rw [completeTables, htargets]
  refine List.ext_getElem? fun p => ?_
  rw [List.getElem?_map, List.getElem?_mapIdx]
  cases hp : vs[p]? with
  | none => rw [hnone p hp, Option.map_none, Option.map_none]
  | some v =>
    obtain ⟨table, hget, hwired⟩ := hnodes p v hp
    rw [hget, Option.map_some, Option.map_some, fill_of_wired hnodup hwired, plannedNode]

/-! ## Lowering -/

theorem lower_none (hinitial : g.initial = none) :
    g.lower ts convention = .error (.model .noInitialState) := by
  simp only [lower, hinitial]

/-- A walk that fails is why lowering fails. -/
theorem lower_of_visits_error {initial : Nat} {e : CompileError} (hinitial : g.initial = some initial)
    (h : g.visits ts (List.range g.states.length) [initial] = .error e) :
    g.lower ts convention = .error e := by
  simp only [lower, hinitial, h]
  rfl

variable (convention) in
/-- **Once the walk is over nothing fails**, and the nodes are the planned ones. -/
theorem exists_lower_of_visits {initial : Nat} {vs : List Visit} {ws : List Warning}
    (hinitial : g.initial = some initial)
    (h : g.visits ts (List.range g.states.length) [initial] = .ok (vs, ws)) :
    ∃ more, g.lower ts convention =
      .ok ⟨0, vs.mapIdx (plannedNode convention vs), ws ++ more⟩ := by
  have htour := tour_of_visits h
  obtain ⟨nodes, more, hall, hlength, hnodes⟩ := exists_wireAll convention
    (fun v hv j hj => exists_nodeOf? htour.nodup (htour.closed v hv j hj)) 0
  simp only [Nat.zero_add] at hnodes
  refine ⟨more, ?_⟩
  simp only [lower, hinitial, h, hall, htour.nodeOf?_initial,
    completeTables_of_wireAll htour.nodup hlength hnodes, bind, Except.bind]
  rfl

/-- **A lowered graph is the planned nodes of its walk.** -/
theorem nodes_of_lower {l : LoweredSession} (h : g.lower ts convention = .ok l) :
    ∃ initial vs ws, g.initial = some initial ∧
      g.visits ts (List.range g.states.length) [initial] = .ok (vs, ws) ∧
      l.initial = 0 ∧ l.nodes = vs.mapIdx (plannedNode convention vs) := by
  cases hinitial : g.initial with
  | none => rw [lower_none hinitial] at h; cases h
  | some initial =>
    cases hvisits : g.visits ts (List.range g.states.length) [initial] with
    | error e => rw [lower_of_visits_error hinitial hvisits] at h; cases h
    | ok r =>
      obtain ⟨vs, ws⟩ := r
      obtain ⟨more, hlower⟩ := exists_lower_of_visits convention hinitial hvisits
      rw [hlower] at h
      cases h
      exact ⟨initial, vs, ws, rfl, hvisits, rfl, rfl⟩

/-- The reports of a lowering are those of its walk and those of the wiring. -/
theorem warnings_of_lower {l : LoweredSession} (h : g.lower ts convention = .ok l) {initial : Nat}
    {ws : List Warning} (hinitial : g.initial = some initial)
    (hvisits : g.visits ts (List.range g.states.length) [initial] = .ok (vs, ws)) :
    ∃ nodes more, wireAll convention vs 0 vs = .ok (nodes, more) ∧ l.warnings = ws ++ more := by
  simp only [lower, hinitial, hvisits] at h
  obtain ⟨r, hr, h⟩ := bind_eq_ok_iff.1 h
  cases hr
  obtain ⟨⟨nodes, more⟩, hall, h⟩ := bind_eq_ok_iff.1 h
  refine ⟨nodes, more, hall, ?_⟩
  dsimp only at h
  split at h
  · cases h
  · cases h
    rfl

/-! ## Exact tables -/

/-- **What the entry of one visited state for another says**: it is enabled when a transition
leads there, and then shows the first of those. -/
structure EntryFor (convention : GuardNegation) (v w : Visit) (e : TransitionEntry) : Prop where
  enabled_iff : e.enabled ↔ ∃ t ∈ v.state.transitions, t.target = .state w.index
  texts (t : SessionTransition) :
    v.state.transitions.find? (fun t => t.target = .state w.index) = some t →
      e.guard = Guard.expression convention t.guards ∧
        e.action = Action.expression v.service.name w.service.name t.actions
  blank : e.enabled = false → e.guard = "" ∧ e.action = ""

theorem entryFor_plannedEntry (v w : Visit) (m : Nat) :
    EntryFor convention v w (plannedEntry convention v m w) := by
  rw [plannedEntry]
  cases hfind : v.state.transitions.find? fun t => t.target = .state w.index with
  | none =>
    have hnone : ∀ t ∈ v.state.transitions, t.target ≠ .state w.index := by
      simpa using List.find?_eq_none.1 hfind
    refine ⟨⟨fun h => absurd h (by simp [TransitionEntry.disabled]), ?_⟩, fun t ht => ?_,
      fun _ => ⟨rfl, rfl⟩⟩
    · rintro ⟨t, ht, htarget⟩
      exact absurd htarget (hnone t ht)
    · rw [hfind] at ht
      cases ht
  | some t =>
    have htarget : t.target = .state w.index := by simpa using List.find?_some hfind
    refine ⟨⟨fun _ => ⟨t, List.mem_of_find?_eq_some hfind, htarget⟩, fun _ => rfl⟩,
      fun u hu => ?_, fun h => by cases h⟩
    rw [hfind] at hu
    cases hu
    exact ⟨rfl, rfl⟩

/-- **Completed tables are exact.** The walk has visited a state for each node, in the order of
the nodes, and the node shows what the visit shows. The table of each node has one entry for every
node, in that order, and the entry says what the declared transitions between the two states
say. -/
theorem table_exact_of_lower {l : LoweredSession} (h : g.lower ts convention = .ok l) :
    ∃ initial vs ws, g.initial = some initial ∧
      g.visits ts (List.range g.states.length) [initial] = .ok (vs, ws) ∧
      vs.length = l.nodes.length ∧
      ∀ (i : Nat) (v : Visit) (n : SessionNode), vs[i]? = some v → l.nodes[i]? = some n →
        g.state? v.index = some v.state ∧ g.service? v.state.service = some v.service ∧
        n.name = v.service.name ∧ n.service = v.service.id ∧ n.requests = v.requests ∧
        n.transitions.length = l.nodes.length ∧
        ∀ (j : Nat) (w : Visit) (m : SessionNode), vs[j]? = some w → l.nodes[j]? = some m →
          ∃ e, n.transitions[j]? = some e ∧ e.target = j ∧ e.targetName = m.name ∧
            EntryFor convention v w e := by
  obtain ⟨initial, vs, ws, hinitial, hvisits, -, hnodes⟩ := nodes_of_lower h
  have htour := tour_of_visits hvisits
  have hnode : ∀ (i : Nat) (v : Visit) (n : SessionNode), vs[i]? = some v →
      l.nodes[i]? = some n → n = plannedNode convention vs i v := by
    intro i v n hv hn
    rw [hnodes, getElem?_plannedNode convention hv] at hn
    exact (Option.some.inj hn).symm
  refine ⟨initial, vs, ws, hinitial, hvisits, by simp [hnodes], fun i v n hv hn => ?_⟩
  have hdeclared := htour.declared v (List.mem_of_getElem? hv)
  rw [hnode i v n hv hn]
  refine ⟨hdeclared.state, hdeclared.service, rfl, rfl, rfl, by simp [plannedNode, hnodes],
    fun j w m hw hm => ?_⟩
  rw [hnode j w m hw hm]
  refine ⟨plannedEntry convention v j w, ?_, ?_, ?_, entryFor_plannedEntry v w j⟩
  · rw [plannedNode, List.getElem?_mapIdx, hw, Option.map_some]
  · rw [plannedEntry]
    split <;> rfl
  · rw [plannedEntry, plannedNode]
    split <;> rfl

/-- Two states that lead to each other in several ways, and a third that leads to one of them. -/
def shuttle : SessionGraph where
  services := [.named "A", .named "B"]
  states := [
    ⟨"B", .empty, [⟨0, .state 1, [⟨⟨"seen", .boolean, none, none⟩, false⟩], []⟩,
      ⟨0, .exit, [], []⟩, ⟨0, .state 0, [], [⟨⟨"laps", .integer, none, some "B"⟩⟩]⟩]⟩,
    ⟨"A", .empty, [⟨1, .state 0, [], [⟨⟨"laps", .integer, some "A", none⟩⟩]⟩,
      ⟨1, .state 0, [], []⟩]⟩,
    ⟨"A", .empty, [⟨2, .state 1, [], []⟩]⟩]
  initial := some 1

/-- Its plan starts at the second state, and reports the transition that is left out. -/
def shuttlePlan : LoweredSession where
  initial := 0
  nodes := [
    ⟨0, "A", "A", [], [⟨0, "A", "", "", false⟩, ⟨1, "B", "", "laps=laps-1", true⟩]⟩,
    ⟨1, "B", "B", [], [⟨0, "A", "!seen", "", true⟩, ⟨1, "B", "", "laps=laps+1", true⟩]⟩]
  warnings := [.duplicateTransition "A" "B"]

theorem table_exact_shuttle :
    shuttle.lower .builtIn .prefixUnnegated = .ok shuttlePlan ∧
    ∃ vs ws, shuttle.visits .builtIn [0, 1, 2] [1] = .ok (vs, ws) ∧ vs.length = 2 ∧
      ∀ v w, vs[1]? = some v → vs[0]? = some w →
        EntryFor .prefixUnnegated v w ⟨0, "A", "!seen", "", true⟩ := by
  have hlower : shuttle.lower .builtIn .prefixUnnegated = .ok shuttlePlan := by cbv
  obtain ⟨initial, vs, ws, hinitial, hvisits, hlength, hexact⟩ := table_exact_of_lower hlower
  cases hinitial
  refine ⟨hlower, vs, ws, hvisits, hlength, fun v w hv hw => ?_⟩
  obtain ⟨-, -, -, -, -, -, htable⟩ := hexact 1 v _ hv rfl
  obtain ⟨e, he, -, -, hentry⟩ := htable 0 w _ hw rfl
  cases he
  exact hentry

end SessionGraph

end LoadPlan
