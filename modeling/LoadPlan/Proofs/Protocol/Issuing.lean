import LoadPlan.Proofs.Protocol.Trail
import LoadPlan.Proofs.Results
/-!
# Lowering along the first-transition path

Lowering issues the requests on the path of a graph, in its order, and reports the branches on it;
it fails for the first place on the path that is no state or whose request has no sampler
(`LowersAlong`). `ProtocolGraph.run` is the same walk as a loop that marks the states it has come
through, with a number of turns at most: it is over after one turn more than there are states,
whatever the transitions are (`lower_along_path`).
-/

namespace LoadPlan

/-- **The node of a state**: it has the name of the request and the sampler that the request
becomes, and all patterns of the state's assertions if there are any. -/
structure ProtocolState.Issues (ts : Transformers) (s : ProtocolState) (node : RequestNode) :
    Prop where
  name : node.name = s.request.id
  sampler : ts.transform s.request = .ok node.sampler
  assertion : ∀ a, node.assertion = some a ↔
    s.assertions ≠ [] ∧ a = ⟨s.request.id ++ " assertion", s.assertions⟩

theorem Transformers.issues_of_requestNode {ts : Transformers} {s : ProtocolState}
    {node : RequestNode} (h : ts.requestNode s = .ok node) : s.Issues ts node := by
  rw [requestNode, bind_eq_ok_iff] at h
  obtain ⟨sampler, hsampler, hnode⟩ := h
  cases hnode
  refine ⟨rfl, hsampler, fun a => ?_⟩
  cases s.assertions with
  | nil => simp
  | cons first rest => simp [eq_comm]

namespace ProtocolGraph

variable {ts : Transformers} {service : String} {g : ProtocolGraph}

/-! ## Places on a path -/

/-- The node of the state `i`. -/
def nodeAt (ts : Transformers) (g : ProtocolGraph) (i : ℕ) : Except CompileError RequestNode :=
  match g.state? i with
  | none => .error (.model (.unknownProtocolState i))
  | some s => ts.requestNode s

/-- **The reports on the branches of a path**: one for each of its states that has more than one
transition. -/
def branches (service : String) (g : ProtocolGraph) (path : List ℕ) : List Warning :=
  ((path.filterMap g.state?).filter fun s => 1 < s.transitions.length).map fun s =>
    .nonLinearProtocol service s.request.id s.transitions.length

/-- What lowering makes of a path: its nodes or the first error, and the reports up to there. -/
def along (ts : Transformers) (service : String) (g : ProtocolGraph) (path : List ℕ) :
    Except CompileError (List RequestNode) × List Warning :=
  (path.mapM (g.nodeAt ts), g.branches service (path.takeWhile fun i => (g.nodeAt ts i).toBool))

variable {i : ℕ} {s : ProtocolState} {node : RequestNode} {e : CompileError}

theorem nodeAt_missing (hs : g.state? i = none) :
    g.nodeAt ts i = .error (.model (.unknownProtocolState i)) := by
  simp only [nodeAt, hs]

theorem nodeAt_state (hs : g.state? i = some s) : g.nodeAt ts i = ts.requestNode s := by
  simp only [nodeAt, hs]

theorem branches_cons (hs : g.state? i = some s) (rest : List ℕ) :
    g.branches service (i :: rest) = s.branchWarnings service ++ g.branches service rest := by
  rw [branches, List.filterMap_cons_some hs, ProtocolState.branchWarnings]
  by_cases hbranch : 1 < s.transitions.length
  · rw [List.filter_cons_of_pos (by simpa using hbranch), if_pos hbranch, List.map_cons, branches,
      List.singleton_append]
  · rw [List.filter_cons_of_neg (by simpa using hbranch), if_neg hbranch, branches, List.nil_append]

theorem along_nil : g.along ts service [] = (.ok [], []) := rfl

theorem along_failed (hnode : g.nodeAt ts i = .error e) (rest : List ℕ) :
    g.along ts service (i :: rest) = (.error e, []) := by
  rw [along, List.mapM_cons, List.takeWhile_cons, hnode]
  rfl

theorem along_next (hs : g.state? i = some s) (hnode : g.nodeAt ts i = .ok node) (rest : List ℕ) :
    g.along ts service (i :: rest) = ((g.along ts service rest).1.map (node :: ·),
      s.branchWarnings service ++ (g.along ts service rest).2) := by
  rw [along, List.mapM_cons, List.takeWhile_cons, hnode]
  simp only [Except.toBool, if_true, branches_cons hs, along]
  cases rest.mapM (g.nodeAt ts) <;> rfl

/-- **A walk issues the requests of the places that it comes to**, up to the first that has none. -/
theorem follow_eq (fresh : List ℕ) (i : ℕ) :
    g.follow ts service fresh i = g.along ts service (g.pathFrom fresh i) := by
  induction fresh, i using follow.induct ts service g with
  | case1 fresh i hs =>
    rw [follow_missing hs, pathFrom_missing hs, along_failed (nodeAt_missing hs)]
  | case2 fresh i s hs hi e hfail =>
    obtain ⟨rest, hpath⟩ := exists_pathFrom_eq_cons (.inl hi)
    rw [follow_failed hs hi hfail, hpath, along_failed ((nodeAt_state hs).trans hfail)]
  | case3 fresh i s hs hi node hmade j hnext rest more hrest ih =>
    rw [pathFrom_next hs hi hnext, along_next hs ((nodeAt_state hs).trans hmade), ← ih]
    exact Prod.ext (follow_next hs hi hmade hnext) (follow_next_reports hs hi hmade hnext)
  | case4 fresh i s hs hi node hmade hlast =>
    rw [follow_last hs hi hmade hlast, pathFrom_last hs hi hlast,
      along_next hs ((nodeAt_state hs).trans hmade), along_nil]
    simp [Except.map]
  | case5 fresh i s hs hi => rw [follow_stale hs hi, pathFrom_stale hs hi, along_nil]

theorem lower_eq : g.lower ts service = g.along ts service g.path := by
  rw [lower, path]
  cases g.initial with
  | none => rfl
  | some i => exact follow_eq _ i

/-! ## What comes of a path -/

/-- **The place is a state whose request becomes a sampler.** -/
def Sampled (ts : Transformers) (g : ProtocolGraph) (i : ℕ) : Prop :=
  ∃ s, g.state? i = some s ∧ ∃ sampler, ts.transform s.request = .ok sampler

/-- **The error that a place fails with.** -/
inductive FailsAt (ts : Transformers) (g : ProtocolGraph) (i : ℕ) : CompileError → Prop
  /-- It is no state. -/
  | missing : g.state? i = none → FailsAt ts g i (.model (.unknownProtocolState i))
  /-- Its request becomes no sampler. -/
  | request {s : ProtocolState} {e : CompileError} : g.state? i = some s →
      ts.transform s.request = .error e → FailsAt ts g i e

/-- **What a graph is lowered to along a path.** -/
structure LowersAlong (ts : Transformers) (service : String) (g : ProtocolGraph)
    (path : List ℕ) : Prop where
  /-- Without an initial state there is nothing to do. -/
  empty : g.initial = none → g.lower ts service = (.ok [], [])
  /-- There is a node for each place if every one has a sampler, and a report for each branch. -/
  ok : (∀ i ∈ path, g.Sampled ts i) → ∃ nodes,
    g.lower ts service = (.ok nodes, g.branches service path) ∧
      List.Forall₂ (fun i node => ∃ s, g.state? i = some s ∧ s.Issues ts node) path nodes
  /-- Otherwise the first place without one fails, and what comes before it is reported. -/
  error : ¬ (∀ i ∈ path, g.Sampled ts i) → ∃ before i after e, path = before ++ i :: after ∧
    (∀ k ∈ before, g.Sampled ts k) ∧ g.FailsAt ts i e ∧
      g.lower ts service = (.error e, g.branches service before)

theorem Sampled.exists_node (h : g.Sampled ts i) :
    ∃ s node, g.state? i = some s ∧ g.nodeAt ts i = .ok node := by
  obtain ⟨s, hs, hsampler⟩ := h
  obtain ⟨node, hnode⟩ := Transformers.exists_requestNode_iff.2 hsampler
  exact ⟨s, node, hs, (nodeAt_state hs).trans hnode⟩

/-- A place has a sampler, or it fails. -/
theorem exists_failsAt (h : ¬ g.Sampled ts i) :
    ∃ e, g.FailsAt ts i e ∧ g.nodeAt ts i = .error e := by
  cases hs : g.state? i with
  | none => exact ⟨_, .missing hs, nodeAt_missing hs⟩
  | some s =>
    cases hnode : ts.requestNode s with
    | error e =>
      exact ⟨e, .request hs (Transformers.transform_of_requestNode hnode),
        (nodeAt_state hs).trans hnode⟩
    | ok node => exact absurd ⟨s, hs, Transformers.exists_requestNode_iff.1 ⟨node, hnode⟩⟩ h

theorem along_of_sampled {path : List ℕ} (h : ∀ i ∈ path, g.Sampled ts i) : ∃ nodes,
    g.along ts service path = (.ok nodes, g.branches service path) ∧
      List.Forall₂ (fun i node => ∃ s, g.state? i = some s ∧ s.Issues ts node) path nodes := by
  induction path with
  | nil => exact ⟨[], rfl, .nil⟩
  | cons i rest ih =>
    obtain ⟨hi, hrest⟩ := List.forall_mem_cons.1 h
    obtain ⟨s, node, hs, hnode⟩ := hi.exists_node
    obtain ⟨nodes, hnodes, hissues⟩ := ih hrest
    refine ⟨node :: nodes, ?_, .cons ⟨s, hs, ?_⟩ hissues⟩
    · rw [along_next hs hnode, hnodes, branches_cons hs]
      rfl
    · exact Transformers.issues_of_requestNode ((nodeAt_state hs).symm.trans hnode)

theorem along_of_not_sampled {path : List ℕ} (h : ¬ ∀ i ∈ path, g.Sampled ts i) :
    ∃ before i after e, path = before ++ i :: after ∧ (∀ k ∈ before, g.Sampled ts k) ∧
      g.FailsAt ts i e ∧ g.along ts service path = (.error e, g.branches service before) := by
  induction path with
  | nil => exact absurd (by simp) h
  | cons i rest ih =>
    by_cases hi : g.Sampled ts i
    · obtain ⟨s, node, hs, hnode⟩ := hi.exists_node
      obtain ⟨before, k, after, e, rfl, hbefore, hfails, hrest⟩ :=
        ih fun hrest => h (List.forall_mem_cons.2 ⟨hi, hrest⟩)
      refine ⟨i :: before, k, after, e, rfl, List.forall_mem_cons.2 ⟨hi, hbefore⟩, hfails, ?_⟩
      rw [along_next hs hnode, hrest, branches_cons hs]
      rfl
    · obtain ⟨e, hfails, hnode⟩ := exists_failsAt hi
      exact ⟨[], i, rest, e, rfl, by simp, hfails, along_failed hnode rest⟩

theorem lowersAlong_path (ts : Transformers) (service : String) (g : ProtocolGraph) :
    g.LowersAlong ts service g.path := by
  refine ⟨fun h => ?_, fun h => ?_, fun h => ?_⟩
  · rw [lower, h]
  · rw [lower_eq]
    exact along_of_sampled h
  · rw [lower_eq]
    exact along_of_not_sampled h

/-- A graph that is lowered has all branches on its path reported. -/
theorem reports_of_lower {nodes : List RequestNode} (h : (g.lower ts service).1 = .ok nodes) :
    (g.lower ts service).2 = g.branches service g.path := by
  by_cases hall : ∀ i ∈ g.path, g.Sampled ts i
  · obtain ⟨nodes', hlower, -⟩ := (lowersAlong_path ts service g).ok hall
    rw [hlower]
  · obtain ⟨before, i, after, e, -, -, -, hlower⟩ := (lowersAlong_path ts service g).error hall
    rw [hlower] at h
    cases h

/-! ## The walk as a loop -/

/-- The loop of the walk between two turns, with a mark for each state. -/
structure Loop where
  current : ℕ
  visited : List Bool
  requests : List RequestNode
  warnings : List Warning

/-- One turn of the loop: it goes on, or it is over. A target without a mark counts as visited, and
is looked up after that. -/
def turn (ts : Transformers) (service : String) (g : ProtocolGraph) (l : Loop) :
    Loop ⊕ (Except CompileError (List RequestNode) × List Warning) :=
  match g.state? l.current with
  | none => .inr (.error (.model (.unknownProtocolState l.current)), l.warnings)
  | some s =>
    match ts.requestNode s with
    | .error e => .inr (.error e, l.warnings)
    | .ok node =>
      let visited := l.visited.set l.current true
      let requests := l.requests ++ [node]
      let warnings := l.warnings ++ s.branchWarnings service
      match s.transitions.head? with
      | some (.state j) =>
        if visited[j]?.getD true then
          match g.state? j with
          | none => .inr (.error (.model (.unknownProtocolState j)), warnings)
          | some _ => .inr (.ok requests, warnings)
        else .inl ⟨j, visited, requests, warnings⟩
      | _ => .inr (.ok requests, warnings)

/-- **The loop, for a number of turns at most.** There is no answer if it is not over by then. -/
def run (ts : Transformers) (service : String) (g : ProtocolGraph) :
    ℕ → Loop → Option (Except CompileError (List RequestNode) × List Warning)
  | 0, _ => none
  | n + 1, l =>
    match turn ts service g l with
    | .inl l => run ts service g n l
    | .inr r => some r

/-- The loop from the initial state on, after some reports. -/
def loop (ts : Transformers) (service : String) (g : ProtocolGraph) (ws : List Warning) :
    Option (Except CompileError (List RequestNode) × List Warning) :=
  match g.initial with
  | none => some (.ok [], ws)
  | some i =>
    run ts service g (g.states.length + 1) ⟨i, List.replicate g.states.length false, [], ws⟩

/-- The marks of states that are not fresh. -/
def marks (g : ProtocolGraph) (fresh : List ℕ) : List Bool :=
  (List.range g.states.length).map fun j => decide (j ∉ fresh)

theorem marks_range :
    g.marks (List.range g.states.length) = List.replicate g.states.length false := by
  rw [marks, List.eq_replicate_iff]
  simp

theorem set_marks {fresh : List ℕ} (hfresh : fresh.Nodup) (i : ℕ) :
    (g.marks fresh).set i true = g.marks (fresh.erase i) := by
  refine List.ext_getElem (by simp [marks]) fun j hj _ => ?_
  rw [List.getElem_set]
  by_cases h : i = j
  · subst h
    simp [marks, hfresh.not_mem_erase]
  · simp [marks, h, List.mem_erase_of_ne (Ne.symm h)]

/-- A state without a mark is a fresh one. -/
theorem marks_eq_false_iff {fresh : List ℕ} (hstates : ∀ k ∈ fresh, k < g.states.length) {j : ℕ} :
    (g.marks fresh)[j]?.getD true = false ↔ j ∈ fresh := by
  rcases Nat.lt_or_ge j g.states.length with hlt | hge
  · simp [marks, hlt]
  · have hj : j ∉ fresh := fun hmem => absurd (hstates j hmem) (by omega)
    simp [marks, hge, hj]

/-- What a walk comes to, with requests issued and reports made before it. -/
def before (nodes : List RequestNode) (ws : List Warning)
    (r : Except CompileError (List RequestNode) × List Warning) :
    Except CompileError (List RequestNode) × List Warning :=
  (r.1.map (nodes ++ ·), ws ++ r.2)

theorem before_before (nodes more : List RequestNode) (ws reports : List Warning)
    (r : Except CompileError (List RequestNode) × List Warning) :
    before nodes ws (before more reports r) = before (nodes ++ more) (ws ++ reports) r := by
  obtain ⟨result, rest⟩ := r
  cases result <;> simp [before, Except.map]

/-- **One turn, and the rest of the walk**: a turn ends as the walk does, or it goes on to a fresh
state with the one it has been in marked, and the walk goes on from there. -/
theorem turn_cases (ts : Transformers) (service : String) {fresh : List ℕ}
    (hfresh : fresh.Nodup) (hstates : ∀ k ∈ fresh, k < g.states.length)
    (hi : i ∈ fresh ∨ g.state? i = none) (nodes : List RequestNode) (ws : List Warning) :
    turn ts service g ⟨i, g.marks fresh, nodes, ws⟩ =
        .inr (before nodes ws (g.follow ts service fresh i)) ∨
      i ∈ fresh ∧ ∃ j ∈ fresh.erase i, ∃ node reports,
        turn ts service g ⟨i, g.marks fresh, nodes, ws⟩ =
            .inl ⟨j, g.marks (fresh.erase i), nodes ++ [node], ws ++ reports⟩ ∧
          g.follow ts service fresh i =
            before [node] reports (g.follow ts service (fresh.erase i) j) := by
  cases hs : g.state? i with
  | none =>
    left
    rw [follow_missing hs]
    simp [turn, hs, before, Except.map]
  | some s =>
    have hi : i ∈ fresh := hi.resolve_right (by simp [hs])
    cases hnode : ts.requestNode s with
    | error e =>
      left
      rw [follow_failed hs hi hnode]
      simp [turn, hs, hnode, before, Except.map]
    | ok node =>
      by_cases hnext : ∃ j, s.transitions.head? = some (.state j)
      · obtain ⟨j, hnext⟩ := hnext
        have hrest : g.follow ts service fresh i =
            before [node] (s.branchWarnings service) (g.follow ts service (fresh.erase i) j) :=
          Prod.ext (follow_next hs hi hnode hnext) (follow_next_reports hs hi hnode hnext)
        have hleft : ∀ k ∈ fresh.erase i, k < g.states.length := fun k hk =>
          hstates k (List.mem_of_mem_erase hk)
        by_cases hj : j ∈ fresh.erase i
        · have hmark := (marks_eq_false_iff hleft).2 hj
          refine .inr ⟨hi, j, hj, node, s.branchWarnings service, ?_, hrest⟩
          simp [turn, hs, hnode, hnext, set_marks hfresh, hmark]
        · have hmark := Bool.of_not_eq_false (mt (marks_eq_false_iff hleft).1 hj)
          left
          rw [hrest]
          -- the loop looks a marked target up, and so does the walk
          cases hs' : g.state? j with
          | none =>
            rw [follow_missing hs']
            simp [turn, hs, hnode, hnext, set_marks hfresh, hmark, hs', before, Except.map]
          | some s' =>
            rw [follow_stale hs' hj]
            simp [turn, hs, hnode, hnext, set_marks hfresh, hmark, hs', before, Except.map]
      · left
        rw [follow_last hs hi hnode fun j hj => hnext ⟨j, hj⟩]
        simp only [turn, hs, hnode]
        split
        · next j hj => exact absurd ⟨j, hj⟩ hnext
        · rfl

/-- **The loop is over when its fresh states are used up**, and it ends as the walk does. -/
theorem run_eq_follow (ts : Transformers) (service : String) {fresh : List ℕ} {n : ℕ}
    (hn : fresh.length < n) (hfresh : fresh.Nodup) (hstates : ∀ k ∈ fresh, k < g.states.length)
    (hi : i ∈ fresh ∨ g.state? i = none) (nodes : List RequestNode) (ws : List Warning) :
    run ts service g n ⟨i, g.marks fresh, nodes, ws⟩ =
      some (before nodes ws (g.follow ts service fresh i)) := by
  induction n generalizing fresh i nodes ws with
  | zero => cases hn
  | succ n ih =>
    rw [run]
    obtain hend | ⟨hi, j, hj, node, reports, hgo, hrest⟩ :=
      turn_cases ts service hfresh hstates hi nodes ws
    · rw [hend]
    · have hlength := List.length_erase_of_mem hi
      have hpos := List.length_pos_of_mem hi
      rw [hgo, hrest, before_before]
      exact ih (by omega) (hfresh.erase i) (fun k hk => hstates k (List.mem_of_mem_erase hk))
        (.inl hj) _ _

/-- The loop ends, whatever the graph is, and as lowering does. -/
theorem loop_eq (ts : Transformers) (service : String) (g : ProtocolGraph) (ws : List Warning) :
    g.loop ts service ws = some ((g.lower ts service).1, ws ++ (g.lower ts service).2) := by
  rw [loop, lower]
  cases g.initial with
  | none => simp
  | some i =>
    have hi : i ∈ List.range g.states.length ∨ g.state? i = none := by
      rcases Nat.lt_or_ge i g.states.length with hlt | hge
      · exact .inl (List.mem_range.2 hlt)
      · exact .inr (List.getElem?_eq_none hge)
    have hturns : (List.range g.states.length).length < g.states.length + 1 := by simp
    have hrun :=
      run_eq_follow ts service hturns List.nodup_range (fun _ => List.mem_range.1) hi [] ws
    rw [marks_range] at hrun
    refine hrun.trans ?_
    cases h : (g.follow ts service (List.range g.states.length) i).1 <;>
      simp [before, h, Except.map]

/-- **Lowering follows exactly the first-transition path.** The path is the only one there is; the
loop ends with the reports after those it was given; and what comes of it is what the requests on
the path become. -/
theorem lower_along_path (ts : Transformers) (service : String) (g : ProtocolGraph)
    (ws : List Warning) :
    g.IsTrail g.path ∧ (∀ path, g.IsTrail path → path = g.path) ∧
      g.loop ts service ws = some ((g.lower ts service).1, ws ++ (g.lower ts service).2) ∧
      g.LowersAlong ts service g.path :=
  ⟨g.isTrail_path, fun _ h => h.eq g.isTrail_path, g.loop_eq ts service ws,
    g.lowersAlong_path ts service⟩

/-- A search that is repeated until it is given up, and a state that first transitions never come
to. -/
def searching : ProtocolGraph where
  states := [
    ⟨⟨"open", .junit "Shop" "open"⟩, [], [.state 2]⟩,
    ⟨⟨"help", .junit "Shop" "help"⟩, [], [.state 0]⟩,
    ⟨⟨"find", .junit "Shop" "find"⟩, ["found", "[0-9]+"], [.state 0, .state 1, .exit]⟩]
  initial := some 0

theorem lower_along_path_searching :
    searching.IsTrail [0, 2] ∧
      searching.loop .builtIn "Shop" [.duplicateTransition "A" "B"] =
        some (.ok [⟨"open", .junit "Shop" "open", none⟩,
            ⟨"find", .junit "Shop" "find", some ⟨"find assertion", ["found", "[0-9]+"]⟩⟩],
          [.duplicateTransition "A" "B", .nonLinearProtocol "Shop" "find" 3]) := by
  have hpath : searching.path = [0, 2] := by cbv
  have hlower : searching.lower .builtIn "Shop" =
      (.ok [⟨"open", .junit "Shop" "open", none⟩,
          ⟨"find", .junit "Shop" "find", some ⟨"find assertion", ["found", "[0-9]+"]⟩⟩],
        [.nonLinearProtocol "Shop" "find" 3]) := by
    rw [lower_eq, hpath]
    rfl
  obtain ⟨htrail, -, hloop, -⟩ :=
    lower_along_path .builtIn "Shop" searching [.duplicateTransition "A" "B"]
  rw [hlower] at hloop
  exact ⟨hpath ▸ htrail, hloop⟩

end ProtocolGraph

end LoadPlan
