import LoadPlan.Proofs.Session.Wiring
/-!
# The walk is a depth-first preorder

`SessionGraph.preorder` visits a state by recursion, as one would define it: do nothing in a
state that is visited, else take the state's node and visit its successors in order. The loop of
`SessionGraph.visits` keeps states on its stack that were visited since they were pushed, and
leaves out states that were visited before. `WalksAsRecursion` is what its stack stands for: to
walk `js ++ stack` is to visit `js` by recursion, and then to walk `stack` with what is left. So
lowering gives the nodes of the recursive visit, in its order, or fails as it does.
-/

namespace LoadPlan

namespace SessionGraph

variable {ts : Transformers} {g : SessionGraph}

/-! ## The recursive visit -/

/-- The states that are not visited. -/
def unvisited (g : SessionGraph) (visited : List Nat) : List Nat :=
  (List.range g.states.length).filter fun i => i ∉ visited

theorem mem_unvisited {visited : List Nat} {i : Nat} :
    i ∈ g.unvisited visited ↔ i < g.states.length ∧ i ∉ visited := by
  simp [unvisited]

/-- Visiting a state takes it out of the unvisited ones. -/
theorem unvisited_concat (visited : List Nat) (i : Nat) :
    g.unvisited (visited ++ [i]) = (g.unvisited visited).erase i := by
  have hnodup : (g.unvisited visited).Nodup := List.nodup_range.filter _
  rw [hnodup.erase_eq_filter, unvisited, unvisited, List.filter_filter]
  congr 1
  funext j
  by_cases hj : j = i <;> simp [hj]

theorem length_unvisited_append_le (visited more : List Nat) :
    (g.unvisited (visited ++ more)).length ≤ (g.unvisited visited).length := by
  refine (List.monotone_filter_right _ fun i hi => ?_).length_le
  simp only [decide_eq_true_eq] at hi ⊢
  exact fun h => hi (List.mem_append_left _ h)

theorem length_unvisited_concat_lt {visited : List Nat} {i : Nat} (hi : i ∉ visited)
    (hlt : i < g.states.length) :
    (g.unvisited (visited ++ [i])).length < (g.unvisited visited).length := by
  have hmem : i ∈ g.unvisited visited := mem_unvisited.2 ⟨hlt, hi⟩
  have := List.length_pos_of_mem hmem
  rw [unvisited_concat, List.length_erase_of_mem hmem]
  omega

mutual

/-- **The recursive visit of a state**, in preorder. `visited` holds the states visited before. -/
def preorder (ts : Transformers) (g : SessionGraph) (visited : List Nat) (i : Nat) :
    Except CompileError (List Visit × List Warning) :=
  if _hi : i ∈ visited then .ok ([], [])
  else match _hs : g.state? i with
    | none => .error (.model (.sessionStateNotFound i))
    | some s =>
      match g.service? s.service with
      | none => .error (.model (.serviceNotFound s.service))
      | some service =>
        match s.protocol.lower ts service.name with
        | (.error e, _) => .error e
        | (.ok requests, ws) => do
          let (vs, more) ← preorderAll ts g (visited ++ [i]) s.successors
          return (⟨i, s, service, requests⟩ :: vs, ws ++ more)
termination_by ((g.unvisited visited).length, 0)
decreasing_by
  exact Prod.Lex.left _ _ (length_unvisited_concat_lt _hi (lt_of_state?_eq_some _hs))

/-- The recursive visits of several states, one after the other. -/
def preorderAll (ts : Transformers) (g : SessionGraph) (visited : List Nat) :
    List Nat → Except CompileError (List Visit × List Warning)
  | [] => .ok ([], [])
  | i :: rest => do
    let (vs, ws) ← preorder ts g visited i
    let (more, ws') ← preorderAll ts g (visited ++ vs.map (·.index)) rest
    return (vs ++ more, ws ++ ws')
termination_by js => ((g.unvisited visited).length, js.length)
decreasing_by
  · exact Prod.Lex.right _ (by simp)
  · rcases Nat.lt_or_eq_of_le (length_unvisited_append_le (g := g) visited (vs.map (·.index)))
      with hlt | heq
    · exact Prod.Lex.left _ _ hlt
    · rw [heq]
      exact Prod.Lex.right _ (by simp)

end

/-! ## The recursion, one equation at a time -/

theorem preorder_visited {visited : List Nat} {i : Nat} (hi : i ∈ visited) :
    g.preorder ts visited i = .ok ([], []) := by
  rw [preorder, dif_pos hi]

theorem preorder_missing {visited : List Nat} {i : Nat} (hi : i ∉ visited)
    (hs : g.state? i = none) :
    g.preorder ts visited i = .error (.model (.sessionStateNotFound i)) := by
  rw [preorder, dif_neg hi]
  split
  · rfl
  · next s hs' => rw [hs] at hs'; cases hs'

/-- A state that is not visited is come to as the walk comes to it. -/
theorem preorder_fresh {visited : List Nat} {i : Nat} {s : SessionState} (hi : i ∉ visited)
    (hs : g.state? i = some s) :
    g.preorder ts visited i = (g.visit ts i s).bind fun r =>
      before [r.1] r.2 (g.preorderAll ts (visited ++ [i]) s.successors) := by
  rw [preorder, dif_neg hi]
  split
  · next hs' => rw [hs] at hs'; cases hs'
  · next s' hs' =>
    rw [hs] at hs'
    cases hs'
    cases hservice : g.service? s.service with
    | none => rw [visit_undeclared hservice]; rfl
    | some service =>
      rcases hlower : s.protocol.lower ts service.name with ⟨e | requests, ws⟩
      · rw [visit_unlowered hservice hlower]
        simp only [hlower]
        rfl
      · rw [visit_lowered hservice hlower]
        simp only [hlower]
        cases g.preorderAll ts (visited ++ [i]) s.successors <;> rfl

theorem preorderAll_nil (visited : List Nat) : g.preorderAll ts visited [] = .ok ([], []) := by
  rw [preorderAll]

theorem preorderAll_cons (visited : List Nat) (i : Nat) (rest : List Nat) :
    g.preorderAll ts visited (i :: rest) = (g.preorder ts visited i).bind fun r =>
      before r.1 r.2 (g.preorderAll ts (visited ++ r.1.map (·.index)) rest) := by
  rw [preorderAll]
  cases g.preorder ts visited i with
  | error e => rfl
  | ok r =>
    change (do
      let (more, ws') ← g.preorderAll ts (visited ++ r.1.map (·.index)) rest
      return (r.1 ++ more, r.2 ++ ws')) = before r.1 r.2 _
    cases g.preorderAll ts (visited ++ r.1.map (·.index)) rest <;> rfl

theorem preorderAll_singleton (visited : List Nat) (i : Nat) :
    g.preorderAll ts visited [i] = g.preorder ts visited i := by
  rw [preorderAll_cons]
  cases g.preorder ts visited i with
  | error e => rfl
  | ok r => simp [Except.bind, preorderAll_nil, before, Except.map]

/-- Visits that do nothing can be left out. -/
theorem preorderAll_filter {visited js : List Nat} {p : Nat → Bool}
    (h : ∀ j ∈ js, p j = false → j ∈ visited) :
    g.preorderAll ts visited (js.filter p) = g.preorderAll ts visited js := by
  induction js generalizing visited with
  | nil => rfl
  | cons j rest ih =>
    obtain ⟨hj, hrest⟩ := List.forall_mem_cons.1 h
    by_cases hp : p j
    · rw [List.filter_cons_of_pos hp, preorderAll_cons, preorderAll_cons]
      cases g.preorder ts visited j with
      | error e => rfl
      | ok r =>
        have hlater : ∀ k ∈ rest, p k = false → k ∈ visited ++ r.1.map (·.index) :=
          fun k hk hpk => List.mem_append_left _ (hrest k hk hpk)
        simp only [Except.bind, ih hlater]
    · rw [List.filter_cons_of_neg hp, preorderAll_cons, preorder_visited (hj (by simpa using hp)),
        ih hrest]
      cases h : g.preorderAll ts visited rest <;> simp [Except.bind, before, Except.map, h]

/-! ## What the stack stands for -/

theorem before_before (vs vs' : List Visit) (ws ws' : List Warning)
    (r : Except CompileError (List Visit × List Warning)) :
    before vs ws (before vs' ws' r) = before (vs ++ vs') (ws ++ ws') r := by
  cases r <;> simp [before, Except.map]

theorem before_ok (vs : List Visit) (ws : List Warning) (r : List Visit × List Warning) :
    before vs ws (.ok r) = .ok (vs ++ r.1, ws ++ r.2) := rfl

theorem before_nil (r : Except CompileError (List Visit × List Warning)) :
    before [] [] r = r := by
  cases r <;> rfl

/-- The states visited by a walk exist. -/
theorem lt_of_mem_visits {fresh stack : List Nat} {vs : List Visit} {ws : List Warning}
    (h : g.visits ts fresh stack = .ok (vs, ws)) : ∀ j ∈ vs.map (·.index), j < g.states.length := by
  intro j hj
  obtain ⟨v, hv, rfl⟩ := List.mem_map.1 hj
  exact lt_of_state?_eq_some ((walk_of_visits h).declared v hv).state

/-- With these states visited, the loop walks the top of its stack as the recursion does, and the
rest of the stack with the states that leaves. -/
def WalksAsRecursion (ts : Transformers) (g : SessionGraph) (visited : List Nat) : Prop :=
  ∀ js stack, g.visits ts (g.unvisited visited) (js ++ stack) =
    (g.preorderAll ts visited js).bind fun r =>
      before r.1 r.2 (g.visits ts (g.unvisited (visited ++ r.1.map (·.index))) stack)

/-- What is pushed with a state is visited as all its successors are: those left out were visited
before. -/
theorem preorderAll_pushed (visited : List Nat) (s : SessionState) :
    g.preorderAll ts visited (g.pushed (g.unvisited visited) s) =
      g.preorderAll ts visited s.successors := by
  refine preorderAll_filter fun j _ hj => ?_
  simp only [mem_unvisited, Bool.or_eq_false_iff, decide_eq_false_iff_not, not_and, not_not] at hj
  exact hj.1 (Nat.not_le.1 hj.2)

/-- **One state on top of the stack**, if the loop keeps to the recursion from there on. -/
theorem visits_cons {visited : List Nat} (hlt : ∀ j ∈ visited, j < g.states.length) {i : Nat}
    (hnext : i ∉ visited → i < g.states.length → WalksAsRecursion ts g (visited ++ [i]))
    (stack : List Nat) :
    g.visits ts (g.unvisited visited) (i :: stack) = (g.preorder ts visited i).bind fun r =>
      before r.1 r.2 (g.visits ts (g.unvisited (visited ++ r.1.map (·.index))) stack) := by
  cases hs : g.state? i with
  | none =>
    have hi : i ∉ visited := fun hi => by
      have := List.getElem?_eq_none_iff.1 hs
      have := hlt i hi
      omega
    rw [visits_missing hs, preorder_missing hi hs]
    rfl
  | some s =>
    by_cases hi : i ∈ visited
    · -- the state was visited since it was pushed
      have hstale : i ∉ g.unvisited visited := fun h => (mem_unvisited.1 h).2 hi
      rw [visits_stale hs hstale, preorder_visited hi]
      simp only [Except.bind, List.map_nil, List.append_nil, before_nil]
    · have hfresh : i ∈ g.unvisited visited := mem_unvisited.2 ⟨lt_of_state?_eq_some hs, hi⟩
      rw [preorder_fresh hi hs]
      cases hv : g.visit ts i s with
      | error e =>
        rw [visits_failed hs hfresh hv]
        rfl
      | ok r =>
        obtain ⟨v, ws⟩ := r
        obtain ⟨rfl, -⟩ := lowered_of_visit hv
        rw [visits_fresh hs hfresh hv, ← unvisited_concat,
          hnext hi (lt_of_state?_eq_some hs), preorderAll_pushed]
        simp only [Except.bind]
        cases g.preorderAll ts (visited ++ [v.index]) s.successors with
        | error e => rfl
        | ok r =>
          simp only [before_before, before_ok, List.map_append, List.map_cons, List.map_nil,
            List.append_assoc]

/-- The recursive visit of a state does nothing, or visits at least that state. -/
theorem eq_nil_of_preorder {visited : List Nat} {i : Nat} {vs : List Visit} {ws : List Warning}
    (h : g.preorder ts visited i = .ok (vs, ws)) :
    (vs = [] ∧ ws = []) ∨ ∃ v rest, vs = v :: rest ∧ v.index = i ∧ i ∉ visited ∧
      i < g.states.length := by
  by_cases hi : i ∈ visited
  · rw [preorder_visited hi] at h
    cases h
    exact .inl ⟨rfl, rfl⟩
  · cases hs : g.state? i with
    | none => rw [preorder_missing hi hs] at h; cases h
    | some s =>
      rw [preorder_fresh hi hs] at h
      cases hv : g.visit ts i s with
      | error e => rw [hv] at h; cases h
      | ok r =>
        rw [hv] at h
        simp only [Except.bind] at h
        cases hall : g.preorderAll ts (visited ++ [i]) s.successors with
        | error e => rw [hall] at h; cases h
        | ok r' =>
          rw [hall] at h
          cases h
          exact .inr ⟨r.1, r'.1, rfl, (lowered_of_visit hv).1, hi, lt_of_state?_eq_some hs⟩

/-- **The loop walks as the recursion does**, whatever was visited before. -/
theorem walksAsRecursion {visited : List Nat} (hlt : ∀ j ∈ visited, j < g.states.length) :
    WalksAsRecursion ts g visited := by
  -- on the number of unvisited states, which each visit lowers, then along the list
  induction hn : (g.unvisited visited).length using Nat.strongRecOn generalizing visited with
  | _ n ih =>
    have hcons : ∀ i stack, g.visits ts (g.unvisited visited) (i :: stack) =
        (g.preorder ts visited i).bind fun r =>
          before r.1 r.2 (g.visits ts (g.unvisited (visited ++ r.1.map (·.index))) stack) := by
      refine fun i => visits_cons hlt fun hi hlen => ?_
      refine ih _ (hn ▸ length_unvisited_concat_lt hi hlen) ?_ rfl
      exact List.forall_mem_append.2 ⟨hlt, by simpa using hlen⟩
    intro js stack
    induction js with
    | nil =>
      rw [preorderAll_nil]
      simp only [Except.bind, List.nil_append, List.map_nil, List.append_nil, before_nil]
    | cons i rest ihrest =>
      rw [preorderAll_cons, List.cons_append, hcons]
      cases hpre : g.preorder ts visited i with
      | error e => rfl
      | ok r =>
        obtain ⟨vs, ws⟩ := r
        have hrest : g.visits ts (g.unvisited (visited ++ vs.map (·.index))) (rest ++ stack) =
            (g.preorderAll ts (visited ++ vs.map (·.index)) rest).bind fun r =>
              before r.1 r.2 (g.visits ts
                (g.unvisited (visited ++ vs.map (·.index) ++ r.1.map (·.index))) stack) := by
          rcases eq_nil_of_preorder hpre with ⟨rfl, rfl⟩ | ⟨v, more, rfl, hv, hi, hlen⟩
          · simpa using ihrest
          · have hvisits := hcons i []
            rw [hpre] at hvisits
            simp only [Except.bind, visits_nil, before_ok, List.append_nil] at hvisits
            refine ih _ ?_ (List.forall_mem_append.2 ⟨hlt, lt_of_mem_visits hvisits⟩) rfl rest stack
            rw [List.map_cons, hv, List.append_cons]
            exact hn ▸ Nat.lt_of_le_of_lt (length_unvisited_append_le ..)
              (length_unvisited_concat_lt hi hlen)
        simp only [Except.bind, hrest]
        cases g.preorderAll ts (visited ++ vs.map (·.index)) rest with
        | error e => rfl
        | ok r =>
          simp only [before_before, before_ok, List.map_append, List.append_assoc]

/-- **The walk from one state is its recursive visit**, the same visits or the same error. -/
theorem visits_eq_preorder (initial : Nat) :
    g.visits ts (List.range g.states.length) [initial] = g.preorder ts [] initial := by
  have hall : g.unvisited [] = List.range g.states.length := by
    rw [unvisited]
    exact List.filter_eq_self.2 (by simp)
  have hwalks : WalksAsRecursion ts g [] := walksAsRecursion (by simp)
  have hwalk := hwalks [initial] []
  rw [List.append_nil, hall, preorderAll_singleton] at hwalk
  rw [hwalk]
  cases g.preorder ts [] initial with
  | error e => rfl
  | ok r => simp only [Except.bind, visits_nil, before_ok, List.append_nil]

/-! ## Lowering by the recursive visit -/

/-- **Lowering gives the nodes of the recursive visit, in its order, or its error.** After the
walk nothing fails and nothing is looked up out of range: every visited state exists, every
state that one leads to has a node, and so has the initial state. -/
theorem lower_matches_preorder (ts : Transformers) (g : SessionGraph)
    (convention : GuardNegation) :
    match g.initial with
    | none => g.lower ts convention = .error (.model .noInitialState)
    | some initial =>
      match g.preorder ts [] initial with
      | .error e => g.lower ts convention = .error e
      | .ok (vs, _) =>
        (∃ l, g.lower ts convention = .ok l ∧
          l.nodes.map (fun n => (n.id, n.name, n.service, n.requests)) =
            vs.mapIdx (fun k v => (k, v.service.name, v.service.id, v.requests)) ∧
          nodeOf? vs initial = some l.initial ∧ l.initial < vs.length) ∧
        (∃ wired, wireAll convention vs 0 vs = .ok wired) ∧
        ∀ v ∈ vs, v.index < g.states.length ∧
          ∀ j ∈ v.state.successors, ∃ k < vs.length, nodeOf? vs j = some k := by
  cases hinitial : g.initial with
  | none => exact lower_none hinitial
  | some initial =>
    have hvisits : g.visits ts (List.range g.states.length) [initial] = g.preorder ts [] initial :=
      visits_eq_preorder initial
    dsimp only
    cases hpre : g.preorder ts [] initial with
    | error e => exact lower_of_visits_error hinitial (hvisits.trans hpre)
    | ok r =>
      obtain ⟨vs, ws⟩ := r
      rw [hpre] at hvisits
      have htour := tour_of_visits hvisits
      have hnode : ∀ v ∈ vs, ∀ j ∈ v.state.successors, ∃ k < vs.length, nodeOf? vs j = some k := by
        intro v hv j hj
        obtain ⟨k, hk⟩ := exists_nodeOf? htour.nodup (htour.closed v hv j hj)
        obtain ⟨w, hw, -⟩ := (nodeOf?_eq_some_iff htour.nodup).1 hk
        exact ⟨k, (List.getElem?_eq_some_iff.1 hw).1, hk⟩
      obtain ⟨nodes, more, hwired, -, -⟩ := exists_wireAll convention
        (fun v hv j hj => (hnode v hv j hj).imp fun k hk => hk.2) 0
      obtain ⟨rest, hlower⟩ := exists_lower_of_visits convention hinitial hvisits
      refine ⟨⟨_, hlower, ?_, htour.nodeOf?_initial, htour.length_pos⟩, ⟨_, hwired⟩,
        fun v hv => ⟨lt_of_state?_eq_some (htour.declared v hv).state, hnode v hv⟩⟩
      exact List.ext_getElem (by simp) fun k _ _ => by simp [plannedNode]

end SessionGraph

end LoadPlan
