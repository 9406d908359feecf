import LoadPlan.Lowering.Session
import Mathlib.Data.List.Nodup
/-!
# The walk over a session graph, step by step

`SessionGraph.visits` is a loop over a stack of states. `Walk` is the same loop as a relation,
with one constructor for each thing a turn does when it does not fail, so that what a walk keeps
is proved by cases on the turn. The two things a walk is for come out of it: no state is visited
twice (`Walk.nodup`), and every state that a visited one leads to is visited as well
(`Walk.closed`).
-/

namespace LoadPlan

/-- **A visit shows its state as the graph declares it**: the state itself, the service it is
declared in, and the requests its protocol graph lowers to. -/
structure Visit.Declared (ts : Transformers) (g : SessionGraph) (v : Visit) : Prop where
  state : g.state? v.index = some v.state
  service : g.service? v.state.service = some v.service
  requests : (v.state.protocol.lower ts v.service.name).1 = .ok v.requests

/-- The graph gives a visited state the service that its visit shows. -/
theorem Visit.Declared.serviceOf? {ts : Transformers} {g : SessionGraph} {v : Visit}
    (h : v.Declared ts g) : g.serviceOf? v.index = some v.service := by
  rw [SessionGraph.serviceOf?, h.state, Option.bind_some, h.service]

namespace SessionState

theorem mem_successors {s : SessionState} {j : Nat} :
    j ∈ s.successors ↔ ∃ t ∈ s.transitions, t.target = .state j := by
  have hindex : ∀ t : Target, t.index? = some j ↔ t = .state j := by
    intro t
    cases t <;> simp [Target.index?]
  simp [successors, hindex]

end SessionState

namespace SessionGraph

variable {ts : Transformers} {g : SessionGraph}

theorem lt_of_state?_eq_some {i : Nat} {s : SessionState} (h : g.state? i = some s) :
    i < g.states.length :=
  (List.getElem?_eq_some_iff.1 h).1

/-- What comes on the stack with a state: its successors that are not visited. Those that do not
exist are never visited, so they come too. -/
def pushed (g : SessionGraph) (left : List Nat) (s : SessionState) : List Nat :=
  s.successors.filter fun j => j ∈ left || g.states.length ≤ j

theorem mem_pushed {left : List Nat} {s : SessionState} {j : Nat} :
    j ∈ g.pushed left s ↔ j ∈ s.successors ∧ (j ∈ left ∨ g.states.length ≤ j) := by
  simp [pushed]

/-! ## Coming to a state -/

/-- The service of the state must be declared. -/
theorem visit_undeclared {s : SessionState} (hs : g.service? s.service = none) (i : Nat) :
    g.visit ts i s = .error (.model (.serviceNotFound s.service)) := by
  simp only [visit, hs]

/-- Its protocol graph must lower. -/
theorem visit_unlowered {s : SessionState} {service : Service} {e : CompileError}
    {ws : List Warning} (hs : g.service? s.service = some service)
    (hl : s.protocol.lower ts service.name = (.error e, ws)) (i : Nat) :
    g.visit ts i s = .error e := by
  simp only [visit, hs, hl]

/-- Then the visit shows both. -/
theorem visit_lowered {s : SessionState} {service : Service} {requests : List RequestNode}
    {ws : List Warning} (hs : g.service? s.service = some service)
    (hl : s.protocol.lower ts service.name = (.ok requests, ws)) (i : Nat) :
    g.visit ts i s = .ok (⟨i, s, service, requests⟩, ws) := by
  simp only [visit, hs, hl]

/-- A visit succeeds in no other way. -/
theorem lowered_of_visit {i : Nat} {s : SessionState} {v : Visit} {ws : List Warning}
    (h : g.visit ts i s = .ok (v, ws)) :
    v.index = i ∧ v.state = s ∧ g.service? s.service = some v.service ∧
      s.protocol.lower ts v.service.name = (.ok v.requests, ws) := by
  cases hs : g.service? s.service with
  | none => rw [visit_undeclared hs] at h; cases h
  | some service =>
    rcases hl : s.protocol.lower ts service.name with ⟨e | requests, more⟩
    · rw [visit_unlowered hs hl] at h; cases h
    · rw [visit_lowered hs hl] at h; cases h
      exact ⟨rfl, rfl, rfl, hl⟩

/-- What a visit to an existing state shows is as declared. -/
theorem declared_of_visit {i : Nat} {s : SessionState} {v : Visit} {ws : List Warning}
    (hs : g.state? i = some s) (h : g.visit ts i s = .ok (v, ws)) : v.Declared ts g := by
  obtain ⟨rfl, rfl, hservice, hlower⟩ := lowered_of_visit h
  exact ⟨hs, hservice, by rw [hlower]⟩

/-! ## One turn -/

theorem visits_nil (fresh : List Nat) : g.visits ts fresh [] = .ok ([], []) := by
  rw [visits]

/-- A state that does not exist ends the walk. -/
theorem visits_missing {i : Nat} (hs : g.state? i = none) (fresh stack : List Nat) :
    g.visits ts fresh (i :: stack) = .error (.model (.sessionStateNotFound i)) := by
  rw [visits]
  simp only [hs]

/-- A state that is visited already is passed over. -/
theorem visits_stale {fresh : List Nat} {i : Nat} {s : SessionState} (hs : g.state? i = some s)
    (hi : i ∉ fresh) (stack : List Nat) :
    g.visits ts fresh (i :: stack) = g.visits ts fresh stack := by
  rw [visits]
  simp only [hs, dif_neg hi]

/-- A visit that fails ends the walk. -/
theorem visits_failed {fresh : List Nat} {i : Nat} {s : SessionState} {e : CompileError}
    (hs : g.state? i = some s) (hi : i ∈ fresh) (hv : g.visit ts i s = .error e)
    (stack : List Nat) : g.visits ts fresh (i :: stack) = .error e := by
  rw [visits]
  simp only [hs, dif_pos hi, hv]

/-- Put a visit and the reports on it before the rest of a walk. -/
def before (vs : List Visit) (ws : List Warning) :
    Except CompileError (List Visit × List Warning) → Except CompileError (List Visit × List Warning) :=
  Except.map fun rest => (vs ++ rest.1, ws ++ rest.2)

/-- A visit that succeeds is the first of the walk, and the walk goes on with the successors. -/
theorem visits_fresh {fresh : List Nat} {i : Nat} {s : SessionState} {v : Visit}
    {ws : List Warning} (hs : g.state? i = some s) (hi : i ∈ fresh)
    (hv : g.visit ts i s = .ok (v, ws)) (stack : List Nat) :
    g.visits ts fresh (i :: stack) =
      before [v] ws (g.visits ts (fresh.erase i) (g.pushed (fresh.erase i) s ++ stack)) := by
  rw [visits]
  simp only [hs, dif_pos hi, hv, pushed]
  split <;> simp [before, Except.map, *]

/-! ## The walk as a relation -/

/-- **A walk that does not fail**: with `fresh` not visited and a stack of states to come, it
makes these visits and these reports. -/
inductive Walk (ts : Transformers) (g : SessionGraph) :
    List Nat → List Nat → List Visit → List Warning → Prop
  /-- Nothing is to come. -/
  | done (fresh : List Nat) : Walk ts g fresh [] [] []
  /-- The state on top is visited already. -/
  | skip {fresh stack : List Nat} {i : Nat} {s : SessionState} {vs : List Visit}
      {ws : List Warning} :
      g.state? i = some s → i ∉ fresh → Walk ts g fresh stack vs ws →
      Walk ts g fresh (i :: stack) vs ws
  /-- The state on top is visited, and its successors come on the stack. -/
  | come {fresh stack : List Nat} {i : Nat} {s : SessionState} {v : Visit} {vs : List Visit}
      {ws more : List Warning} :
      g.state? i = some s → i ∈ fresh → g.visit ts i s = .ok (v, ws) →
      Walk ts g (fresh.erase i) (g.pushed (fresh.erase i) s ++ stack) vs more →
      Walk ts g fresh (i :: stack) (v :: vs) (ws ++ more)

/-- A walk of the program is a walk of the relation. -/
theorem walk_of_visits {fresh stack : List Nat} {vs : List Visit} {ws : List Warning}
    (h : g.visits ts fresh stack = .ok (vs, ws)) : Walk ts g fresh stack vs ws := by
  induction fresh, stack using visits.induct ts g generalizing vs ws with
  | case1 fresh =>
    rw [visits_nil] at h; cases h
    exact .done fresh
  | case2 fresh i stack hs => rw [visits_missing hs] at h; cases h
  | case3 fresh i stack s hs hi e hv => rw [visits_failed hs hi hv] at h; cases h
  | case4 fresh i stack s hs hi v reports hv _ _ e =>
    rename_i he _
    change g.visits ts (fresh.erase i) (g.pushed (fresh.erase i) s ++ stack) = _ at he
    rw [visits_fresh hs hi hv, he] at h; cases h
  | case5 fresh i stack s hs hi v reports hv _ _ rest more =>
    rename_i hok ih
    change g.visits ts (fresh.erase i) (g.pushed (fresh.erase i) s ++ stack) = _ at hok
    rw [visits_fresh hs hi hv, hok] at h; cases h
    exact .come hs hi hv (ih hok)
  | case6 fresh i stack s hs hi ih =>
    rw [visits_stale hs hi] at h
    exact .skip hs hi (ih h)

namespace Walk

variable {fresh stack : List Nat} {vs : List Visit} {ws : List Warning}

/-- Every visit shows its state as declared. -/
theorem declared (h : Walk ts g fresh stack vs ws) : ∀ v ∈ vs, v.Declared ts g := by
  induction h with
  | done => simp
  | skip _ _ _ ih => exact ih
  | come hs _ hv _ ih => exact List.forall_mem_cons.2 ⟨declared_of_visit hs hv, ih⟩

/-- Only fresh states are visited, each once. -/
theorem nodup_and_subset (h : Walk ts g fresh stack vs ws) (hfresh : fresh.Nodup) :
    (vs.map (·.index)).Nodup ∧ ∀ v ∈ vs, v.index ∈ fresh := by
  induction h with
  | done => simp
  | skip _ _ _ ih => exact ih hfresh
  | @come fresh stack i s v vs ws more _ hi hv _ ih =>
    obtain ⟨hnodup, hsub⟩ := ih (hfresh.erase i)
    obtain ⟨rfl, -⟩ := lowered_of_visit hv
    refine ⟨List.nodup_cons.2 ⟨?_, hnodup⟩, List.forall_mem_cons.2 ⟨hi, ?_⟩⟩
    · intro hmem
      obtain ⟨w, hw, hwi⟩ := List.mem_map.1 hmem
      have := hsub w hw
      rw [hwi] at this
      exact hfresh.not_mem_erase this
    · exact fun w hw => List.mem_of_mem_erase (hsub w hw)

/-- **No state is visited twice.** -/
theorem nodup (h : Walk ts g fresh stack vs ws) (hfresh : fresh.Nodup) :
    (vs.map (·.index)).Nodup := (h.nodup_and_subset hfresh).1

/-- A walk that does not fail has found every state on its stack. -/
theorem lt_of_mem_stack (h : Walk ts g fresh stack vs ws) : ∀ j ∈ stack, j < g.states.length := by
  induction h with
  | done => simp
  | skip hs _ _ ih => exact List.forall_mem_cons.2 ⟨lt_of_state?_eq_some hs, ih⟩
  | come hs _ _ _ ih =>
    exact List.forall_mem_cons.2
      ⟨lt_of_state?_eq_some hs, fun j hj => ih j (List.mem_append_right _ hj)⟩

/-- A fresh state on the stack is visited. -/
theorem mem_of_mem_stack (h : Walk ts g fresh stack vs ws) :
    ∀ j ∈ stack, j ∈ fresh → j ∈ vs.map (·.index) := by
  induction h with
  | done => simp
  | skip _ hi _ ih =>
    intro j hj hfresh
    rcases List.mem_cons.1 hj with rfl | hj
    · exact absurd hfresh hi
    · exact ih j hj hfresh
  | @come fresh stack i s v vs ws more _ _ hv _ ih =>
    intro j hj hfresh
    obtain ⟨rfl, -⟩ := lowered_of_visit hv
    rw [List.map_cons, List.mem_cons]
    rcases eq_or_ne j v.index with rfl | hne
    · exact .inl rfl
    · have hj : j ∈ stack := (List.mem_cons.1 hj).resolve_left hne
      exact .inr (ih j (List.mem_append_right _ hj) ((List.mem_erase_of_ne hne).2 hfresh))

/-- A state that a visited one leads to exists, and is visited if it was fresh. A successor that
is not pushed is visited before. -/
theorem closed (h : Walk ts g fresh stack vs ws) :
    ∀ v ∈ vs, ∀ j ∈ v.state.successors,
      j < g.states.length ∧ (j ∈ fresh → j ∈ vs.map (·.index)) := by
  induction h with
  | done => simp
  | skip _ _ _ ih => exact ih
  | @come fresh stack i s v vs ws more _ hi hv hw ih =>
    obtain ⟨rfl, rfl, -⟩ := lowered_of_visit hv
    intro w hmem j hj
    rcases List.mem_cons.1 hmem with rfl | hmem
    · constructor
      · by_contra hlt
        have hpush : j ∈ g.pushed (fresh.erase w.index) w.state :=
          mem_pushed.2 ⟨hj, .inr (Nat.not_lt.1 hlt)⟩
        exact hlt (hw.lt_of_mem_stack j (List.mem_append_left _ hpush))
      · intro hfresh
        rw [List.map_cons, List.mem_cons]
        rcases eq_or_ne j w.index with rfl | hne
        · exact .inl rfl
        · have hleft : j ∈ fresh.erase w.index := (List.mem_erase_of_ne hne).2 hfresh
          have hpush : j ∈ g.pushed (fresh.erase w.index) w.state :=
            mem_pushed.2 ⟨hj, .inl hleft⟩
          exact .inr (hw.mem_of_mem_stack j (List.mem_append_left _ hpush) hleft)
    · refine ⟨(ih w hmem j hj).1, fun hfresh => ?_⟩
      rw [List.map_cons, List.mem_cons]
      rcases eq_or_ne j v.index with rfl | hne
      · exact .inl rfl
      · exact .inr ((ih w hmem j hj).2 ((List.mem_erase_of_ne hne).2 hfresh))

end Walk

/-! ## The walk from one state -/

/-- All states are fresh when the walk starts. -/
theorem mem_range_of_state? {i : Nat} {s : SessionState} (hs : g.state? i = some s) :
    i ∈ List.range g.states.length := List.mem_range.2 (lt_of_state?_eq_some hs)

/-- **The visits of a whole walk**, from one state with every state fresh. -/
structure Tour (ts : Transformers) (g : SessionGraph) (initial : Nat) (vs : List Visit) :
    Prop where
  declared : ∀ v ∈ vs, v.Declared ts g
  nodup : (vs.map (·.index)).Nodup
  head : (vs.map (·.index)).head? = some initial
  closed : ∀ v ∈ vs, ∀ j ∈ v.state.successors, j ∈ vs.map (·.index)

theorem tour_of_visits {initial : Nat} {vs : List Visit} {ws : List Warning}
    (h : g.visits ts (List.range g.states.length) [initial] = .ok (vs, ws)) :
    Tour ts g initial vs := by
  have hw := walk_of_visits h
  have hnodup := hw.nodup List.nodup_range
  refine ⟨hw.declared, hnodup, ?_, fun v hv j hj => ?_⟩
  · cases hw with
    | skip hs hi _ => exact absurd (mem_range_of_state? hs) hi
    | come hs hi hv _ => simp [(lowered_of_visit hv).1]
  · obtain ⟨hlt, hmem⟩ := hw.closed v hv j hj
    exact hmem (List.mem_range.2 hlt)

end SessionGraph

end LoadPlan
