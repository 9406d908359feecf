import LoadPlan.Session.Validation
import LoadPlan.Proofs.Session.Walk
/-!
# Well-formed session graphs

What validation is for, without the order in which it looks: every service id is declared once,
and every id that a graph refers to is one it has. `SessionGraph.validate_eq_ok_iff` says that
validation accepts the well-formed graphs and no others.

A protocol graph without states is well formed whatever it says about its initial state.
-/

namespace LoadPlan

/-! ## Protocol graphs -/

/-- **A protocol graph that refers to its own states only.** It starts somewhere if it has a
state to start in. -/
structure ProtocolGraph.WellFormed (g : ProtocolGraph) : Prop where
  initial : g.states ≠ [] → ∃ i, g.initial = some i ∧ i < g.states.length
  closed : ∀ s ∈ g.states, ∀ j, .state j ∈ s.transitions → j < g.states.length

namespace ProtocolGraph

variable {g : ProtocolGraph}

theorem mem_danglingTargets {j : Nat} :
    j ∈ g.danglingTargets ↔
      (∃ s ∈ g.states, .state j ∈ s.transitions) ∧ g.states.length ≤ j := by
  have hindex : ∀ t : Target, t.index? = some j ↔ t = .state j := by
    intro t
    cases t <;> simp [Target.index?]
  simp [danglingTargets, hindex]

theorem danglingTargets_eq_nil_iff :
    g.danglingTargets = [] ↔
      ∀ s ∈ g.states, ∀ j, .state j ∈ s.transitions → j < g.states.length := by
  rw [List.eq_nil_iff_forall_not_mem]
  constructor
  · intro h s hs j hj
    by_contra hlt
    exact h j (mem_danglingTargets.2 ⟨⟨s, hs, hj⟩, Nat.not_lt.1 hlt⟩)
  · intro h j hj
    obtain ⟨⟨s, hs, hmem⟩, hle⟩ := mem_danglingTargets.1 hj
    have := h s hs j hmem
    omega

/-- No defects are found in the well-formed graphs, and only in those. -/
theorem defects_eq_nil_iff (session : Nat) : g.defects session = [] ↔ g.WellFormed := by
  by_cases hempty : g.states = []
  · have hnil : g.defects session = [] := by simp [defects, hempty]
    have hwell : g.WellFormed := ⟨fun h => absurd hempty h, by simp [hempty]⟩
    simp only [hnil, hwell]
  · have hdefects : g.defects session = [] ↔
        (∃ i, g.initial = some i ∧ i < g.states.length) ∧ g.danglingTargets = [] := by
      cases hinitial : g.initial <;> simp [defects, hempty, hinitial]
    rw [hdefects, danglingTargets_eq_nil_iff]
    exact ⟨fun h => ⟨fun _ => h.1, h.2⟩, fun h => ⟨h.initial hempty, h.closed⟩⟩

end ProtocolGraph

/-! ## Session graphs -/

/-- **A session graph that refers to its own services and states only.** -/
structure SessionGraph.WellFormed (g : SessionGraph) : Prop where
  services : g.services ≠ []
  ids : (g.services.map (·.id)).Nodup
  initial : ∃ i, g.initial = some i ∧ i < g.states.length
  declared : ∀ s ∈ g.states, (g.service? s.service).isSome
  /-- A transition is stored on the state it starts from. -/
  sources : ∀ i s, g.state? i = some s → ∀ t ∈ s.transitions, t.source = i
  closed : ∀ s ∈ g.states, ∀ j ∈ s.successors, j < g.states.length
  protocols : ∀ s ∈ g.states, s.protocol.WellFormed

namespace SessionGraph

variable {g : SessionGraph}

/-- No id is repeated if the ids are distinct and none was seen before. -/
theorem repeatedIds_eq_nil_iff {seen : List String} {services : List Service} :
    repeatedIds seen services = [] ↔
      (services.map (·.id)).Nodup ∧ ∀ s ∈ services, s.id ∉ seen := by
  induction services generalizing seen with
  | nil => simp [repeatedIds]
  | cons s rest ih =>
    by_cases hs : s.id ∈ seen
    · simp [repeatedIds, hs]
    · have hdistinct : (∀ t ∈ rest, t.id ∉ s.id :: seen) ↔
          s.id ∉ rest.map (·.id) ∧ ∀ t ∈ rest, t.id ∉ seen := by
        simp only [List.mem_cons, not_or, forall_and, List.mem_map, not_exists, not_and]
      rw [repeatedIds, if_neg hs, ih, hdistinct, List.map_cons, List.nodup_cons,
        List.forall_mem_cons]
      tauto

/-- No defects are found in a transition that starts at its owner and leads to a state of the
graph, or out. -/
theorem defects_transition_eq_nil_iff {n owner : Nat} {t : SessionTransition} :
    t.defects n owner = [] ↔ t.source = owner ∧ ∀ j, t.target = .state j → j < n := by
  cases htarget : t.target <;> simp [SessionTransition.defects, htarget]

theorem stateDefects_eq_nil_iff {owner : Nat} {s : SessionState} :
    g.stateDefects owner s = [] ↔
      (g.service? s.service).isSome ∧
      (∀ t ∈ s.transitions, t.source = owner ∧ ∀ j, t.target = .state j → j < g.states.length) ∧
      s.protocol.WellFormed := by
  simp [stateDefects, List.flatMap_eq_nil_iff, defects_transition_eq_nil_iff,
    ProtocolGraph.defects_eq_nil_iff, Option.isSome_iff_ne_none]

/-- What no defect at all comes down to, place by place. -/
theorem defects_eq_nil_iff_forall :
    g.defects = [] ↔ g.services ≠ [] ∧ (g.services.map (·.id)).Nodup ∧
      (∃ i, g.initial = some i ∧ i < g.states.length) ∧
      ∀ i s, g.state? i = some s → g.stateDefects i s = [] := by
  have hids : repeatedIds [] g.services = [] ↔ (g.services.map (·.id)).Nodup := by
    simp [repeatedIds_eq_nil_iff]
  cases hinitial : g.initial with
  | none => simp [defects, hinitial]
  | some i =>
    have hstates : (g.states.zipIdx.flatMap fun e => g.stateDefects e.2 e.1) = [] ↔
        ∀ i s, g.state? i = some s → g.stateDefects i s = [] := by
      simp only [List.flatMap_eq_nil_iff, Prod.forall, List.mk_mem_zipIdx_iff_getElem?, state?]
      exact forall_comm
    simp [defects, hinitial, hids, hstates]

theorem defects_eq_nil_iff : g.defects = [] ↔ g.WellFormed := by
  rw [defects_eq_nil_iff_forall]
  constructor
  · rintro ⟨hservices, hids, hinitial, hstates⟩
    have hfound : ∀ s ∈ g.states, ∃ i, g.state? i = some s := fun s hs =>
      List.mem_iff_getElem?.1 hs
    refine ⟨hservices, hids, hinitial, fun s hs => ?_, fun i s hs t ht => ?_,
      fun s hs j hj => ?_, fun s hs => ?_⟩
    · obtain ⟨i, hi⟩ := hfound s hs
      exact (stateDefects_eq_nil_iff.1 (hstates i s hi)).1
    · exact ((stateDefects_eq_nil_iff.1 (hstates i s hs)).2.1 t ht).1
    · obtain ⟨i, hi⟩ := hfound s hs
      obtain ⟨t, ht, htarget⟩ := SessionState.mem_successors.1 hj
      exact ((stateDefects_eq_nil_iff.1 (hstates i s hi)).2.1 t ht).2 j htarget
    · obtain ⟨i, hi⟩ := hfound s hs
      exact (stateDefects_eq_nil_iff.1 (hstates i s hi)).2.2
  · intro h
    refine ⟨h.services, h.ids, h.initial, fun i s hs => stateDefects_eq_nil_iff.2 ?_⟩
    have hmem : s ∈ g.states := List.mem_of_getElem? hs
    refine ⟨h.declared s hmem, fun t ht => ⟨h.sources i s hs t ht, fun j htarget => ?_⟩,
      h.protocols s hmem⟩
    exact h.closed s hmem j (SessionState.mem_successors.2 ⟨t, ht, htarget⟩)

/-- **Validation accepts the well-formed graphs**, and no others. -/
theorem validate_eq_ok_iff : g.validate = .ok () ↔ g.WellFormed := by
  rw [← defects_eq_nil_iff, validate]
  cases g.defects <;> simp

/-- The states that can be reached from a state of a well-formed graph are states of it. -/
theorem WellFormed.lt_of_mem_successors (h : g.WellFormed) {i : Nat} {s : SessionState}
    (hs : g.state? i = some s) : ∀ j ∈ s.successors, j < g.states.length :=
  h.closed s (List.mem_of_getElem? hs)

end SessionGraph

end LoadPlan
