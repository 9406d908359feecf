import LoadPlan.Proofs.Protocol.Path
import Mathlib.Data.List.Permutation
/-!
# Session graphs made call by call

A session graph starts empty and is changed by calls that refuse services and states it does not
have. `Sound` is what every call keeps (`Sound.perform`), so it holds after any run of calls
(`Sound.after`): service ids are distinct, every id resolves, and a transition is stored where it
starts. Once there is a state, that is all that validation asks for and all that lowering needs, and
what is left to fail is a request without a sampler (`Sound.exists_lower_iff`).
-/

namespace LoadPlan

namespace SessionGraph

/-! ## Calls -/

/-- A call that changes a session graph. -/
inductive Call where
  | addService (s : Service)
  | addState (service : String) (protocol : ProtocolGraph)
  | setInitial (i : Nat)
  | addTransition (t : SessionTransition)

/-- **The protocol graph of the call, if it has one, is made by calls as well.** -/
def Call.Made : Call → Prop
  | .addState _ protocol => protocol.Made
  | _ => True

/-- The graph after a call, and the error the call returns. -/
def perform (g : SessionGraph) : Call → SessionGraph × Option ModelError
  | .addService s => attempt g (g.addService s)
  | .addState service protocol => attempt g ((g.addState service protocol).map (·.1))
  | .setInitial i => attempt g (g.setInitial i)
  | .addTransition t => attempt g (g.addTransition t)

/-- The graph after some calls, failing or not. -/
def after (g : SessionGraph) (calls : List Call) : SessionGraph :=
  calls.foldl (fun g c => (g.perform c).1) g

variable {g : SessionGraph}

/-- A call that fails leaves the graph. -/
theorem perform_failed {c : Call} (h : (g.perform c).2.isSome) : (g.perform c).1 = g := by
  cases c <;> exact attempt_failed h

/-! ## What calls keep -/

/-- **A graph that refers to its own services and states only**, also where it has none. -/
structure Sound (g : SessionGraph) : Prop where
  ids : (g.services.map (·.id)).Nodup
  initial : g.states ≠ [] → g.initial.isSome
  initial_lt : ∀ i, g.initial = some i → i < g.states.length
  declared : ∀ s ∈ g.states, (g.service? s.service).isSome
  sources : ∀ i s, g.state? i = some s → ∀ t ∈ s.transitions, t.source = i
  closed : ∀ s ∈ g.states, ∀ j ∈ s.successors, j < g.states.length
  protocols : ∀ s ∈ g.states, s.protocol.Sound

/-- A sound graph with a state is well formed. -/
theorem Sound.wellFormed (hg : g.Sound) (hstates : g.states ≠ []) : g.WellFormed := by
  obtain ⟨i, hi⟩ := Option.isSome_iff_exists.1 (hg.initial hstates)
  have hservices : g.services ≠ [] := by
    intro hnil
    obtain ⟨s, hs⟩ := List.exists_mem_of_ne_nil g.states hstates
    have hdeclared := hg.declared s hs
    rw [service?, Service.find?, hnil] at hdeclared
    cases hdeclared
  exact ⟨hservices, hg.ids, ⟨i, hi, hg.initial_lt i hi⟩, hg.declared, hg.sources, hg.closed,
    fun s hs => (hg.protocols s hs).wellFormed⟩

theorem sound_empty : empty.Sound where
  ids := .nil
  initial h := absurd rfl h
  initial_lt _ h := by cases h
  declared _ h := by cases h
  sources _ _ h := by cases h
  closed _ h := by cases h
  protocols _ h := by cases h

theorem Sound.addService (hg : g.Sound) {s : Service} {g' : SessionGraph}
    (h : g.addService s = .ok g') : g'.Sound := by
  rw [SessionGraph.addService] at h
  split at h
  · cases h
  · next hnew =>
    cases h
    have hfresh : ∀ r ∈ g.services, r.id ≠ s.id := by
      simpa [service?, Service.find?, List.find?_eq_none] using hnew
    refine ⟨?_, hg.initial, hg.initial_lt, fun r hr => ?_, hg.sources, hg.closed, hg.protocols⟩
    · have hnodup : (g.services.map (·.id) ++ [s.id]).Nodup := by
        refine List.nodup_append'.2 ⟨hg.ids, List.nodup_singleton _, ?_⟩
        rw [List.disjoint_singleton]
        simpa using fun r hr => hfresh r hr
      simpa [pushService] using hnodup
    · have hold := hg.declared r hr
      rw [service?, Service.find?] at hold ⊢
      rw [pushService, List.find?_append, Option.isSome_or, hold]
      rfl

theorem Sound.addState (hg : g.Sound) {service : String} {protocol : ProtocolGraph}
    (hp : protocol.Sound) {g' : SessionGraph} {i : Nat}
    (h : g.addState service protocol = .ok (g', i)) : g'.Sound := by
  rw [SessionGraph.addState] at h
  split at h
  · next hservice =>
    cases h
    have hinitial : g.initial.getD g.states.length < g.states.length + 1 := by
      cases h : g.initial with
      | none => exact Nat.lt_succ_self _
      | some i => exact Nat.lt_succ_of_lt (hg.initial_lt i h)
    have hmem : ∀ s ∈ g.states ++ [⟨service, protocol, []⟩],
        s ∈ g.states ∨ s = ⟨service, protocol, []⟩ := fun s hs =>
      (List.mem_append.1 hs).imp_right List.mem_singleton.1
    -- the new state leads nowhere, so what has to be said of transitions is said of old ones
    refine ⟨hg.ids, fun _ => rfl, fun j hj => ?_, fun s hs => ?_, fun j s hs t ht => ?_,
      fun s hs j hj => ?_, fun s hs => ?_⟩
    · cases hj
      simpa using hinitial
    · rcases hmem s hs with hs | rfl
      · exact hg.declared s hs
      · exact hservice
    · rw [state?, List.getElem?_append] at hs
      split at hs
      · exact hg.sources j s hs t ht
      · rw [List.mem_singleton.1 (List.mem_of_getElem? hs)] at ht
        cases ht
    · rw [List.length_append]
      rcases hmem s hs with hs | rfl
      · exact Nat.lt_add_right _ (hg.closed s hs j hj)
      · cases hj
    · rcases hmem s hs with hs | rfl
      · exact hg.protocols s hs
      · exact hp
  · cases h

theorem Sound.setInitial (hg : g.Sound) {i : Nat} {g' : SessionGraph}
    (h : g.setInitial i = .ok g') : g'.Sound := by
  rw [SessionGraph.setInitial] at h
  split at h
  · next hi =>
    cases h
    exact { hg with initial := fun _ => rfl, initial_lt := fun j hj => by cases hj; exact hi }
  · cases h

/-- A transition is added on the state it starts from, and to a state of the graph or out of it. -/
theorem pushTransition_of_addTransition {t : SessionTransition} {g' : SessionGraph}
    (h : g.addTransition t = .ok g') :
    g' = g.pushTransition t.source t ∧ ∀ j, t.target = .state j → j < g.states.length := by
  cases htarget : t.target with
  | exit =>
    simp only [addTransition, htarget] at h
    split at h <;> cases h
    exact ⟨rfl, fun j hj => by cases hj⟩
  | state k =>
    simp only [addTransition, htarget] at h
    split at h
    · next hk =>
      split at h <;> cases h
      exact ⟨rfl, fun j hj => by cases hj; exact hk⟩
    · cases h

theorem Sound.addTransition (hg : g.Sound) {t : SessionTransition} {g' : SessionGraph}
    (h : g.addTransition t = .ok g') : g'.Sound := by
  obtain ⟨rfl, htarget⟩ := pushTransition_of_addTransition h
  have hlength : (g.pushTransition t.source t).states.length = g.states.length :=
    List.length_modify ..
  -- the state that changes keeps its service and its protocol graph
  have hmem : ∀ s ∈ (g.pushTransition t.source t).states, ∃ r ∈ g.states,
      s.service = r.service ∧ s.protocol = r.protocol ∧
        ∀ u ∈ s.transitions, u ∈ r.transitions ∨ u = t := by
    intro s hs
    rcases mem_modify hs with hs | ⟨r, hr, rfl⟩
    · exact ⟨s, hs, rfl, rfl, fun u hu => .inl hu⟩
    · exact ⟨r, List.mem_of_getElem? hr, rfl, rfl,
        fun u hu => (List.mem_append.1 hu).imp_right List.mem_singleton.1⟩
  refine ⟨hg.ids, fun hne => ?_, fun i hi => hlength ▸ hg.initial_lt i hi, fun s hs => ?_,
    fun i s hs u hu => ?_, fun s hs j hj => ?_, fun s hs => ?_⟩
  · exact hg.initial fun h => hne (by simp [pushTransition, h])
  · obtain ⟨r, hr, hservice, -⟩ := hmem s hs
    rw [hservice]
    exact hg.declared r hr
  · rw [state?, pushTransition, List.getElem?_modify] at hs
    obtain ⟨r, hr, rfl⟩ := Option.map_eq_some_iff.1 hs
    split at hu
    · next hsource =>
      rcases List.mem_append.1 hu with hu | hu
      · exact hg.sources i r hr u hu
      · rw [List.mem_singleton.1 hu, hsource]
    · exact hg.sources i r hr u hu
  · rw [hlength]
    obtain ⟨r, hr, -, -, htransitions⟩ := hmem s hs
    obtain ⟨u, hu, huj⟩ := SessionState.mem_successors.1 hj
    rcases htransitions u hu with hu | rfl
    · exact hg.closed r hr j (SessionState.mem_successors.2 ⟨u, hu, huj⟩)
    · exact htarget j huj
  · obtain ⟨r, hr, -, hprotocol, -⟩ := hmem s hs
    rw [hprotocol]
    exact hg.protocols r hr

/-- **A call keeps a graph sound**, failing or not. -/
theorem Sound.perform (hg : g.Sound) {c : Call} (hc : c.Made) : (g.perform c).1.Sound := by
  cases c with
  | addService s => exact attempt_keeps hg fun _ => hg.addService
  | addState service protocol =>
    refine attempt_keeps hg fun g' h => ?_
    cases hadd : g.addState service protocol with
    | error e => rw [hadd] at h; cases h
    | ok r =>
      rw [hadd] at h
      cases h
      exact hg.addState (ProtocolGraph.Made.sound hc) hadd
  | setInitial i => exact attempt_keeps hg fun _ => hg.setInitial
  | addTransition t => exact attempt_keeps hg fun _ => hg.addTransition

theorem Sound.after (hg : g.Sound) {calls : List Call} (hcalls : ∀ c ∈ calls, c.Made) :
    (g.after calls).Sound := by
  induction calls generalizing g with
  | nil => exact hg
  | cons c rest ih =>
    obtain ⟨hc, hrest⟩ := List.forall_mem_cons.1 hcalls
    exact ih (hg.perform hc) hrest

/-! ## What lowering needs -/

variable {ts : Transformers} {convention : GuardNegation}

/-- **A well-formed graph lowers exactly when the protocol graph of every reachable state does.** -/
theorem WellFormed.exists_lower_iff (hg : g.WellFormed) :
    (∃ l, g.lower ts convention = .ok l) ↔
      ∀ i s service, g.Reachable i → g.state? i = some s → g.service? s.service = some service →
        ∃ requests, (s.protocol.lower ts service.name).1 = .ok requests := by
  constructor
  · rintro ⟨l, hl⟩ i s service hi hs hservice
    obtain ⟨initial, vs, ws, hinitial, hvisits, -, -⟩ := nodes_of_lower hl
    obtain ⟨v, hv, rfl⟩ := List.mem_map.1 ((mem_visits_iff hinitial hvisits i).2 hi)
    have hdeclared := (tour_of_visits hvisits).declared v hv
    rw [hdeclared.state] at hs
    cases hs
    rw [hdeclared.service] at hservice
    cases hservice
    exact ⟨v.requests, hdeclared.requests⟩
  · intro hall
    cases hlower : g.lower ts convention with
    | ok l => exact ⟨l, rfl⟩
    | error e =>
      obtain ⟨i, s, service, hi, hs, hservice, he⟩ := hg.exists_fault hlower
      obtain ⟨requests, hrequests⟩ := hall i s service hi hs hservice
      rw [he] at hrequests
      cases hrequests

/-- A sound graph lowers exactly when every request has a sampler that lies on the path of a
reachable state. -/
theorem Sound.exists_lower_iff (hg : g.Sound) (hstates : g.states ≠ []) :
    (∃ l, g.lower ts convention = .ok l) ↔
      ∀ i s p, g.Reachable i → g.state? i = some s → s.protocol.OnPath p →
        ∃ sampler, ts.transform p.request = .ok sampler := by
  rw [(hg.wellFormed hstates).exists_lower_iff]
  constructor
  · intro h i s p hi hs
    have hmem : s ∈ g.states := List.mem_of_getElem? hs
    obtain ⟨service, hservice⟩ := Option.isSome_iff_exists.1 (hg.declared s hmem)
    exact (hg.protocols s hmem).exists_lower_iff.1 (h i s service hi hs hservice) p
  · intro h i s service hi hs _
    exact (hg.protocols s (List.mem_of_getElem? hs)).exists_lower_iff.2 fun p => h i s p hi hs

/-- It fails for a request, whatever the registry, as long as transformers fail for requests. -/
theorem Sound.isRequestFault (hg : g.Sound) (hstates : g.states ≠ [])
    (hts : ts.FaultRequestsOnly) {e : CompileError} (h : g.lower ts convention = .error e) :
    e.isRequestFault := by
  obtain ⟨i, s, -, hs, ⟨hnil, k, hk, -⟩ | ⟨p, -, htransform⟩⟩ :=
    fault_of_lower (hg.wellFormed hstates) h
  · have hhollow : s.protocol.Hollow := ⟨hnil, by rw [hk]; rfl⟩
    exact absurd hhollow (hg.protocols s (List.mem_of_getElem? hs)).not_hollow
  · exact hts.isRequestFault htransform

/-- **A graph made by calls is valid, and lowers but for requests without a sampler.** Whatever the
calls were and whichever of them failed: a further one that fails leaves the graph, and once there
is a state the graph is valid, does not fail to lower for its structure, and lowers with the
built-in transformers exactly when they take every request on the path of a reachable state. -/
theorem lower_of_calls {calls : List Call} (hcalls : ∀ c ∈ calls, c.Made) :
    (∀ c, ((empty.after calls).perform c).2.isSome →
      ((empty.after calls).perform c).1 = empty.after calls) ∧
    ((empty.after calls).states ≠ [] →
      (empty.after calls).validate = .ok () ∧
      ∀ convention,
        (∀ e, (empty.after calls).lower .builtIn convention ≠ .error (.model e)) ∧
        ((∃ l, (empty.after calls).lower .builtIn convention = .ok l) ↔
          ∀ i s p, (empty.after calls).Reachable i → (empty.after calls).state? i = some s →
            s.protocol.OnPath p → ¬ p.request.kind.Unsupported)) := by
  refine ⟨fun c => perform_failed, fun hstates => ?_⟩
  have hsound : (empty.after calls).Sound := sound_empty.after hcalls
  refine ⟨validate_eq_ok_iff.2 (hsound.wellFormed hstates), fun convention => ⟨fun e he => ?_, ?_⟩⟩
  · have hfault := hsound.isRequestFault hstates Transformers.faultRequestsOnly_builtIn he
    cases hfault
  · rw [hsound.exists_lower_iff hstates]
    simp only [Transformers.exists_transform_builtIn_iff]

/-- A page, and an order without an address that nothing leads to but a second transition. -/
def orderForm : ProtocolGraph :=
  (ProtocolGraph.single (.httpGet "page" "shop" "/")).after
    [.addState ⟨"order", .soap "" "" "<order/>"⟩ [], .addTransition 0 .exit,
      .addTransition 0 (.state 1), .setInitial 7]

/-- Calls that make a graph of one state. The second, the third and the last of them fail. -/
def counterCalls : List Call :=
  [.addService (.named "A"), .addService ⟨"A", "again"⟩, .addState "B" .empty,
    .addState "A" orderForm, .addTransition ⟨0, .state 0, [], []⟩, .addTransition ⟨0, .state 1, [], []⟩]

/-- The plan of that graph has the page only. -/
theorem lower_of_calls_counter :
    (∀ c ∈ counterCalls, c.Made) ∧ (empty.after counterCalls).states ≠ [] ∧
      (empty.after counterCalls).validate = .ok () ∧
      (∀ e, (empty.after counterCalls).lower .builtIn .prefixUnnegated ≠ .error (.model e)) ∧
      ∀ i s p, (empty.after counterCalls).Reachable i →
        (empty.after counterCalls).state? i = some s → s.protocol.OnPath p →
          ¬ p.request.kind.Unsupported := by
  have hmade : ∀ c ∈ counterCalls, c.Made := by
    simp only [counterCalls, List.forall_mem_cons, Call.Made, true_and, List.not_mem_nil,
      false_implies, implies_true, and_true]
    exact ⟨.empty [], .single _ _⟩
  have hstates : (empty.after counterCalls).states ≠ [] := List.cons_ne_nil _ _
  have hlower : (empty.after counterCalls).lower .builtIn .prefixUnnegated = .ok ⟨0,
      [⟨0, "A", "A", [⟨"page", .http .get "http" "shop" none "/" [], none⟩],
        [⟨0, "A", "", "", true⟩]⟩],
      [.nonLinearProtocol "A" "page" 2]⟩ := by cbv
  obtain ⟨hvalid, hlowers⟩ := (lower_of_calls hmade).2 hstates
  obtain ⟨hnever, hiff⟩ := hlowers .prefixUnnegated
  exact ⟨hmade, hstates, hvalid, hnever, hiff.1 ⟨_, hlower⟩⟩

end SessionGraph

end LoadPlan
