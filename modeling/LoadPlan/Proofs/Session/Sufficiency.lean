import LoadPlan.Compile
import LoadPlan.Proofs.Protocol.Walk
import LoadPlan.Proofs.Session.Reachability
import LoadPlan.Proofs.Session.WellFormed
/-!
# What validation spares lowering

Validation looks at a whole graph before anything is lowered, lowering looks at the states it
comes to. In a well-formed graph the two part in one place only: a protocol graph without states
is well formed, and lowers if it does not name an initial state. One that does is `Hollow`.
Whatever else fails in lowering a well-formed graph fails in a transformer
(`SessionGraph.fault_of_lower`), so validation suffices exactly for the models in which no hollow
graph can be reached (`LoadModel.validation_suffices_iff`).
-/

namespace LoadPlan

/-- Is the error about one request, and not about the graph around it? -/
def CompileError.isRequestFault : CompileError → Bool
  | unknownRequestType .. | invalidRequest .. => true
  | _ => false

/-! ## Transformers -/

namespace Transformers

variable {ts : Transformers}

/-- **No transformer of the registry fails but for the request it is given.** -/
def FaultRequestsOnly (ts : Transformers) : Prop :=
  ∀ kind t, ts.get? kind = some t → ∀ r e, t.transform r = .error e → e.isRequestFault

/-- Nor does the registry. -/
theorem FaultRequestsOnly.isRequestFault (h : ts.FaultRequestsOnly) {r : Request}
    {e : CompileError} (he : ts.transform r = .error e) : e.isRequestFault := by
  rw [transform] at he
  split at he
  · cases he
    rfl
  · next t ht => exact h _ t ht r e he

/-- A registry with a transformer more. -/
theorem FaultRequestsOnly.register (h : ts.FaultRequestsOnly) {t : Transformer}
    (ht : ∀ r e, t.transform r = .error e → e.isRequestFault) :
    (ts.register t).FaultRequestsOnly := by
  intro kind t' hget
  rw [Transformers.register, Registry.get?_insert] at hget
  split at hget
  · cases hget
    exact ht
  · exact h kind t' hget

theorem faultRequestsOnly_builtIn : builtIn.FaultRequestsOnly := by
  have hplain : ∀ (r : Request) (e : CompileError),
      Transformer.plainSampler r = .error e → e.isRequestFault := by
    intro r e h
    unfold Transformer.plainSampler at h
    split at h <;> try (cases h; done)
    · split at h
      · cases h
        rfl
      · cases h
    · cases h
      rfl
  have hbuiltIn : ∀ (kind : RequestTag) (r : Request) (e : CompileError),
      (Transformer.builtIn kind).transform r = .error e → e.isRequestFault := by
    intro kind r e h
    simp only [Transformer.builtIn] at h
    split at h
    · exact hplain r e h
    · cases h
      rfl
  have hempty : FaultRequestsOnly Registry.empty := by
    intro kind t h
    rw [Registry.get?_empty] at h
    cases h
  exact ((((hempty.register (hbuiltIn _)).register (hbuiltIn _)).register (hbuiltIn _)).register
    (hbuiltIn _)).register (hbuiltIn _)

/-- A registry that takes every request of some families. -/
def accepting (kinds : List RequestTag) : Transformers :=
  kinds.foldr (fun kind ts => ts.register (.custom kind "")) Registry.empty

theorem transform_accepting {kinds : List RequestTag} {r : Request} (h : r.kind.tag ∈ kinds) :
    ∃ sampler, (accepting kinds).transform r = .ok sampler := by
  have hget : ∃ kind, (accepting kinds).get? r.kind.tag = some (.custom kind "") := by
    induction kinds with
    | nil => cases h
    | cons kind kinds ih =>
      rw [accepting, List.foldr_cons, register, Registry.get?_insert]
      split
      · exact ⟨kind, rfl⟩
      · next hne => exact ih ((List.mem_cons.1 h).resolve_left (Ne.symm hne))
  obtain ⟨kind, hget⟩ := hget
  rw [transform, hget]
  exact ⟨_, rfl⟩

theorem faultRequestsOnly_accepting (kinds : List RequestTag) :
    (accepting kinds).FaultRequestsOnly := by
  induction kinds with
  | nil =>
    intro kind t h
    cases h
  | cons kind kinds ih => exact ih.register fun r e h => by cases h

end Transformers

/-! ## Protocol graphs -/

namespace ProtocolGraph

variable {ts : Transformers} {service : String} {g : ProtocolGraph}

/-- **A graph without states that names an initial one.** -/
def Hollow (g : ProtocolGraph) : Prop := g.states = [] ∧ g.initial.isSome

/-- A graph without states lowers to no requests, unless it is hollow. -/
theorem lower_of_states_eq_nil (hstates : g.states = []) :
    g.lower ts service =
      (match g.initial with
        | none => .ok []
        | some i => .error (.model (.unknownProtocolState i)), []) := by
  cases hinitial : g.initial with
  | none => simp only [lower, hinitial]
  | some i => simp [lower, hinitial, follow, state?, hstates]

/-- **A well-formed graph fails to lower because it is hollow**, or because a request of it
fails. -/
theorem fault_of_lower (hg : g.WellFormed) {e : CompileError}
    (h : (g.lower ts service).1 = .error e) :
    (g.states = [] ∧ ∃ i, g.initial = some i ∧ e = .model (.unknownProtocolState i)) ∨
      ∃ s ∈ g.states, ts.transform s.request = .error e := by
  by_cases hstates : g.states = []
  · rw [lower_of_states_eq_nil hstates] at h
    cases hinitial : g.initial with
    | none =>
      rw [hinitial] at h
      cases h
    | some i =>
      rw [hinitial] at h
      cases h
      exact .inl ⟨hstates, i, rfl, rfl⟩
  · obtain ⟨i, hinitial, hi⟩ := hg.initial hstates
    simp only [lower, hinitial] at h
    obtain ⟨k, s, -, hs, htransform⟩ := fault_of_follow hg.closed hi h
    exact .inr ⟨s, List.mem_of_getElem? hs, htransform⟩

end ProtocolGraph

/-! ## Session graphs -/

namespace SessionGraph

variable {ts : Transformers} {g : SessionGraph} {convention : GuardNegation}

/-- A walk fails where it comes to a state that does not exist, or to one that fails itself. -/
theorem fault_of_visits {fresh stack : List Nat} {e : CompileError}
    (h : g.visits ts fresh stack = .error e) :
    ∃ i ∈ stack, ∃ j, Relation.ReflTransGen g.Leads i j ∧
      (g.state? j = none ∨ ∃ s, g.state? j = some s ∧ g.visit ts j s = .error e) := by
  induction fresh, stack using visits.induct ts g with
  | case1 fresh =>
    rw [visits_nil] at h
    cases h
  | case2 fresh i stack hs => exact ⟨i, List.mem_cons_self .., i, .refl, .inl hs⟩
  | case3 fresh i stack s hs hi e' hv =>
    rw [visits_failed hs hi hv] at h
    cases h
    exact ⟨i, List.mem_cons_self .., i, .refl, .inr ⟨s, hs, hv⟩⟩
  | case4 fresh i stack s hs hi v reports hv _ _ e' =>
    rename_i he ih
    change g.visits ts (fresh.erase i) (g.pushed (fresh.erase i) s ++ stack) = _ at he
    rw [visits_fresh hs hi hv, he] at h
    cases h
    obtain ⟨k, hk, j, hreach, hj⟩ := ih he
    rcases List.mem_append.1 hk with hk | hk
    · have hlead : g.Leads i k := ⟨s, hs, SessionState.mem_successors.1 (mem_pushed.1 hk).1⟩
      exact ⟨i, List.mem_cons_self .., j, .head hlead hreach, hj⟩
    · exact ⟨k, List.mem_cons_of_mem _ hk, j, hreach, hj⟩
  | case5 fresh i stack s hs hi v reports hv _ _ rest more =>
    rename_i hok ih
    change g.visits ts (fresh.erase i) (g.pushed (fresh.erase i) s ++ stack) = _ at hok
    rw [visits_fresh hs hi hv, hok] at h
    cases h
  | case6 fresh i stack s hs hi ih =>
    rw [visits_stale hs hi] at h
    obtain ⟨k, hk, hrest⟩ := ih h
    exact ⟨k, List.mem_cons_of_mem _ hk, hrest⟩

/-- What can be reached in a well-formed graph exists. -/
theorem WellFormed.exists_state (hg : g.WellFormed) {i : Nat} (hi : g.Reachable i) :
    ∃ s, g.state? i = some s := by
  suffices hlt : i < g.states.length from ⟨_, List.getElem?_eq_getElem hlt⟩
  obtain ⟨initial, hinitial, hreach⟩ := hi
  obtain ⟨start, hstart, hlt⟩ := hg.initial
  rw [hinitial] at hstart
  cases hstart
  induction hreach with
  | refl => exact hlt
  | tail _ hlead _ =>
    obtain ⟨s, hs, ht⟩ := hlead
    exact hg.lt_of_mem_successors hs _ (SessionState.mem_successors.2 ht)

/-- **A well-formed graph fails to lower with the protocol graph of a reachable state.** -/
theorem WellFormed.exists_fault (hg : g.WellFormed) {e : CompileError}
    (h : g.lower ts convention = .error e) :
    ∃ i s service, g.Reachable i ∧ g.state? i = some s ∧ g.service? s.service = some service ∧
      (s.protocol.lower ts service.name).1 = .error e := by
  obtain ⟨initial, hinitial, -⟩ := hg.initial
  cases hvisits : g.visits ts (List.range g.states.length) [initial] with
  | ok r =>
    obtain ⟨more, hlower⟩ := exists_lower_of_visits convention hinitial hvisits
    rw [hlower] at h
    cases h
  | error e' =>
    rw [lower_of_visits_error hinitial hvisits] at h
    cases h
    obtain ⟨start, hstart, j, hreach, hj⟩ := fault_of_visits hvisits
    rw [List.mem_singleton] at hstart
    have hreachable : g.Reachable j := ⟨initial, hinitial, hstart ▸ hreach⟩
    obtain ⟨s, hs⟩ := hg.exists_state hreachable
    -- the state is there and its service is declared, so its protocol graph is what fails
    obtain hnone | ⟨s', hs', hvisit⟩ := hj
    · rw [hs] at hnone
      cases hnone
    · rw [hs] at hs'
      cases hs'
      obtain ⟨service, hservice⟩ :=
        Option.isSome_iff_exists.1 (hg.declared s (List.mem_of_getElem? hs))
      refine ⟨j, s, service, hreachable, hs, hservice, ?_⟩
      rcases hlower : s.protocol.lower ts service.name with ⟨e' | requests, ws⟩
      · rw [visit_unlowered hservice hlower] at hvisit
        cases hvisit
        rfl
      · rw [visit_lowered hservice hlower] at hvisit
        cases hvisit

/-- **A well-formed graph fails to lower because a reachable protocol graph is hollow, or because
a request in one fails.** -/
theorem fault_of_lower (hg : g.WellFormed) {e : CompileError}
    (h : g.lower ts convention = .error e) :
    ∃ i s, g.Reachable i ∧ g.state? i = some s ∧
      ((s.protocol.states = [] ∧
          ∃ k, s.protocol.initial = some k ∧ e = .model (.unknownProtocolState k)) ∨
        ∃ p ∈ s.protocol.states, ts.transform p.request = .error e) := by
  obtain ⟨i, s, service, hi, hs, -, hlower⟩ := hg.exists_fault h
  exact ⟨i, s, hi, hs,
    ProtocolGraph.fault_of_lower (hg.protocols s (List.mem_of_getElem? hs)) hlower⟩

/-- In a lowered graph no hollow protocol graph can be reached. -/
theorem not_hollow_of_lower {l : LoweredSession} (h : g.lower ts convention = .ok l) {i : Nat}
    {s : SessionState} (hi : g.Reachable i) (hs : g.state? i = some s) : ¬ s.protocol.Hollow := by
  rintro ⟨hstates, hsome⟩
  obtain ⟨k, hk⟩ := Option.isSome_iff_exists.1 hsome
  obtain ⟨initial, vs, ws, hinitial, hvisits, -, -⟩ := nodes_of_lower h
  obtain ⟨v, hv, rfl⟩ := List.mem_map.1 ((mem_visits_iff hinitial hvisits i).2 hi)
  have hdeclared := (tour_of_visits hvisits).declared v hv
  rw [hdeclared.state] at hs
  cases hs
  have hrequests := hdeclared.requests
  rw [ProtocolGraph.lower_of_states_eq_nil hstates, hk] at hrequests
  cases hrequests

/-- The families of all requests in a graph. -/
def requestTags (g : SessionGraph) : List RequestTag :=
  g.states.flatMap fun s => s.protocol.states.map fun p => p.request.kind.tag

end SessionGraph

/-! ## Models -/

namespace Compiler

variable {c : Compiler} {m : LoadModel}

/-- A valid model is lowered with its session graph. -/
theorem lower_of_validate (hm : m.validate = .ok ()) (stamp : Stamp) :
    c.lower stamp m = (m.session.lower c.transformers c.config.plan.guardNegation).map fun s =>
      ⟨stamp.id, m.name, stamp.time, s.initial, s.nodes, [], s.warnings⟩ := by
  rw [lower, hm]
  cases m.session.lower c.transformers c.config.plan.guardNegation <;> rfl

/-- It makes a plan only with its session graph. -/
theorem exists_lower_of_lower (hm : m.validate = .ok ()) {stamp : Stamp} {plan : Plan}
    (h : c.lower stamp m = .ok plan) :
    ∃ l, m.session.lower c.transformers c.config.plan.guardNegation = .ok l := by
  rw [lower_of_validate hm] at h
  cases hlower : m.session.lower c.transformers c.config.plan.guardNegation with
  | ok l => exact ⟨l, rfl⟩
  | error e =>
    rw [hlower] at h
    cases h

/-- **A valid model is refused because a reachable protocol graph is hollow, or because a request
in one fails.** -/
theorem fault_of_lower (hm : m.validate = .ok ()) {stamp : Stamp} {e : CompileError}
    (h : c.lower stamp m = .error e) :
    ∃ i s, m.session.Reachable i ∧ m.session.state? i = some s ∧
      ((s.protocol.states = [] ∧
          ∃ k, s.protocol.initial = some k ∧ e = .model (.unknownProtocolState k)) ∨
        ∃ p ∈ s.protocol.states, c.transformers.transform p.request = .error e) := by
  have hg : m.session.WellFormed := SessionGraph.validate_eq_ok_iff.1 hm
  rw [lower_of_validate hm] at h
  cases hlower : m.session.lower c.transformers c.config.plan.guardNegation with
  | ok l =>
    rw [hlower] at h
    cases h
  | error e' =>
    rw [hlower] at h
    cases h
    exact SessionGraph.fault_of_lower hg hlower

/-- With a registry that takes every request, only a hollow graph can be the reason. -/
theorem eq_model_of_lower_accepting (hm : m.validate = .ok ())
    (hts : c.transformers = .accepting m.session.requestTags) {stamp : Stamp} {e : CompileError}
    (h : c.lower stamp m = .error e) : ∃ k, e = .model (.unknownProtocolState k) := by
  obtain ⟨i, s, -, hs, ⟨-, k, -, he⟩ | ⟨p, hp, htransform⟩⟩ := fault_of_lower hm h
  · exact ⟨k, he⟩
  · have htag : p.request.kind.tag ∈ m.session.requestTags :=
      List.mem_flatMap.2 ⟨s, List.mem_of_getElem? hs, List.mem_map.2 ⟨p, hp, rfl⟩⟩
    obtain ⟨sampler, hsampler⟩ := Transformers.transform_accepting htag
    rw [hts, hsampler] at htransform
    cases htransform

end Compiler

namespace LoadModel

open Compiler

/-- **When validation suffices for lowering.** A valid model makes a plan, or fails for one of its
requests, with whatever registry whose transformers fail for requests only: so it is if and only
if no hollow protocol graph can be reached in it. A defect of the model that lowering finds after
validation is such a graph, and any other protocol graph without states lowers to no requests. -/
theorem validation_suffices_iff {m : LoadModel} (hm : m.validate = .ok ()) :
    ((∀ (c : Compiler) (stamp : Stamp), c.transformers.FaultRequestsOnly →
        (∃ plan, c.lower stamp m = .ok plan) ∨
          ∃ e, c.lower stamp m = .error e ∧ e.isRequestFault) ↔
      ∀ i s, m.session.Reachable i → m.session.state? i = some s → ¬ s.protocol.Hollow) ∧
    (∀ (c : Compiler) (stamp : Stamp) (e : ModelError), c.transformers.FaultRequestsOnly →
      c.lower stamp m = .error (.model e) →
        ∃ i s k, m.session.Reachable i ∧ m.session.state? i = some s ∧ s.protocol.states = [] ∧
          s.protocol.initial = some k ∧ e = .unknownProtocolState k) ∧
    ∀ (ts : Transformers) (service : String) (p : ProtocolGraph), p.states = [] → ¬ p.Hollow →
      p.lower ts service = (.ok [], []) := by
  refine ⟨⟨fun hall i s hi hs hhollow => ?_, fun hnone c stamp hts => ?_⟩,
    fun c stamp e hts h => ?_, fun ts service p hstates hhollow => ?_⟩
  · let c : Compiler := .ofRegistries .standard (.accepting m.session.requestTags) .builtIn
    have hts : c.transformers.FaultRequestsOnly := Transformers.faultRequestsOnly_accepting _
    obtain ⟨plan, hplan⟩ | ⟨e, he, hrequest⟩ := hall c ⟨"", ⟨0, 0, 0⟩⟩ hts
    · obtain ⟨l, hlower⟩ := exists_lower_of_lower hm hplan
      exact SessionGraph.not_hollow_of_lower hlower hi hs hhollow
    · obtain ⟨k, rfl⟩ := eq_model_of_lower_accepting hm rfl he
      cases hrequest
  · cases hplan : c.lower stamp m with
    | ok plan => exact .inl ⟨plan, rfl⟩
    | error e =>
      obtain ⟨i, s, hi, hs, ⟨hstates, k, hk, -⟩ | ⟨p, -, htransform⟩⟩ := fault_of_lower hm hplan
      · exact absurd ⟨hstates, by simp [hk]⟩ (hnone i s hi hs)
      · exact .inr ⟨e, rfl, hts.isRequestFault htransform⟩
  · obtain ⟨i, s, hi, hs, ⟨hstates, k, hk, he⟩ | ⟨p, -, htransform⟩⟩ := fault_of_lower hm h
    · cases he
      exact ⟨i, s, k, hi, hs, hstates, hk, rfl⟩
    · cases hts.isRequestFault htransform
  · rw [ProtocolGraph.lower_of_states_eq_nil hstates]
    cases hinitial : p.initial with
    | none => rfl
    | some k => exact absurd ⟨hstates, by simp [hinitial]⟩ hhollow

/-- A session that stays in one state. A second state, whose protocol graph is hollow, cannot be
reached. -/
def outpost : LoadModel where
  name := "outpost"
  session := {
    services := [.named "Gate"]
    states := [
      ⟨"Gate", .single (.httpGet "knock" "gate.local" "/"), [⟨0, .state 0, [], []⟩]⟩,
      ⟨"Gate", ⟨[], some 0⟩, [⟨1, .state 0, [], []⟩]⟩]
    initial := some 0 }
  mix := .empty

theorem validation_suffices_outpost :
    outpost.validate = .ok () ∧
    ∀ (c : Compiler) (stamp : Stamp), c.transformers.FaultRequestsOnly →
      (∃ plan, c.lower stamp outpost = .ok plan) ∨
        ∃ e, c.lower stamp outpost = .error e ∧ e.isRequestFault := by
  have hvalid : outpost.validate = .ok () := by cbv
  refine ⟨hvalid, (validation_suffices_iff hvalid).1.2 fun i s hi hs => ?_⟩
  have hzero : i = 0 := by
    obtain ⟨initial, hinitial, hreach⟩ := hi
    cases hinitial
    clear hs
    induction hreach with
    | refl => rfl
    | tail _ hlead ih =>
      obtain ⟨s, hs, t, ht, htarget⟩ := hlead
      subst ih
      cases hs
      cases List.mem_singleton.1 ht
      cases htarget
      rfl
  subst hzero
  cases hs
  simp [ProtocolGraph.Hollow, ProtocolGraph.single, ProtocolGraph.linear, ProtocolGraph.chain]

/-- A session in one state, with a protocol graph that has no states but names an initial one. -/
def waiting : LoadModel where
  name := "waiting"
  session := ⟨[.named "Gate"], [⟨"Gate", ⟨[], some 0⟩, []⟩], some 0⟩
  mix := .empty

/-- **A valid model can be refused for a defect of its graph.** -/
theorem lower_waiting :
    waiting.validate = .ok () ∧ Compiler.standard.transformers.FaultRequestsOnly ∧
      Compiler.standard.lower ⟨"", ⟨0, 0, 0⟩⟩ waiting =
        .error (.model (.unknownProtocolState 0)) := by
  have hvalid : waiting.validate = .ok () := by cbv
  refine ⟨hvalid, Transformers.faultRequestsOnly_builtIn, ?_⟩
  rw [lower_of_validate hvalid]
  cbv

end LoadModel

end LoadPlan
