import LoadPlan.Proofs.Session.Sufficiency
import Mathlib.Data.List.Forall2
import Mathlib.Data.Set.Function
/-!
# Lowering does not see how the states are numbered

The index of a state is its place in the list of states, so a graph can be written down in many
ways. `Renumbering` relates two graphs whose reachable states are the same but for their indices.
`SessionGraph.visits` reads indices all the time: it looks states up, keeps the ones that are
fresh, and stacks the ones to come. Each turn of the walk over one graph is the turn of the walk
over the other (`visits_renumbered`), so the visits differ in their indices only, and wiring asks
for an index only to find the place of its visit.
-/

namespace LoadPlan

/-! ## New indices -/

/-- A target under new indices. -/
def Target.renumber (σ : Nat → Nat) : Target → Target
  | .state i => .state (σ i)
  | .exit => .exit

theorem Target.index?_renumber (σ : Nat → Nat) (t : Target) :
    (t.renumber σ).index? = t.index?.map σ := by
  cases t <;> rfl

/-- A state under new indices. -/
def SessionState.renumber (σ : Nat → Nat) (s : SessionState) : SessionState where
  service := s.service
  protocol := s.protocol
  transitions := s.transitions.map fun t => ⟨σ t.source, t.target.renumber σ, t.guards, t.actions⟩

/-- **Two transitions that say the same**, but for the indices they name. -/
structure SessionTransition.Renumbered (σ : Nat → Nat) (t t' : SessionTransition) : Prop where
  target : t'.target = t.target.renumber σ
  guards : t'.guards = t.guards
  actions : t'.actions = t.actions

/-- **Two states that say the same**, each in its own graph. -/
structure SessionState.Renumbered (σ : Nat → Nat) (g h : SessionGraph) (s s' : SessionState) :
    Prop where
  service : s'.service = s.service
  name : (h.service? s'.service).map (·.name) = (g.service? s.service).map (·.name)
  protocol : s'.protocol = s.protocol
  transitions : List.Forall₂ (SessionTransition.Renumbered σ) s.transitions s'.transitions

/-- **Two visits that show the same**, but for the indices. -/
structure Visit.Renumbered (σ : Nat → Nat) (v v' : Visit) : Prop where
  index : v'.index = σ v.index
  service : v'.service = v.service
  requests : v'.requests = v.requests
  transitions :
    List.Forall₂ (SessionTransition.Renumbered σ) v.state.transitions v'.state.transitions

namespace SessionGraph

/-- **Two graphs with the same reachable states**, under other indices. -/
structure Renumbering (σ : Nat → Nat) (g h : SessionGraph) : Prop where
  initial : h.initial = g.initial.map σ
  bijOn : Set.BijOn σ {i | g.Reachable i} {j | h.Reachable j}
  states : ∀ i s, g.Reachable i → g.state? i = some s →
    ∃ s', h.state? (σ i) = some s' ∧ s.Renumbered σ g h s'

variable {ts : Transformers} {g h : SessionGraph} {σ : Nat → Nat} {convention : GuardNegation}

/-! ## States -/

/-- The same service is declared for both. -/
theorem service?_renumbered {s s' : SessionState} (hs : s.Renumbered σ g h s') :
    h.service? s'.service = g.service? s.service := by
  have hid : ∀ (f : SessionGraph) (r : SessionState) (service : Service),
      f.service? r.service = some service → service.id = r.service :=
    fun f r service hfind => by simpa using List.find?_some hfind
  have hname := hs.name
  cases hh : h.service? s'.service with
  | none =>
    rw [hh] at hname
    exact (Option.map_eq_none_iff.1 hname.symm).symm
  | some b =>
    rw [hh] at hname
    obtain ⟨a, ha, hab⟩ := Option.map_eq_some_iff.1 hname.symm
    have hids : a.id = b.id := by rw [hid g s a ha, hid h s' b hh, hs.service]
    obtain ⟨id, name⟩ := a
    obtain ⟨id', name'⟩ := b
    cases hab
    cases hids
    exact ha.symm

/-- Coming to both shows the same. -/
theorem visit_renumbered {s s' : SessionState} (hs : s.Renumbered σ g h s') (i : Nat) :
    h.visit ts (σ i) s' =
      (g.visit ts i s).map fun r => (⟨σ i, s', r.1.service, r.1.requests⟩, r.2) := by
  have hservice := service?_renumbered hs
  cases hg : g.service? s.service with
  | none =>
    rw [visit_undeclared hg, visit_undeclared (hservice.trans hg), hs.service]
    rfl
  | some service =>
    rcases hl : s.protocol.lower ts service.name with ⟨e | requests, ws⟩
    · rw [visit_unlowered hg hl, visit_unlowered (hservice.trans hg) (hs.protocol ▸ hl)]
      rfl
    · rw [visit_lowered hg hl, visit_lowered (hservice.trans hg) (hs.protocol ▸ hl)]
      rfl

/-- They lead to the same states. -/
theorem successors_renumbered {s s' : SessionState} (hs : s.Renumbered σ g h s') :
    s'.successors = s.successors.map σ := by
  have htransitions := hs.transitions
  rw [SessionState.successors, SessionState.successors]
  generalize s.transitions = l at htransitions
  generalize s'.transitions = l' at htransitions
  induction htransitions with
  | nil => rfl
  | @cons t t' rest rest' ht _ ih =>
    rw [List.filterMap_cons, List.filterMap_cons, ih, ht.target, Target.index?_renumber]
    cases t.target.index? <;> rfl

theorem Reachable.of_mem_successors {i j : Nat} {s : SessionState} (hi : g.Reachable i)
    (hs : g.state? i = some s) (hj : j ∈ s.successors) : g.Reachable j := by
  obtain ⟨initial, hinitial, hreach⟩ := hi
  exact ⟨initial, hinitial, hreach.tail ⟨s, hs, SessionState.mem_successors.1 hj⟩⟩

/-! ## The walk -/

/-- **A reachable state is fresh in one walk when it is in the other.** What else is fresh is
never asked for. -/
structure SameFresh (σ : Nat → Nat) (g : SessionGraph) (fresh fresh' : List Nat) : Prop where
  nodup : fresh.Nodup
  nodup' : fresh'.Nodup
  mem_iff : ∀ i, g.Reachable i → (σ i ∈ fresh' ↔ i ∈ fresh)

/-- It stays so when a state is visited. -/
theorem SameFresh.erase {fresh fresh' : List Nat} (hf : SameFresh σ g fresh fresh')
    (hinj : Set.InjOn σ {i | g.Reachable i}) {i : Nat} (hi : g.Reachable i) :
    SameFresh σ g (fresh.erase i) (fresh'.erase (σ i)) := by
  refine ⟨hf.nodup.erase i, hf.nodup'.erase (σ i), fun j hj => ?_⟩
  rw [hf.nodup.mem_erase_iff, hf.nodup'.mem_erase_iff, hf.mem_iff j hj, Ne, hinj.eq_iff hj hi]

/-- **Two walks that end the same**: with the same error, or with visits that show the same and the
same reports. -/
inductive SameWalk (σ : Nat → Nat) :
    Except CompileError (List Visit × List Warning) →
      Except CompileError (List Visit × List Warning) → Prop
  | error (e : CompileError) : SameWalk σ (.error e) (.error e)
  | ok {vs vs' : List Visit} (hvs : List.Forall₂ (Visit.Renumbered σ) vs vs')
      (ws : List Warning) : SameWalk σ (.ok (vs, ws)) (.ok (vs', ws))

theorem SameWalk.before {v v' : Visit} (hv : v.Renumbered σ v') (ws : List Warning)
    {r r' : Except CompileError (List Visit × List Warning)} (h : SameWalk σ r r') :
    SameWalk σ (before [v] ws r) (before [v'] ws r') := by
  cases h with
  | error e => exact .error e
  | ok hvs more => exact .ok (.cons hv hvs) _

/-- The same is pushed: all successors exist, so those that are fresh. -/
theorem pushed_renumbered (hg : g.WellFormed) (hσ : Renumbering σ g h) {fresh fresh' : List Nat}
    (hf : SameFresh σ g fresh fresh') {i : Nat} {s s' : SessionState} (hi : g.Reachable i)
    (hs : g.state? i = some s) (hs' : s.Renumbered σ g h s') :
    h.pushed fresh' s' = (g.pushed fresh s).map σ := by
  rw [pushed, pushed, successors_renumbered hs', List.filter_map]
  refine congrArg _ (List.filter_congr fun j hj => ?_)
  have hreach : g.Reachable j := hi.of_mem_successors hs hj
  obtain ⟨r, hr⟩ := hg.exists_state hreach
  obtain ⟨r', hr', -⟩ := hσ.states j r hreach hr
  have hlt := lt_of_state?_eq_some hr
  have hlt' := lt_of_state?_eq_some hr'
  simp only [Function.comp_apply, hf.mem_iff j hreach, Nat.not_le.2 hlt, Nat.not_le.2 hlt']

/-- A turn that visits a state visits the same state in both, if the walks go on the same. -/
theorem visits_come_renumbered (hg : g.WellFormed) (hσ : Renumbering σ g h)
    {fresh fresh' stack : List Nat} {i : Nat} {s : SessionState} {v : Visit} {ws : List Warning}
    (hf : SameFresh σ g fresh fresh') (hstack : ∀ j ∈ i :: stack, g.Reachable j)
    (hs : g.state? i = some s) (hi : i ∈ fresh) (hv : g.visit ts i s = .ok (v, ws))
    (hnext : ∀ fresh', SameFresh σ g (fresh.erase i) fresh' →
      (∀ j ∈ g.pushed (fresh.erase i) s ++ stack, g.Reachable j) →
      SameWalk σ (g.visits ts (fresh.erase i) (g.pushed (fresh.erase i) s ++ stack))
        (h.visits ts fresh' ((g.pushed (fresh.erase i) s ++ stack).map σ))) :
    SameWalk σ (g.visits ts fresh (i :: stack)) (h.visits ts fresh' ((i :: stack).map σ)) := by
  have hreach : g.Reachable i := hstack i (List.mem_cons_self ..)
  obtain ⟨s', hs', hsame⟩ := hσ.states i s hreach hs
  have hv' : h.visit ts (σ i) s' = .ok (⟨σ i, s', v.service, v.requests⟩, ws) := by
    rw [visit_renumbered hsame, hv]
    rfl
  have hf' := hf.erase hσ.bijOn.injOn hreach
  have hpushed : ∀ j ∈ g.pushed (fresh.erase i) s ++ stack, g.Reachable j := by
    refine List.forall_mem_append.2 ⟨fun j hj => ?_, fun j hj => hstack j (.tail _ hj)⟩
    exact hreach.of_mem_successors hs (mem_pushed.1 hj).1
  have hrest := hnext _ hf' hpushed
  rw [List.map_append, ← pushed_renumbered hg hσ hf' hreach hs hsame] at hrest
  obtain ⟨rfl, rfl, -⟩ := lowered_of_visit hv
  rw [visits_fresh hs hi hv, List.map_cons,
    visits_fresh hs' ((hf.mem_iff _ hreach).2 hi) hv']
  have hvisit : v.Renumbered σ ⟨σ v.index, s', v.service, v.requests⟩ :=
    ⟨rfl, rfl, rfl, hsame.transitions⟩
  exact hrest.before hvisit ws

variable (ts) in
/-- **The walks go the same way**, turn by turn. -/
theorem visits_renumbered (hg : g.WellFormed) (hσ : Renumbering σ g h) {fresh stack : List Nat}
    (hstack : ∀ i ∈ stack, g.Reachable i) {fresh' : List Nat}
    (hf : SameFresh σ g fresh fresh') :
    SameWalk σ (g.visits ts fresh stack) (h.visits ts fresh' (stack.map σ)) := by
  induction fresh, stack using visits.induct ts g generalizing fresh' with
  | case1 fresh =>
    rw [visits_nil, List.map_nil, visits_nil]
    exact .ok .nil []
  | case2 fresh i stack hs =>
    -- whatever the stack holds can be reached, so it exists
    obtain ⟨s, hs'⟩ := hg.exists_state (hstack i (List.mem_cons_self ..))
    rw [hs] at hs'
    cases hs'
  | case3 fresh i stack s hs hi e hv =>
    have hreach : g.Reachable i := hstack i (List.mem_cons_self ..)
    obtain ⟨s', hs', hsame⟩ := hσ.states i s hreach hs
    have hv' : h.visit ts (σ i) s' = .error e := by
      rw [visit_renumbered hsame, hv]
      rfl
    rw [visits_failed hs hi hv, List.map_cons,
      visits_failed hs' ((hf.mem_iff i hreach).2 hi) hv']
    exact .error e
  -- the two cases of a visit differ in what becomes of the rest, which `ih` compares
  | case4 fresh i stack s hs hi v ws hv _ _ e =>
    rename_i ih
    exact visits_come_renumbered hg hσ hf hstack hs hi hv fun _ hf' hall => ih hall hf'
  | case5 fresh i stack s hs hi v ws hv _ _ rest more =>
    rename_i ih
    exact visits_come_renumbered hg hσ hf hstack hs hi hv fun _ hf' hall => ih hall hf'
  | case6 fresh i stack s hs hi ih =>
    have hreach : g.Reachable i := hstack i (List.mem_cons_self ..)
    obtain ⟨s', hs', -⟩ := hσ.states i s hreach hs
    rw [visits_stale hs hi, List.map_cons,
      visits_stale hs' (fun hi' => hi ((hf.mem_iff i hreach).1 hi'))]
    exact ih (fun j hj => hstack j (.tail _ hj)) hf

/-! ## Wiring -/

variable {vs vs' : List Visit}

/-- A state has the same node. -/
theorem nodeOf?_renumbered (hvs : List.Forall₂ (Visit.Renumbered σ) vs vs')
    (hinj : Set.InjOn σ {i | g.Reachable i}) (hreach : ∀ v ∈ vs, g.Reachable v.index) {j : Nat}
    (hj : g.Reachable j) : nodeOf? vs' (σ j) = nodeOf? vs j := by
  rw [nodeOf?, nodeOf?]
  induction hvs with
  | nil => rfl
  | @cons v v' rest rest' hv _ ih =>
    obtain ⟨hhead, htail⟩ := List.forall_mem_cons.1 hreach
    have hindex : (v'.index == σ j) = (v.index == j) := by
      rw [Bool.eq_iff_iff, beq_iff_eq, beq_iff_eq, hv.index, hinj.eq_iff hhead hj]
    rw [List.findIdx?_cons, List.findIdx?_cons, hindex, ih htail]

/-- A node has the same name. -/
theorem nodeName_renumbered (hvs : List.Forall₂ (Visit.Renumbered σ) vs vs') (k : Nat) :
    nodeName vs' k = nodeName vs k := by
  have hnames : vs'.map (·.service.name) = vs.map (·.service.name) := by
    induction hvs with
    | nil => rfl
    | cons hv _ ih => rw [List.map_cons, List.map_cons, hv.service, ih]
  rw [nodeName, nodeName, ← List.getElem?_map, ← List.getElem?_map, hnames]

/-- **The transitions become the same entries**, if what they lead to has been visited. -/
theorem wire_renumbered
    (hnode : ∀ j, g.Reachable j → nodeOf? vs' (σ j) = nodeOf? vs j)
    (hname : ∀ k, nodeName vs' k = nodeName vs k) {l l' : List SessionTransition}
    (hl : List.Forall₂ (SessionTransition.Renumbered σ) l l')
    (htargets : ∀ t ∈ l, ∀ j, t.target = .state j → g.Reachable j ∧ (nodeOf? vs j).isSome)
    (source : String) (table : List TransitionEntry) :
    wire convention vs' source table l' = wire convention vs source table l := by
  induction hl generalizing table with
  | nil => rw [wire, wire]
  | @cons t t' rest rest' ht _ ih =>
    obtain ⟨htarget, hrest⟩ := List.forall_mem_cons.1 htargets
    cases hto : t.target with
    | exit =>
      have hto' : t'.target = .exit := by rw [ht.target, hto]; rfl
      rw [wire_exit hto, wire_exit hto', ih hrest]
    | state j =>
      have hto' : t'.target = .state (σ j) := by rw [ht.target, hto]; rfl
      obtain ⟨hj, hsome⟩ := htarget j hto
      obtain ⟨k, hk⟩ := Option.isSome_iff_exists.1 hsome
      have hk' : nodeOf? vs' (σ j) = some k := (hnode j hj).trans hk
      by_cases hold : ∃ e ∈ table, e.target = k
      · rw [wire_repeated hto hk hold, wire_repeated hto' hk' hold, ih hrest, hname]
      · have hnew : ∀ e ∈ table, e.target ≠ k := fun e he hek => hold ⟨e, he, hek⟩
        have hentry : entryOf convention vs' source t' k = entryOf convention vs source t k := by
          rw [entryOf, entryOf, hname, ht.guards, ht.actions]
        rw [wire_new hto hk hnew, wire_new hto' hk' hnew, hentry, ih hrest]

/-- The visits become the same nodes. -/
theorem wireAll_renumbered
    (hnode : ∀ j, g.Reachable j → nodeOf? vs' (σ j) = nodeOf? vs j)
    (hname : ∀ k, nodeName vs' k = nodeName vs k) {l l' : List Visit}
    (hl : List.Forall₂ (Visit.Renumbered σ) l l')
    (htargets : ∀ v ∈ l, ∀ t ∈ v.state.transitions, ∀ j, t.target = .state j →
      g.Reachable j ∧ (nodeOf? vs j).isSome) (id : Nat) :
    wireAll convention vs' id l' = wireAll convention vs id l := by
  induction hl generalizing id with
  | nil => rw [wireAll, wireAll]
  | @cons v v' rest rest' hv _ ih =>
    obtain ⟨hhead, htail⟩ := List.forall_mem_cons.1 htargets
    rw [wireAll, wireAll, hv.service, hv.requests,
      wire_renumbered hnode hname hv.transitions hhead, ih htail]

/-! ## Lowering -/

/-- When the walks start every state is fresh. -/
theorem Renumbering.sameFresh (hg : g.WellFormed) (hσ : Renumbering σ g h) :
    SameFresh σ g (List.range g.states.length) (List.range h.states.length) := by
  refine ⟨List.nodup_range, List.nodup_range, fun i hi => ?_⟩
  obtain ⟨s, hs⟩ := hg.exists_state hi
  obtain ⟨s', hs', -⟩ := hσ.states i s hi hs
  exact iff_of_true (mem_range_of_state? hs') (mem_range_of_state? hs)

/-- **A renumbered graph lowers as the graph does.** -/
theorem Renumbering.lower_eq (hg : g.WellFormed) (hσ : Renumbering σ g h) (ts : Transformers)
    (convention : GuardNegation) : h.lower ts convention = g.lower ts convention := by
  obtain ⟨initial, hinitial, -⟩ := hg.initial
  have hinitial' : h.initial = some (σ initial) := by
    rw [hσ.initial, hinitial]
    rfl
  have hstart : ∀ i ∈ [initial], g.Reachable i := by
    rw [List.forall_mem_singleton]
    exact ⟨initial, hinitial, .refl⟩
  have hwalk := visits_renumbered ts hg hσ hstart (hσ.sameFresh hg)
  rw [List.map_singleton] at hwalk
  generalize hr : g.visits ts (List.range g.states.length) [initial] = r at hwalk
  generalize hr' : h.visits ts (List.range h.states.length) [σ initial] = r' at hwalk
  cases hwalk with
  | error e => rw [lower_of_visits_error hinitial hr, lower_of_visits_error hinitial' hr']
  | @ok vs vs' hvs ws =>
    have htour := tour_of_visits hr
    have hreach : ∀ j ∈ vs.map (·.index), g.Reachable j :=
      fun j => (mem_visits_iff hinitial hr j).1
    have hnode : ∀ j, g.Reachable j → nodeOf? vs' (σ j) = nodeOf? vs j := fun j =>
      nodeOf?_renumbered hvs hσ.bijOn.injOn fun v hv => hreach _ (List.mem_map_of_mem hv)
    have htargets : ∀ v ∈ vs, ∀ t ∈ v.state.transitions, ∀ j, t.target = .state j →
        g.Reachable j ∧ (nodeOf? vs j).isSome := by
      intro v hv t ht j hj
      have hmem := htour.closed v hv j (SessionState.mem_successors.2 ⟨t, ht, hj⟩)
      exact ⟨hreach j hmem, Option.isSome_iff_exists.2 (exists_nodeOf? htour.nodup hmem)⟩
    have hall : wireAll convention vs' 0 vs' = wireAll convention vs 0 vs :=
      wireAll_renumbered hnode (nodeName_renumbered hvs) hvs htargets 0
    have hfirst : nodeOf? vs' (σ initial) = some 0 :=
      (hnode initial ⟨initial, hinitial, .refl⟩).trans htour.nodeOf?_initial
    simp only [lower, hinitial, hinitial', hr, hr', hall, hfirst, htour.nodeOf?_initial, bind,
      Except.bind]

/-! ## Rearranging a graph -/

/-- **The states of a list only, in the order of the list**, among other services. -/
def arrange (g : SessionGraph) (order : List Nat) (services : List Service) : SessionGraph where
  services := services
  states := order.filterMap fun i => (g.state? i).map (SessionState.renumber order.idxOf)
  initial := g.initial.map order.idxOf

/-- **The list leaves out unreachable states at most**, and the services leave out unused ones at
most. -/
structure Keeps (g : SessionGraph) (order : List Nat) (services : List Service) : Prop where
  exist : ∀ i ∈ order, i < g.states.length
  reachable : ∀ i, g.Reachable i → i ∈ order
  services : ∀ i s, g.Reachable i → g.state? i = some s →
    Service.find? services s.service = g.service? s.service

variable {order : List Nat} {services : List Service}

/-- When nothing is left out, what comes of an element stands in its place. -/
theorem getElem?_filterMap_of_isSome {α β : Type} {f : α → Option β} {l : List α}
    (hf : ∀ a ∈ l, (f a).isSome) (k : Nat) : (l.filterMap f)[k]? = l[k]?.bind f := by
  induction l generalizing k with
  | nil => rfl
  | cons a rest ih =>
    obtain ⟨ha, hrest⟩ := List.forall_mem_cons.1 hf
    obtain ⟨b, hb⟩ := Option.isSome_iff_exists.1 ha
    rw [List.filterMap_cons_some hb]
    cases k with
    | zero => exact hb.symm
    | succ k => exact ih hrest k

namespace Keeps

variable {i : Nat} {s : SessionState}

/-- A reachable state has the index of its place in the list. -/
theorem state?_arrange (hk : g.Keeps order services) (hi : g.Reachable i)
    (hs : g.state? i = some s) :
    (g.arrange order services).state? (order.idxOf i) = some (s.renumber order.idxOf) := by
  have hsome : ∀ j ∈ order, ((g.state? j).map (SessionState.renumber order.idxOf)).isSome := by
    intro j hj
    rw [Option.isSome_map, state?, List.getElem?_eq_getElem (hk.exist j hj)]
    rfl
  rw [arrange, state?, getElem?_filterMap_of_isSome hsome,
    List.getElem?_idxOf (hk.reachable i hi), Option.bind_some, hs, Option.map_some]

/-- It says the same. -/
theorem renumbered (hk : g.Keeps order services) (hi : g.Reachable i)
    (hs : g.state? i = some s) :
    s.Renumbered order.idxOf g (g.arrange order services) (s.renumber order.idxOf) := by
  have hservice : (g.arrange order services).service? s.service = g.service? s.service :=
    hk.services i s hi hs
  refine ⟨rfl, congrArg _ hservice, rfl, ?_⟩
  rw [SessionState.renumber, List.forall₂_map_right_iff, List.forall₂_same]
  exact fun t _ => ⟨rfl, rfl, rfl⟩

/-- It leads to the same states, in their places. -/
theorem leads_arrange_iff (hg : g.WellFormed) (hk : g.Keeps order services) (hi : g.Reachable i)
    {k : Nat} :
    (g.arrange order services).Leads (order.idxOf i) k ↔
      ∃ j, g.Leads i j ∧ k = order.idxOf j := by
  obtain ⟨s, hs⟩ := hg.exists_state hi
  have hs' := hk.state?_arrange hi hs
  have hsucc := successors_renumbered (hk.renumbered hi hs)
  have hleads : ∀ (f : SessionGraph) (m n : Nat) (r : SessionState), f.state? m = some r →
      (f.Leads m n ↔ n ∈ r.successors) := by
    intro f m n r hr
    rw [SessionState.mem_successors, Leads, hr]
    simp
  rw [hleads _ _ _ _ hs', hsucc, List.mem_map]
  simp only [hleads g i _ s hs, eq_comm]

/-- **The list is a renumbering**: a state that can be reached is found in its place, and in no
other. -/
theorem renumbering (hg : g.WellFormed) (hk : g.Keeps order services) :
    Renumbering order.idxOf g (g.arrange order services) := by
  refine ⟨rfl, ⟨?_, ?_, ?_⟩, fun i s hi hs => ⟨_, hk.state?_arrange hi hs, hk.renumbered hi hs⟩⟩
  · rintro i ⟨initial, hinitial, hreach⟩
    refine ⟨order.idxOf initial, by rw [arrange, hinitial]; rfl, ?_⟩
    induction hreach with
    | refl => exact .refl
    | tail hreach hlead ih =>
      exact ih.tail ((hk.leads_arrange_iff hg ⟨initial, hinitial, hreach⟩).2 ⟨_, hlead, rfl⟩)
  · exact fun i hi j _ hij => (List.idxOf_inj (hk.reachable i hi)).1 hij
  · rintro k ⟨start, hstart, hreach⟩
    obtain ⟨initial, hinitial, rfl⟩ := Option.map_eq_some_iff.1 hstart
    induction hreach with
    | refl => exact ⟨initial, ⟨initial, hinitial, .refl⟩, rfl⟩
    | tail _ hlead ih =>
      obtain ⟨i, hi, rfl⟩ := ih
      obtain ⟨j, hj, rfl⟩ := (hk.leads_arrange_iff hg hi).1 hlead
      obtain ⟨initial, hinitial, hreach⟩ := hi
      exact ⟨j, ⟨initial, hinitial, hreach.tail hj⟩, rfl⟩

end Keeps

/-- **Lowering depends on the reachable states only, and not on their indices.** A graph that says
the same about the reachable states of a valid graph, under whatever indices, has the same nodes,
warnings and initial node, or the same error. So has the graph when its states are put in another
order, and when unreachable states and unused services are left out. -/
theorem lower_eq_of_renumbering (hg : g.validate = .ok ()) :
    (∀ (h : SessionGraph) (σ : Nat → Nat), Renumbering σ g h →
      ∀ ts convention, h.lower ts convention = g.lower ts convention) ∧
    ∀ order services, g.Keeps order services →
      ∀ ts convention,
        (g.arrange order services).lower ts convention = g.lower ts convention := by
  have hwell : g.WellFormed := validate_eq_ok_iff.1 hg
  exact ⟨fun _ _ hσ ts convention => hσ.lower_eq hwell ts convention,
    fun _ _ hk ts convention => (hk.renumbering hwell).lower_eq hwell ts convention⟩

/-- From the second state of the shuttle one comes to the first two only. -/
theorem mem_of_reachable_shuttle {i : Nat} (h : shuttle.Reachable i) : i ∈ [1, 0] := by
  obtain ⟨initial, hinitial, hreach⟩ := h
  cases hinitial
  induction hreach with
  | refl => decide
  | tail _ hlead ih =>
    obtain ⟨s, hs, t, ht, htarget⟩ := hlead
    have hsucc := SessionState.mem_successors.2 ⟨t, ht, htarget⟩
    rw [List.mem_pair]
    rcases List.mem_pair.1 ih with rfl | rfl <;> cases hs <;>
      simp only [SessionState.successors, Target.index?, List.filterMap_cons, List.filterMap_nil,
        List.mem_cons, List.not_mem_nil, or_false] at hsucc <;> omega

/-- The shuttle with its initial state first, without the state that cannot be reached, and with a
service that no state uses. -/
def turnedShuttle : SessionGraph :=
  shuttle.arrange [1, 0] [.named "B", .named "C", .named "A"]

theorem lower_eq_of_renumbering_shuttle :
    shuttle.validate = .ok () ∧
      shuttle.Keeps [1, 0] [.named "B", .named "C", .named "A"] ∧
      Renumbering [1, 0].idxOf shuttle turnedShuttle ∧
      turnedShuttle.lower .builtIn .prefixUnnegated = .ok shuttlePlan ∧
      turnedShuttle.lower .builtIn .prefixNegated = shuttle.lower .builtIn .prefixNegated := by
  have hvalid : shuttle.validate = .ok () := by cbv
  have hlower : shuttle.lower .builtIn .prefixUnnegated = .ok shuttlePlan := by cbv
  have hkeeps : shuttle.Keeps [1, 0] [.named "B", .named "C", .named "A"] := by
    refine ⟨by decide, fun i => mem_of_reachable_shuttle, fun i s hi hs => ?_⟩
    rcases List.mem_pair.1 (mem_of_reachable_shuttle hi) with rfl | rfl <;> cases hs <;> rfl
  have hσ : Renumbering [1, 0].idxOf shuttle turnedShuttle :=
    hkeeps.renumbering (validate_eq_ok_iff.1 hvalid)
  obtain ⟨hrenumbered, harranged⟩ := lower_eq_of_renumbering hvalid
  exact ⟨hvalid, hkeeps, hσ, (hrenumbered _ _ hσ _ _).trans hlower, harranged _ _ hkeeps _ _⟩

end SessionGraph

end LoadPlan
