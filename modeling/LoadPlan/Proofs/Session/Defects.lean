import LoadPlan.Proofs.Session.WellFormed
import Mathlib.Data.List.Duplicate
/-!
# What a refused session graph is refused for

An error of validation names a defect: a service id, a state, a transition by its owner and the
source it claims, a state of some protocol graph. `SessionGraph.HasDefect` says for each error what
it is of the graph that the error speaks of, without the order in which validation looks. The
defects that are listed are those that are there (`SessionGraph.mem_defects_iff`), so no check is
missing and none is made in vain: `SessionGraph.validate_exact`.
-/

namespace LoadPlan

/-! ## Protocol graphs -/

/-- **A defect of the protocol graph** of the session state `session`. A graph without states has
none. -/
inductive ProtocolGraph.HasDefect (session : Nat) (g : ProtocolGraph) : ModelError → Prop
  /-- There are states, but none to start in. -/
  | noInitial : g.states ≠ [] → g.initial = none → HasDefect session g (.noProtocolInitial session)
  /-- There are states, and the initial one is not among them. -/
  | missingInitial {i : Nat} :
      g.states ≠ [] → g.initial = some i → g.states.length ≤ i →
      HasDefect session g (.protocolStateNotFound session i)
  /-- A transition leads to a state that the graph does not have. -/
  | missingTarget {s : ProtocolState} {j : Nat} :
      s ∈ g.states → .state j ∈ s.transitions → g.states.length ≤ j →
      HasDefect session g (.protocolStateNotFound session j)

/-- The defects of a protocol graph are the ones listed. -/
theorem ProtocolGraph.mem_defects_iff {g : ProtocolGraph} {session : Nat} {e : ModelError} :
    e ∈ g.defects session ↔ g.HasDefect session e := by
  by_cases hempty : g.states = []
  · have hnil : g.defects session = [] := by simp [defects, hempty]
    rw [hnil]
    refine iff_of_false List.not_mem_nil fun h => ?_
    cases h with
    | noInitial hne => exact hne hempty
    | missingInitial hne => exact hne hempty
    | missingTarget hs =>
      rw [hempty] at hs
      cases hs
  · rw [defects, if_neg (by simpa using hempty), List.mem_append, List.mem_map]
    constructor
    · rintro (hinitial | ⟨j, hj, rfl⟩)
      · split at hinitial
        · next hnone =>
          obtain rfl := List.mem_singleton.1 hinitial
          exact .noInitial hempty hnone
        · next i hi =>
          split at hinitial
          · cases hinitial
          · next hlt =>
            obtain rfl := List.mem_singleton.1 hinitial
            exact .missingInitial hempty hi (Nat.not_lt.1 hlt)
      · obtain ⟨⟨s, hs, hmem⟩, hle⟩ := mem_danglingTargets.1 hj
        exact .missingTarget hs hmem hle
    · intro h
      cases h with
      | noInitial _ hnone => simp [hnone]
      | missingInitial _ hi hle => simp [hi, Nat.not_lt.2 hle]
      | @missingTarget s j hs hmem hle =>
        exact .inr ⟨j, mem_danglingTargets.2 ⟨⟨s, hs, hmem⟩, hle⟩, rfl⟩

/-! ## Session graphs -/

namespace SessionGraph

/-- **A defect of a session graph**, by the error that names it. -/
inductive HasDefect (g : SessionGraph) : ModelError → Prop
  /-- No service is declared. -/
  | noServices : g.services = [] → HasDefect g .noServices
  /-- Two services have the id. -/
  | duplicateService {id : String} :
      (g.services.map (·.id)).Duplicate id → HasDefect g (.duplicateService id)
  /-- There is no state to start in. -/
  | noInitial : g.initial = none → HasDefect g .noInitialState
  /-- The initial state is not one of the graph. -/
  | missingInitial {i : Nat} :
      g.initial = some i → g.states.length ≤ i → HasDefect g (.sessionStateNotFound i)
  /-- A state is in a service that is not declared. -/
  | undeclared {s : SessionState} :
      s ∈ g.states → (∀ r ∈ g.services, r.id ≠ s.service) →
      HasDefect g (.serviceNotFound s.service)
  /-- A transition is stored on another state than the one it starts from. -/
  | foreignSource {owner : Nat} {s : SessionState} {t : SessionTransition} :
      g.state? owner = some s → t ∈ s.transitions → t.source ≠ owner →
      HasDefect g (.sourceMismatch owner t.source)
  /-- A transition leads to a state that the graph does not have. -/
  | missingTarget {s : SessionState} {j : Nat} :
      s ∈ g.states → j ∈ s.successors → g.states.length ≤ j →
      HasDefect g (.sessionStateNotFound j)
  /-- The protocol graph of a state has the defect. -/
  | inProtocol {session : Nat} {s : SessionState} {e : ModelError} :
      g.state? session = some s → s.protocol.HasDefect session e → HasDefect g e

variable {g : SessionGraph} {e : ModelError}

/-- The ids that are repeated are those that occur twice, or once more after they were seen. -/
theorem mem_repeatedIds_iff {seen : List String} {services : List Service} {id : String} :
    id ∈ repeatedIds seen services ↔
      (id ∈ seen ∧ id ∈ services.map (·.id)) ∨ (services.map (·.id)).Duplicate id := by
  induction services generalizing seen with
  | nil => simp [repeatedIds]
  | cons s rest ih =>
    rw [repeatedIds, List.map_cons, List.duplicate_cons_iff, List.mem_cons]
    by_cases hs : s.id ∈ seen
    · rw [if_pos hs, List.mem_cons, ih]
      constructor
      · rintro (rfl | ⟨hseen, hmem⟩ | hdup)
        · exact .inl ⟨hs, .inl rfl⟩
        · exact .inl ⟨hseen, .inr hmem⟩
        · exact .inr (.inr hdup)
      · rintro (⟨hseen, rfl | hmem⟩ | ⟨rfl, -⟩ | hdup)
        · exact .inl rfl
        · exact .inr (.inl ⟨hseen, hmem⟩)
        · exact .inl rfl
        · exact .inr (.inr hdup)
    · rw [if_neg hs, ih, List.mem_cons]
      constructor
      · rintro (⟨rfl | hseen, hmem⟩ | hdup)
        · exact .inr (.inl ⟨rfl, hmem⟩)
        · exact .inl ⟨hseen, .inr hmem⟩
        · exact .inr (.inr hdup)
      · rintro (⟨hseen, rfl | hmem⟩ | ⟨rfl, hmem⟩ | hdup)
        · exact absurd hseen hs
        · exact .inl ⟨.inr hseen, hmem⟩
        · exact .inl ⟨.inl rfl, hmem⟩
        · exact .inr hdup

/-- The defects of a transition: it starts elsewhere, or leads to no state. -/
theorem mem_defects_transition_iff {n owner : Nat} {t : SessionTransition} :
    e ∈ t.defects n owner ↔
      (t.source ≠ owner ∧ e = .sourceMismatch owner t.source) ∨
        ∃ j, t.target = .state j ∧ n ≤ j ∧ e = .sessionStateNotFound j := by
  rw [SessionTransition.defects, List.mem_append]
  refine or_congr ?_ ?_
  · by_cases hsource : t.source = owner <;> simp [hsource]
  · cases htarget : t.target with
    | exit => simp
    | state j => by_cases hj : j < n <;> simp [hj, Nat.not_le.2, Nat.not_lt.1]

/-- The defects of a state, kind by kind. -/
theorem mem_stateDefects_iff {owner : Nat} {s : SessionState} :
    e ∈ g.stateDefects owner s ↔
      ((∀ r ∈ g.services, r.id ≠ s.service) ∧ e = .serviceNotFound s.service) ∨
      (∃ t ∈ s.transitions, e ∈ t.defects g.states.length owner) ∨
      s.protocol.HasDefect owner e := by
  have hservice : g.service? s.service = none ↔ ∀ r ∈ g.services, r.id ≠ s.service := by
    simp [service?, Service.find?]
  rw [stateDefects, List.mem_append, List.mem_append, List.mem_flatMap,
    ProtocolGraph.mem_defects_iff, ← hservice, or_assoc]
  cases h : g.service? s.service <;> simp

/-- **The defects of a graph are the ones listed.** -/
theorem mem_defects_iff : e ∈ g.defects ↔ g.HasDefect e := by
  rw [defects, List.mem_append, List.mem_append, List.mem_append, List.mem_map, List.mem_flatMap]
  constructor
  · rintro (((hservices | ⟨id, hid, rfl⟩) | hinitial) | ⟨⟨s, owner⟩, hs, hstate⟩)
    · split at hservices
      · next hempty =>
        obtain rfl := List.mem_singleton.1 hservices
        exact .noServices (List.isEmpty_iff.1 hempty)
      · cases hservices
    · obtain ⟨hseen, -⟩ | hdup := mem_repeatedIds_iff.1 hid
      · cases hseen
      · exact .duplicateService hdup
    · split at hinitial
      · next hnone =>
        obtain rfl := List.mem_singleton.1 hinitial
        exact .noInitial hnone
      · next i hi =>
        split at hinitial
        · cases hinitial
        · next hlt =>
          obtain rfl := List.mem_singleton.1 hinitial
          exact .missingInitial hi (Nat.not_lt.1 hlt)
    · have howner : g.state? owner = some s := List.mk_mem_zipIdx_iff_getElem?.1 hs
      have hmem : s ∈ g.states := List.mem_of_getElem? howner
      obtain ⟨hundeclared, rfl⟩ | ⟨t, ht, hdefect⟩ | hprotocol := mem_stateDefects_iff.1 hstate
      · exact .undeclared hmem hundeclared
      · obtain ⟨hsource, rfl⟩ | ⟨j, htarget, hle, rfl⟩ := mem_defects_transition_iff.1 hdefect
        · exact .foreignSource howner ht hsource
        · exact .missingTarget hmem (SessionState.mem_successors.2 ⟨t, ht, htarget⟩) hle
      · exact .inProtocol howner hprotocol
  · intro h
    have hlisted : ∀ {owner s}, g.state? owner = some s → e ∈ g.stateDefects owner s →
        ∃ entry ∈ g.states.zipIdx, e ∈ g.stateDefects entry.2 entry.1 :=
      fun hs hdefect => ⟨(_, _), List.mk_mem_zipIdx_iff_getElem?.2 hs, hdefect⟩
    cases h with
    | noServices hempty => simp [hempty]
    | duplicateService hdup =>
      exact .inl (.inl (.inr ⟨_, mem_repeatedIds_iff.2 (.inr hdup), rfl⟩))
    | noInitial hnone => simp [hnone]
    | missingInitial hi hle => simp [hi, Nat.not_lt.2 hle]
    | undeclared hs hundeclared =>
      obtain ⟨owner, howner⟩ := List.mem_iff_getElem?.1 hs
      exact .inr (hlisted howner (mem_stateDefects_iff.2 (.inl ⟨hundeclared, rfl⟩)))
    | foreignSource howner ht hsource =>
      exact .inr (hlisted howner (mem_stateDefects_iff.2
        (.inr (.inl ⟨_, ht, mem_defects_transition_iff.2 (.inl ⟨hsource, rfl⟩)⟩))))
    | missingTarget hs hj hle =>
      obtain ⟨owner, howner⟩ := List.mem_iff_getElem?.1 hs
      obtain ⟨t, ht, htarget⟩ := SessionState.mem_successors.1 hj
      exact .inr (hlisted howner (mem_stateDefects_iff.2
        (.inr (.inl ⟨t, ht, mem_defects_transition_iff.2 (.inr ⟨_, htarget, hle, rfl⟩)⟩))))
    | inProtocol howner hprotocol =>
      exact .inr (hlisted howner (mem_stateDefects_iff.2 (.inr (.inr hprotocol))))

/-- **A graph is well formed if it has no defect.** -/
theorem wellFormed_iff_forall_not_hasDefect : g.WellFormed ↔ ∀ e, ¬ g.HasDefect e := by
  rw [← defects_eq_nil_iff, List.eq_nil_iff_forall_not_mem]
  exact forall_congr' fun e => not_congr mem_defects_iff

/-- A graph is refused for one of its defects. -/
theorem hasDefect_of_validate (h : g.validate = .error e) : g.HasDefect e := by
  rw [validate] at h
  split at h
  · cases h
  · next hdefects =>
    cases h
    exact mem_defects_iff.1 (by rw [hdefects]; exact List.mem_cons_self)

/-- **Validation is exact**: it accepts the well-formed graphs, which are those without a defect, and
what it refuses a graph for is a defect of the graph. -/
theorem validate_exact (g : SessionGraph) :
    (g.validate = .ok () ↔ g.WellFormed) ∧ (g.WellFormed ↔ ∀ e, ¬ g.HasDefect e) ∧
      ∀ e, g.validate = .error e → g.HasDefect e :=
  ⟨validate_eq_ok_iff, wellFormed_iff_forall_not_hasDefect, fun _ => hasDefect_of_validate⟩

/-- A graph with a transition that is stored on the first state and claims to start from the second
one, and with a request that leads nowhere. -/
def misfiled : SessionGraph where
  services := [.named "A", .named "B"]
  states := [
    ⟨"A", .empty, [⟨0, .state 1, [], []⟩, ⟨1, .exit, [], []⟩]⟩,
    ⟨"B", ⟨[⟨⟨"ask", .java "Ask" []⟩, [], [.state 3]⟩], some 0⟩, []⟩]
  initial := some 0

/-- It is refused for the transition, the first defect in the order of states. -/
theorem validate_exact_misfiled :
    misfiled.validate = .error (.sourceMismatch 0 1) ∧ ¬ misfiled.WellFormed ∧
      misfiled.HasDefect (.sourceMismatch 0 1) := by
  have hrefused : misfiled.validate = .error (.sourceMismatch 0 1) := rfl
  obtain ⟨haccepts, -, hnames⟩ := validate_exact misfiled
  refine ⟨hrefused, fun hwell => ?_, hnames _ hrefused⟩
  cases hrefused.symm.trans (haccepts.2 hwell)

end SessionGraph

end LoadPlan
