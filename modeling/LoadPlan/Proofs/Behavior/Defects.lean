import LoadPlan.Proofs.Decimal.Probability
import LoadPlan.Proofs.First
import LoadPlan.Proofs.Matrix.Building
/-!
# What a refused behavior model is refused for

A behavior model is well formed if it starts in one of its states, and every state has a declared
service, transitions that lead out or to a state of the model, with numbers between zero and one
that add up to one at most. `BehaviorModel.WellFormed` says so without an order; the order in which
a model is gone through is that of `BehaviorModel.FirstDefect`, an error at a place with nothing
wrong before it. Validation accepts the well-formed models and refuses each other one for its first
defect (`BehaviorModel.verdict_of_validate`).
-/

namespace LoadPlan

/-! ## Checks in order -/

section Checks

variable {α ε : Type}

/-- **A list of defects in the order of their checks**: there are none where all is in order, and
what is refused first is the head. -/
structure Checks (l : List ε) (good : Prop) (first : ε → Prop) : Prop where
  nil_iff : l = [] ↔ good
  head_iff : ∀ e, l.head? = some e ↔ first e

namespace Checks

variable {l l' : List ε} {good good' : Prop} {first first' : ε → Prop}

theorem congr (h : Checks l good first) (hgood : good ↔ good') (hfirst : ∀ e, first e ↔ first' e) :
    Checks l good' first' :=
  ⟨h.nil_iff.trans hgood, fun e => (h.head_iff e).trans (hfirst e)⟩

/-- One check refuses what does not hold. -/
theorem single (good : Prop) [Decidable good] (e : ε) :
    Checks (if good then [] else [e]) good fun e' => ¬ good ∧ e' = e := by
  by_cases h : good <;> simp only [h, if_true, if_false]
  · exact ⟨by simp, by simp⟩
  · exact ⟨by simp, fun e' => by simp [eq_comm]⟩

/-- A second list of checks is reached if the first one finds nothing. -/
theorem append (h : Checks l good first) (h' : Checks l' good' first') :
    Checks (l ++ l') (good ∧ good') fun e => first e ∨ good ∧ first' e := by
  refine ⟨by rw [List.append_eq_nil_iff, h.nil_iff, h'.nil_iff], fun e => ?_⟩
  rw [List.head?_append, Option.or_eq_some_iff, List.head?_eq_none_iff, h.head_iff, h.nil_iff,
    h'.head_iff]

/-- **Members are checked one after the other**, so the first one that is not in order is refused. -/
theorem flatMap {as : List α} {f : α → List ε} {good : α → Prop} {first : α → ε → Prop}
    (h : ∀ a, Checks (f a) (good a) (first a)) :
    Checks (as.flatMap f) (∀ a ∈ as, good a)
      fun e => ∃ k a, FirstAt (fun a => ¬ good a) as k a ∧ first a e := by
  refine ⟨by simp only [List.flatMap_eq_nil_iff, (h _).nil_iff], fun e => ?_⟩
  have hbad : ∀ a, (f a).head? ≠ none ↔ ¬ good a := fun a => by
    rw [Ne, List.head?_eq_none_iff, (h a).nil_iff]
  rw [List.head?_flatMap, findSome?_eq_some_iff_firstAt]
  simp only [hbad, (h _).head_iff]

end Checks

end Checks

/-! ## Well-formed models -/

/-- **The sum of the probabilities of a state**, added one by one from left to right. -/
def MarkovState.leftSum (s : MarkovState) : Float :=
  (s.transitions.map (·.probability)).foldl (· + ·) 0.0

namespace BehaviorModel

/-- **A target that the model has**: the exit, or one of its states. -/
def HasTarget (m : BehaviorModel) (target : Target) : Prop :=
  target = .exit ∨ ∃ i, target = .state i ∧ i < m.states.length

/-- **A transition in order**: it leads to a target of the model, with a number between zero and
one. -/
structure TransitionWellFormed (m : BehaviorModel) (t : MarkovTransition) : Prop where
  target : m.HasTarget t.target
  probability : 0.0 ≤ t.probability ∧ t.probability ≤ 1.0

/-- **A state in order**: its service is declared, and so are its transitions, which add up to one
at most. -/
structure StateWellFormed (m : BehaviorModel) (services : List Service) (s : MarkovState) :
    Prop where
  service : ∃ r ∈ services, r.id = s.service
  transitions : ∀ t ∈ s.transitions, m.TransitionWellFormed t
  sum : ¬ s.leftSum > 1.0 + 1e-9

/-- **A model in order** starts in one of its states, and all of them are in order. -/
structure WellFormed (m : BehaviorModel) (services : List Service) : Prop where
  initial : ∃ i, m.initial = some i ∧ i < m.states.length
  states : ∀ s ∈ m.states, m.StateWellFormed services s

/-! ## First defects -/

/-- **The first defect of a transition**: where it leads is looked at before how likely it is. -/
inductive TransitionDefect (m : BehaviorModel) (t : MarkovTransition) : ModelError → Prop
  /-- It leads to a state that the model does not have. -/
  | missingTarget {i : ℕ} :
      t.target = .state i → m.states.length ≤ i →
      TransitionDefect m t (.markovStateNotFound m.name i)
  /-- It leads somewhere, with a number that is not between zero and one. -/
  | improbable :
      m.HasTarget t.target → ¬ (0.0 ≤ t.probability ∧ t.probability ≤ 1.0) →
      TransitionDefect m t (.invalidProbability m.name t.probability)

/-- **The first defect of a state**: of its service, of its transitions in their order, then of
their sum. -/
inductive StateDefect (m : BehaviorModel) (services : List Service) (s : MarkovState) :
    ModelError → Prop
  /-- Its service is not declared. -/
  | undeclared :
      (∀ r ∈ services, r.id ≠ s.service) →
      StateDefect m services s (.unknownMarkovService m.name s.service)
  /-- Transition number `k` is the first one that is not in order. -/
  | inTransition {k : ℕ} {t : MarkovTransition} {e : ModelError} :
      (∃ r ∈ services, r.id = s.service) →
      FirstAt (fun t => ¬ m.TransitionWellFormed t) s.transitions k t → m.TransitionDefect t e →
      StateDefect m services s e
  /-- The transitions are in order, and add up to more than one. -/
  | overflow :
      (∃ r ∈ services, r.id = s.service) → (∀ t ∈ s.transitions, m.TransitionWellFormed t) →
      s.leftSum > 1.0 + 1e-9 →
      StateDefect m services s (.probabilityOverflow m.name s.service s.leftSum)

/-- **The first defect of a model**: of its initial state, then of its states in their order. -/
inductive FirstDefect (m : BehaviorModel) (services : List Service) : ModelError → Prop
  /-- There is no state to start in. -/
  | noInitial : m.initial = none → FirstDefect m services (.noMarkovInitial m.name)
  /-- The initial state is not one of the model. -/
  | missingInitial {i : ℕ} :
      m.initial = some i → m.states.length ≤ i →
      FirstDefect m services (.markovStateNotFound m.name i)
  /-- State number `k` is the first one that is not in order. -/
  | inState {k : ℕ} {s : MarkovState} {e : ModelError} :
      (∃ i, m.initial = some i ∧ i < m.states.length) →
      FirstAt (fun s => ¬ m.StateWellFormed services s) m.states k s →
      m.StateDefect services s e →
      FirstDefect m services e

variable {m : BehaviorModel} {services : List Service}

/-! ## Validation -/

theorem isProbability_iff {p : Float} : isProbability p ↔ 0.0 ≤ p ∧ p ≤ 1.0 := by
  simp [isProbability]

theorem total_eq_leftSum (s : MarkovState) : total s = s.leftSum := by
  rw [total, MarkovState.leftSum, List.foldl_map]

/-- A target is refused if it is a state that the model does not have. -/
theorem checks_target (target : Target) :
    Checks
      (match target with
        | .state i => if i < m.states.length then [] else [ModelError.markovStateNotFound m.name i]
        | .exit => [])
      (m.HasTarget target)
      fun e => ∃ i, target = .state i ∧ m.states.length ≤ i ∧
        e = .markovStateNotFound m.name i := by
  cases target with
  | exit => exact ⟨by simp [HasTarget], by simp⟩
  | state i =>
    refine (Checks.single (i < m.states.length) _).congr (by simp [HasTarget]) fun e => ?_
    simp

/-- A transition is checked for its target, then for its probability. -/
theorem checks_transitionDefects (t : MarkovTransition) :
    Checks (m.transitionDefects t) (m.TransitionWellFormed t) (m.TransitionDefect t) := by
  refine ((checks_target t.target).append (Checks.single _ _)).congr ?_ fun e => ?_
  · rw [isProbability_iff]
    exact ⟨fun h => ⟨h.1, h.2⟩, fun h => ⟨h.target, h.probability⟩⟩
  · rw [isProbability_iff]
    constructor
    · rintro (⟨i, hi, hle, rfl⟩ | ⟨htarget, hp, rfl⟩)
      · exact .missingTarget hi hle
      · exact .improbable htarget hp
    · intro h
      cases h with
      | missingTarget hi hle => exact .inl ⟨_, hi, hle, rfl⟩
      | improbable htarget hp => exact .inr ⟨htarget, hp, rfl⟩

/-- A state is checked for its service, its transitions, then for their sum. -/
theorem checks_stateDefects (s : MarkovState) :
    Checks (m.stateDefects services s) (m.StateWellFormed services s)
      (m.StateDefect services s) := by
  have hservice : (services.any fun r => r.id == s.service) = true ↔
      ∃ r ∈ services, r.id = s.service := by simp
  have hsum : Checks
      (if total s > 1.0 + tolerance then
        [ModelError.probabilityOverflow m.name s.service (total s)] else [])
      (¬ s.leftSum > 1.0 + 1e-9)
      fun e => s.leftSum > 1.0 + 1e-9 ∧ e = .probabilityOverflow m.name s.service s.leftSum := by
    rw [total_eq_leftSum, ← ite_not]
    exact (Checks.single _ _).congr .rfl fun e => by rw [not_not]; rfl
  refine (((Checks.single _ _).append (Checks.flatMap checks_transitionDefects)).append
    hsum).congr ?_ fun e => ?_
  · rw [hservice]
    exact ⟨fun h => ⟨h.1.1, h.1.2, h.2⟩, fun h => ⟨⟨h.service, h.transitions⟩, h.sum⟩⟩
  · rw [hservice]
    constructor
    · rintro ((⟨hundeclared, rfl⟩ | ⟨hdeclared, k, t, hfirst, ht⟩) | ⟨⟨hdeclared, hall⟩, hover, rfl⟩)
      · exact .undeclared fun r hr hid => hundeclared ⟨r, hr, hid⟩
      · exact .inTransition hdeclared hfirst ht
      · exact .overflow hdeclared hall hover
    · intro h
      cases h with
      | undeclared hundeclared =>
        exact .inl (.inl ⟨fun ⟨r, hr, hid⟩ => hundeclared r hr hid, rfl⟩)
      | inTransition hdeclared hfirst ht => exact .inl (.inr ⟨hdeclared, _, _, hfirst, ht⟩)
      | overflow hdeclared hall hover => exact .inr ⟨⟨hdeclared, hall⟩, hover, rfl⟩

/-- The initial state is refused if there is none, or if the model does not have it. -/
theorem checks_initial :
    Checks
      (match m.initial with
        | none => [ModelError.noMarkovInitial m.name]
        | some i => if i < m.states.length then [] else [.markovStateNotFound m.name i])
      (∃ i, m.initial = some i ∧ i < m.states.length)
      fun e => (m.initial = none ∧ e = .noMarkovInitial m.name) ∨
        ∃ i, m.initial = some i ∧ m.states.length ≤ i ∧ e = .markovStateNotFound m.name i := by
  cases m.initial with
  | none => exact ⟨by simp, by simp [eq_comm]⟩
  | some i =>
    refine (Checks.single (i < m.states.length) _).congr (by simp) fun e => ?_
    simp

/-- **A model with a file name that may be written to is checked** for its initial state, then for
its states. -/
theorem checks_defects (hname : Path.isContained m.filename) :
    Checks (m.defects services) (m.WellFormed services) (m.FirstDefect services) := by
  rw [defects, if_pos hname, List.nil_append]
  refine (checks_initial.append (Checks.flatMap checks_stateDefects)).congr ?_ fun e => ?_
  · exact ⟨fun h => ⟨h.1, h.2⟩, fun h => ⟨h.initial, h.states⟩⟩
  · constructor
    · rintro ((⟨hnone, rfl⟩ | ⟨i, hi, hle, rfl⟩) | ⟨hinitial, k, s, hfirst, hs⟩)
      · exact .noInitial hnone
      · exact .missingInitial hi hle
      · exact .inState hinitial hfirst hs
    · intro h
      cases h with
      | noInitial hnone => exact .inl (.inl ⟨hnone, rfl⟩)
      | missingInitial hi hle => exact .inl (.inr ⟨_, hi, hle, rfl⟩)
      | inState hinitial hfirst hs => exact .inr ⟨hinitial, _, _, hfirst, hs⟩

/-- A model is refused for the head of its defects. -/
theorem validate_eq_error_iff {e : ModelError} :
    m.validate services = .error e ↔ (m.defects services).head? = some e := by
  rw [validate]
  cases m.defects services <;> simp

/-- **Validation accepts the well-formed models** whose file names may be written to. -/
theorem validate_eq_ok_iff_wellFormed :
    m.validate services = .ok () ↔ Path.isContained m.filename ∧ m.WellFormed services := by
  constructor
  · intro h
    have hname := isContained_of_validate h
    exact ⟨hname, (checks_defects hname).nil_iff.1 (validate_eq_ok_iff.1 h)⟩
  · rintro ⟨hname, hwell⟩
    exact validate_eq_ok_iff.2 ((checks_defects hname).nil_iff.2 hwell)

/-- **The verdict of validation.** A model with a file name that may be written to is accepted if
and only if it is well formed, and else refused for its first defect. Neither a `NaN` nor an infinity
is the probability of a transition in order. -/
theorem verdict_of_validate (hname : Path.isContained m.filename) (services : List Service) :
    (m.validate services = .ok () ↔ m.WellFormed services) ∧
      (∀ e, m.validate services = .error e ↔ m.FirstDefect services e) ∧
      ∀ t, m.TransitionWellFormed t → Decimal.isFinite t.probability := by
  refine ⟨?_, fun e => ?_, fun t ht => ?_⟩
  · rw [validate_eq_ok_iff, (checks_defects hname).nil_iff]
  · rw [validate_eq_error_iff, (checks_defects hname).head_iff]
  · exact Decimal.isFinite_of_isProbability (isProbability_iff.2 ht.probability)

/-- A model whose second state has a transition that leads nowhere, with a number above one, and
whose third state is in a service that is not declared. -/
def stray : BehaviorModel where
  name := "stray"
  filename := "matrices/stray.csv"
  states := [
    ⟨"a", [⟨0.5, .state 1, .normal 1.0 1.0⟩, ⟨0.5, .exit, .normal 1.0 1.0⟩]⟩,
    ⟨"b", [⟨0.25, .exit, .normal 1.0 1.0⟩, ⟨1.5, .state 7, .normal 1.0 1.0⟩]⟩,
    ⟨"c", []⟩]
  initial := some 0

/-- It is refused for where the transition leads. -/
theorem verdict_of_validate_stray :
    Path.isContained stray.filename ∧ ¬ stray.WellFormed [.named "a", .named "b"] ∧
      stray.FirstDefect [.named "a", .named "b"] (.markovStateNotFound "stray" 7) := by
  have hname : Path.isContained stray.filename := by decide +kernel
  have hrefused : stray.validate [.named "a", .named "b"] =
      .error (.markovStateNotFound "stray" 7) := rfl
  obtain ⟨haccepts, hrefuses, -⟩ := verdict_of_validate hname [.named "a", .named "b"]
  refine ⟨hname, fun hwell => ?_, (hrefuses _).1 hrefused⟩
  cases hrefused.symm.trans (haccepts.2 hwell)

end BehaviorModel

end LoadPlan
