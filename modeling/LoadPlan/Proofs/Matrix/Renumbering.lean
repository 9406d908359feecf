import LoadPlan.Proofs.Matrix.View
import LoadPlan.Proofs.Session.Renumbering
import Mathlib.Data.List.FinRange
/-!
# A matrix does not show how the states are numbered

The index of a Markov state is its place in the list of states. `BehaviorModel.permute` moves the
states to other places, and their indices along. A build goes through the list of states when it
validates them and when it searches the state of a service. All states are validated, in whichever
order, and a service with one state at most has the same one in every order. Wherever else a build
reads an index, it has been moved along. So the same matrix is built (`MatrixBuilder.build_permute`).
-/

namespace LoadPlan

/-! ## Moving states -/

/-- The transition under new indices. -/
def MarkovTransition.renumber (f : ℕ → ℕ) (t : MarkovTransition) : MarkovTransition :=
  { t with target := t.target.renumber f }

/-- The state under new indices, with its transitions in their order. -/
def MarkovState.renumber (f : ℕ → ℕ) (s : MarkovState) : MarkovState :=
  { s with transitions := s.transitions.map (·.renumber f) }

namespace BehaviorModel

/-- **Where an index is moved** by a permutation of the states. An index that no state has stays. -/
def move (m : BehaviorModel) (σ : Equiv.Perm (Fin m.states.length)) (i : ℕ) : ℕ :=
  if h : i < m.states.length then σ ⟨i, h⟩ else i

/-- **The model with its states moved**: state number `i` becomes state number `σ i`. -/
def permute (m : BehaviorModel) (σ : Equiv.Perm (Fin m.states.length)) : BehaviorModel :=
  { m with
    states := List.ofFn fun j => (m.states.get (σ.symm j)).renumber (m.move σ)
    initial := m.initial.map (m.move σ) }

variable {m : BehaviorModel} {σ : Equiv.Perm (Fin m.states.length)} {services : List Service}

theorem length_permute : (m.permute σ).states.length = m.states.length := List.length_ofFn

/-- No index is moved into the model, or out of it. -/
theorem move_lt_iff {i : ℕ} : m.move σ i < m.states.length ↔ i < m.states.length := by
  rw [move]
  split
  · next h => exact ⟨fun _ => h, fun _ => (σ ⟨i, h⟩).isLt⟩
  · rfl

/-- **A state is found under its new index.** -/
theorem state?_permute (i : ℕ) :
    (m.permute σ).state? (m.move σ i) = (m.state? i).map (·.renumber (m.move σ)) := by
  have hmoved : m.move σ i < (m.permute σ).states.length ↔ i < m.states.length := by
    rw [length_permute, move_lt_iff]
  by_cases h : i < m.states.length
  · have hplace : m.move σ i = σ ⟨i, h⟩ := dif_pos h
    have hlt := hmoved.2 h
    rw [state?, state?, List.getElem?_eq_getElem h, List.getElem?_eq_getElem hlt, Option.map_some]
    simp [permute, hplace]
  · have hlt := mt hmoved.1 h
    rw [state?, state?, List.getElem?_eq_none (Nat.not_lt.1 h),
      List.getElem?_eq_none (Nat.not_lt.1 hlt), Option.map_none]

/-- The states are the same in another order, under new indices. -/
theorem perm_states_permute :
    (m.permute σ).states.Perm (m.states.map (·.renumber (m.move σ))) := by
  have hmoved : (m.permute σ).states =
      List.ofFn ((fun i => (m.states.get i).renumber (m.move σ)) ∘ σ.symm) := rfl
  have hplaced : m.states.map (·.renumber (m.move σ)) =
      List.ofFn fun i => (m.states.get i).renumber (m.move σ) := by
    conv_lhs => rw [← List.ofFn_get m.states, List.map_ofFn]
    rfl
  rw [hmoved, hplaced]
  exact Equiv.Perm.ofFn_comp_perm σ.symm _

theorem mem_states_permute {s' : MarkovState} :
    s' ∈ (m.permute σ).states ↔ ∃ s ∈ m.states, s.renumber (m.move σ) = s' := by
  rw [perm_states_permute.mem_iff, List.mem_map]

/-! ## Validation -/

theorem hasTarget_permute {target : Target} :
    (m.permute σ).HasTarget (target.renumber (m.move σ)) ↔ m.HasTarget target := by
  cases target with
  | exit => simp [HasTarget, Target.renumber]
  | state i => simp [HasTarget, Target.renumber, length_permute, move_lt_iff]

theorem transitionWellFormed_permute {t : MarkovTransition} :
    (m.permute σ).TransitionWellFormed (t.renumber (m.move σ)) ↔ m.TransitionWellFormed t := by
  constructor
  · rintro ⟨htarget, hprobability⟩
    exact ⟨hasTarget_permute.1 htarget, hprobability⟩
  · rintro ⟨htarget, hprobability⟩
    exact ⟨hasTarget_permute.2 htarget, hprobability⟩

/-- The transitions keep their order, so they add up to the same number. -/
theorem leftSum_renumber (f : ℕ → ℕ) (s : MarkovState) : (s.renumber f).leftSum = s.leftSum := by
  rw [MarkovState.leftSum, MarkovState.leftSum, MarkovState.renumber, List.map_map]
  rfl

theorem stateWellFormed_permute {s : MarkovState} :
    (m.permute σ).StateWellFormed services (s.renumber (m.move σ)) ↔
      m.StateWellFormed services s := by
  have htransitions : (∀ t ∈ (s.renumber (m.move σ)).transitions,
      (m.permute σ).TransitionWellFormed t) ↔ ∀ t ∈ s.transitions, m.TransitionWellFormed t := by
    rw [MarkovState.renumber, List.forall_mem_map]
    simp only [transitionWellFormed_permute]
  constructor
  · rintro ⟨hservice, hall, hsum⟩
    exact ⟨hservice, htransitions.1 hall, leftSum_renumber .. ▸ hsum⟩
  · rintro ⟨hservice, hall, hsum⟩
    exact ⟨hservice, htransitions.2 hall, (leftSum_renumber ..).symm ▸ hsum⟩

theorem wellFormed_permute : (m.permute σ).WellFormed services ↔ m.WellFormed services := by
  have hinitial : (∃ i, (m.permute σ).initial = some i ∧ i < (m.permute σ).states.length) ↔
      ∃ i, m.initial = some i ∧ i < m.states.length := by
    simp [permute, move_lt_iff]
  have hstates : (∀ s ∈ (m.permute σ).states, (m.permute σ).StateWellFormed services s) ↔
      ∀ s ∈ m.states, m.StateWellFormed services s := by
    simp only [mem_states_permute, forall_exists_index, and_imp, forall_apply_eq_imp_iff₂,
      stateWellFormed_permute]
  exact ⟨fun h => ⟨hinitial.1 h.initial, hstates.1 h.states⟩,
    fun h => ⟨hinitial.2 h.initial, hstates.2 h.states⟩⟩

/-- **A model is valid in every order of its states.** The first defect can be another one. -/
theorem validate_permute :
    (m.permute σ).validate services = .ok () ↔ m.validate services = .ok () := by
  rw [validate_eq_ok_iff_wellFormed, validate_eq_ok_iff_wellFormed, wellFormed_permute]
  rfl

/-! ## Searches -/

/-- The first think time is the same: the initial state has been moved along. -/
theorem firstThinkTime?_permute : (m.permute σ).firstThinkTime? = m.firstThinkTime? := by
  have hinitial : (m.permute σ).initialState? =
      m.initialState?.map (·.renumber (m.move σ)) := by
    rw [initialState?, initialState?, permute, Option.bind_map, Option.map_bind]
    exact congrArg _ (funext state?_permute)
  rw [firstThinkTime?, firstThinkTime?, hinitial, Option.bind_map]
  cases m.initialState? with
  | none => rfl
  | some s =>
    rw [Option.bind_some, Option.bind_some, Function.comp_apply, MarkovState.renumber,
      List.head?_map, Option.map_map]
    rfl

/-- A transition leads into the same column. -/
theorem columnOf?_permute (t : MarkovTransition) :
    (m.permute σ).columnOf? (t.renumber (m.move σ)) = m.columnOf? t := by
  rw [columnOf?, columnOf?, MarkovTransition.renumber]
  cases t.target with
  | exit => rfl
  | state i =>
    rw [Target.renumber, Column.ofTarget?, Column.ofTarget?, state?_permute, Option.map_map]
    rfl

/-- So the same transition of a state is the first into a column. -/
theorem transitionInto?_permute (s : MarkovState) (column : Column) :
    (s.renumber (m.move σ)).transitionInto? (m.permute σ) column =
      (s.transitionInto? m column).map (·.renumber (m.move σ)) := by
  rw [transitionInto?_eq, transitionInto?_eq, MarkovState.renumber, List.find?_map]
  simp only [Function.comp_def, columnOf?_permute]

/-- **The one state of a service stands for it**, wherever it is. -/
theorem standsFor_iff_mem (hone : (m.states.map (·.service)).Nodup) {service : String}
    {s : MarkovState} : m.StandsFor service s ↔ s ∈ m.states ∧ s.service = service := by
  constructor
  · rintro ⟨i, hfirst⟩
    exact ⟨hfirst.mem, hfirst.holds⟩
  · rintro ⟨hs, hservice⟩
    obtain ⟨i, r, hfirst⟩ := exists_firstAt (p := fun s => s.service = service) hs hservice
    obtain rfl : r = s :=
      List.inj_on_of_nodup_map hone hfirst.mem hs (hfirst.holds.trans hservice.symm)
    exact ⟨i, hfirst⟩

theorem nodup_services_permute (hone : (m.states.map (·.service)).Nodup) :
    ((m.permute σ).states.map (·.service)).Nodup := by
  rw [(perm_states_permute.map _).nodup_iff, List.map_map]
  exact hone

/-- The state of a service is the same. -/
theorem stateForService?_permute (hone : (m.states.map (·.service)).Nodup) (service : String) :
    (m.permute σ).stateForService? service =
      (m.stateForService? service).map (·.renumber (m.move σ)) := by
  ext s'
  simp only [Option.map_eq_some_iff, stateForService?_eq_some_iff, standsFor_iff_mem hone,
    standsFor_iff_mem (nodup_services_permute hone), mem_states_permute]
  constructor
  · rintro ⟨⟨s, hs, rfl⟩, hservice⟩
    exact ⟨s, ⟨hs, hservice⟩, rfl⟩
  · rintro ⟨s, ⟨hs, hservice⟩, rfl⟩
    exact ⟨⟨s, hs, rfl⟩, hservice⟩

/-- **The same transition is found for a cell.** -/
theorem transitionBetween?_permute (hone : (m.states.map (·.service)).Nodup) (service : String)
    (column : Column) :
    (m.permute σ).transitionBetween? service column =
      (m.transitionBetween? service column).map (·.renumber (m.move σ)) := by
  rw [transitionBetween?, transitionBetween?, stateForService?_permute hone, Option.bind_map,
    Option.map_bind]
  exact congrArg _ (funext fun s => transitionInto?_permute s column)

/-- **A model looks the same in every order of its states.** -/
theorem sameView_permute (hone : (m.states.map (·.service)).Nodup) :
    SameView services m (m.permute σ) := by
  refine ⟨rfl, rfl, fun r _ column _ => ?_⟩
  rw [transitionBetween?_permute hone, Option.map_map]
  rfl

end BehaviorModel

/-! ## The matrix -/

namespace MatrixBuilder

/-- **The same matrix is built in every order of the states**, if no service has two of them. -/
theorem build_permute {m : BehaviorModel} (hone : (m.states.map (·.service)).Nodup)
    (σ : Equiv.Perm (Fin m.states.length)) (b : MatrixBuilder) (services : List Service)
    (initial : Option String) (x : BehaviorMatrix) :
    b.build services initial (m.permute σ) = .ok x ↔ b.build services initial m = .ok x := by
  have hformatter : b.formatterFor (m.permute σ) = b.formatterFor m :=
    formatterFor_congr rfl (congrArg _ BehaviorModel.firstThinkTime?_permute)
  have hfill : b.fill services initial (m.permute σ) = b.fill services initial m :=
    fill_congr (BehaviorModel.sameView_permute hone) hformatter
  rw [build_eq_fill, build_eq_fill]
  simp only [check_bind_eq_ok_iff, mapError_eq_ok_iff, BehaviorModel.validate_permute, hfill]

/-- A model that starts at `a`, goes on to `b` and `c`, and comes back or leaves. -/
def circuit : BehaviorModel where
  name := "circuit"
  filename := "circuit.csv"
  states := [
    ⟨"a", [⟨1.0, .state 1, .normal 3.0 1.0⟩]⟩,
    ⟨"b", [⟨0.75, .state 2, .normal 2.0 1.0⟩, ⟨0.25, .exit, .normal 1.0 1.0⟩]⟩,
    ⟨"c", [⟨0.5, .state 0, .normal 4.0 1.0⟩, ⟨0.5, .state 1, .normal 5.0 1.0⟩]⟩]
  initial := some 0

/-- Written down from back to front, it starts in its last state and has the same matrix. -/
theorem build_permute_circuit :
    (circuit.states.map (·.service)).Nodup ∧
      (circuit.permute Fin.revPerm).initial = some 2 ∧
      (circuit.permute Fin.revPerm).states.map (·.service) = ["c", "b", "a"] ∧
      ∃ x, standard.build [.named "a", .named "b", .named "c"] (some "a") circuit = .ok x ∧
        standard.build [.named "a", .named "b", .named "c"] (some "a")
          (circuit.permute Fin.revPerm) = .ok x := by
  have hone : (circuit.states.map (·.service)).Nodup := by decide
  have hbuilt : (standard.build [.named "a", .named "b", .named "c"] (some "a")
      circuit).toOption.map (·.model) = some "circuit" := by decide +kernel
  obtain ⟨x, hbuilt, -⟩ := exists_eq_ok_of_toOption_map hbuilt
  exact ⟨hone, by decide, by decide, x, hbuilt,
    (build_permute hone Fin.revPerm standard _ _ x).2 hbuilt⟩

end MatrixBuilder

end LoadPlan
