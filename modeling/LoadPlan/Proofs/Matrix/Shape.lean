import LoadPlan.Proofs.First
import LoadPlan.Proofs.Matrix.FirstMatch
/-!
# The shape of a built matrix

A matrix over `n` services has a header and a row for each of them, all of `n + 2` cells. What a
cell shows is told apart from the searches that a build makes: `BehaviorModel.StandsFor` says which
state is read for a service, `BehaviorModel.Feeds` which of its transitions is read for a column, and
`BehaviorModel.Shows` what is then written. A build finds the transition that feeds the cell
(`BehaviorModel.transitionBetween?_eq_some_iff`), so its matrix has this shape:
`MatrixBuilder.shape_of_build`.
-/

namespace LoadPlan

/-! ## What a cell shows -/

namespace BehaviorModel

/-- **A state stands for a service**: it is the first one of the service. -/
def StandsFor (m : BehaviorModel) (service : String) (s : MarkovState) : Prop :=
  ∃ i, FirstAt (fun s => s.service = service) m.states i s

/-- **Transition number `k` of a state feeds a column**: it is the first one that leads there. -/
def Feeds (m : BehaviorModel) (s : MarkovState) (column : Column) (k : ℕ)
    (t : MarkovTransition) : Prop :=
  FirstAt (fun t => m.columnOf? t = some column) s.transitions k t

variable {m : BehaviorModel} {service : String} {column : Column}

theorem stateForService?_eq_some_iff {s : MarkovState} :
    m.stateForService? service = some s ↔ m.StandsFor service s := by
  rw [StandsFor, ← find?_eq_some_iff_firstAt]
  simp only [stateForService?, Bool.beq_eq_decide_eq]

/-- **A build finds what feeds the cell**: a transition of the state that stands for the service of
the row. -/
theorem transitionBetween?_eq_some_iff {t : MarkovTransition} :
    m.transitionBetween? service column = some t ↔
      ∃ s k, m.StandsFor service s ∧ m.Feeds s column k t := by
  simp only [transitionBetween?, Option.bind_eq_some_iff, stateForService?_eq_some_iff,
    transitionInto?_eq, find?_eq_some_iff_firstAt, Feeds, exists_and_left]

/-- It finds nothing if nothing feeds the cell. -/
theorem transitionBetween?_eq_none_iff :
    m.transitionBetween? service column = none ↔
      ∀ s k t, m.StandsFor service s → ¬ m.Feeds s column k t := by
  rw [Option.eq_none_iff_forall_ne_some]
  constructor
  · exact fun h s k t hs ht => h t (transitionBetween?_eq_some_iff.2 ⟨s, k, hs, ht⟩)
  · rintro h t ht
    obtain ⟨s, k, hs, ht⟩ := transitionBetween?_eq_some_iff.1 ht
    exact h s k t hs ht

/-- **What a cell shows**: the probability and the think time of the transition that feeds it, or
that there is none. -/
inductive Shows (m : BehaviorModel) (f : Formatter) (service : String) (column : Column) :
    String → Prop
  /-- A transition of the state that stands for the service feeds the cell. -/
  | fed {s : MarkovState} {k : ℕ} {t : MarkovTransition} {text : String} :
      m.StandsFor service s → m.Feeds s column k t → f.format t.thinkTime = some text →
      Shows m f service column (Cell.probability t.probability ++ "; " ++ text)
  /-- No state stands for the service, or none of its transitions leads into the column. -/
  | unfed :
      (∀ s k t, m.StandsFor service s → ¬ m.Feeds s column k t) →
      Shows m f service column ("0.0; " ++ f.default)

/-- The cell that is made of what a build finds shows what it is to show. -/
theorem shows_cell {f : Formatter} {cell : String}
    (h : MatrixBuilder.cell m f (m.transitionBetween? service column) = .ok cell) :
    m.Shows f service column cell := by
  rcases MatrixBuilder.cell_eq_ok_iff.1 h with ⟨hfound, rfl⟩ | ⟨t, text, hfound, htext, rfl⟩
  · have hzero : Cell.probability 0.0 ++ "; " = "0.0; " := by decide +kernel
    rw [Cell.write, hzero]
    exact .unfed (transitionBetween?_eq_none_iff.1 hfound)
  · obtain ⟨s, k, hs, ht⟩ := transitionBetween?_eq_some_iff.1 hfound
    exact .fed hs ht htext

end BehaviorModel

/-! ## Rows and columns -/

namespace MatrixBuilder

/-- **The formatter of a matrix** is the one for the think time of the initial state's first
transition. -/
def Chooses (b : MatrixBuilder) (m : BehaviorModel) (f : Formatter) : Prop :=
  ∃ i s t, m.initial = some i ∧ m.state? i = some s ∧ s.transitions.head? = some t ∧
    b.formatters.get? t.thinkTime.kind = some f

/-- **The shape of a matrix** over some services. -/
structure Shape (b : MatrixBuilder) (services : List Service) (initial : Option String)
    (model : BehaviorModel) (m : BehaviorMatrix) : Prop where
  /-- There is a header, and a row for each service. -/
  height : m.rows.length = services.length + 1
  /-- A row has a label, a cell for each service, and one for the exit. -/
  width : ∀ row ∈ m.rows, row.length = services.length + 2
  header : m.header = "" :: services.map (b.label initial) ++ [b.config.exitMarker]
  /-- A row has the label of the column of its service. -/
  labels : ∀ i < services.length, ∃ row, m.body[i]? = some row ∧ row.head? = m.header[i + 1]?
  /-- One formatter writes all the cells, and each shows what it is to show. -/
  cells : ∃ f, b.Chooses model f ∧
    ∀ (i : ℕ) s, services[i]? = some s → ∃ row, m.body[i]? = some row ∧
      ∀ (j : ℕ) column, (Column.all services)[j]? = some column →
        ∃ cell, row[j + 1]? = some cell ∧ model.Shows f s.id column cell

variable {b : MatrixBuilder} {services : List Service} {initial : Option String}
  {model : BehaviorModel} {m : BehaviorMatrix} {f : Formatter}

/-- A build takes the formatter of the matrix. -/
theorem formatterFor_eq_ok_iff : b.formatterFor model = .ok f ↔ b.Chooses model f := by
  unfold formatterFor
  constructor
  · intro h
    split at h
    · cases h
    · next t ht =>
      obtain ⟨s, hs, ht⟩ := Option.bind_eq_some_iff.1 ht
      obtain ⟨i, hi, hs⟩ := Option.bind_eq_some_iff.1 hs
      split at h
      · cases h
      · next hget =>
        cases h
        exact ⟨i, s, t, hi, hs, ht, hget⟩
  · rintro ⟨i, s, t, hi, hs, ht, hget⟩
    have hfirst : (model.initialState?.bind fun s => s.transitions.head?) = some t := by
      rw [BehaviorModel.initialState?, hi, Option.bind_some, hs, Option.bind_some, ht]
    simp only [hfirst, hget]

/-- **A built matrix has the shape of a matrix.** -/
theorem shape_of_build (h : b.build services initial model = .ok m) :
    b.Shape services initial model m := by
  obtain ⟨-, -, f, hf, -, rows, hrows, hm⟩ := build_eq_ok_iff.1 h
  have hheader : m.header = b.headerRow services initial := by rw [hm]; rfl
  refine ⟨?_, fun row hrow => ?_, hheader, fun i hi => ?_, f, formatterFor_eq_ok_iff.1 hf,
    fun i s hs => ?_⟩
  · rw [hm, List.length_cons, hrows.length_eq]
  · rw [hm] at hrow
    rcases List.mem_cons.1 hrow with rfl | hrow
    · simp [headerRow]
    · obtain ⟨s, -, hmade⟩ := exists_of_mem_of_forall₂ hrows hrow
      exact length_of_row hmade
  · have hs := List.getElem?_eq_getElem hi
    obtain ⟨row, hrow, hmade⟩ := exists_row_of_build h hf hs
    exact ⟨row, hrow, by rw [head?_of_row hmade, hheader, getElem?_headerRow hs]⟩
  · obtain ⟨row, hrow, hmade⟩ := exists_row_of_build h hf hs
    refine ⟨row, hrow, fun j column hj => ?_⟩
    obtain ⟨cell, hcell, hshown⟩ := exists_cell_of_row hmade hj
    exact ⟨cell, hcell, BehaviorModel.shows_cell hshown⟩

/-- A model with two states of the service `a`, one of `c` and none of `b`. Two transitions lead
back to `a`. -/
def roundabout : BehaviorModel where
  name := "roundabout"
  filename := "roundabout.csv"
  states := [
    ⟨"a", [⟨0.25, .state 2, .normal 1.0 1.0⟩, ⟨0.5, .state 1, .normal 2.0 1.0⟩,
      ⟨0.125, .exit, .normal 3.0 1.0⟩, ⟨0.0625, .state 0, .normal 4.0 1.0⟩]⟩,
    ⟨"a", [⟨1.0, .exit, .normal 5.0 1.0⟩]⟩,
    ⟨"c", []⟩]
  initial := some 0

/-- Its matrix shows the first state of `a`, and the first of the transitions back. -/
theorem shape_of_build_roundabout :
    ∃ m, standard.build [.named "a", .named "b", .named "c"] (some "a") roundabout = .ok m ∧
      m.rows = [["", "a*", "b", "c", "$"],
        ["a*", "0.5; n(2 1)", "0.0; n(0 0)", "0.25; n(1 1)", "0.125; n(3 1)"],
        ["b", "0.0; n(0 0)", "0.0; n(0 0)", "0.0; n(0 0)", "0.0; n(0 0)"],
        ["c", "0.0; n(0 0)", "0.0; n(0 0)", "0.0; n(0 0)", "0.0; n(0 0)"]] ∧
      standard.Shape [.named "a", .named "b", .named "c"] (some "a") roundabout m := by
  have hrows : (standard.build [.named "a", .named "b", .named "c"] (some "a")
      roundabout).toOption.map (·.rows) =
        some [["", "a*", "b", "c", "$"],
          ["a*", "0.5; n(2 1)", "0.0; n(0 0)", "0.25; n(1 1)", "0.125; n(3 1)"],
          ["b", "0.0; n(0 0)", "0.0; n(0 0)", "0.0; n(0 0)", "0.0; n(0 0)"],
          ["c", "0.0; n(0 0)", "0.0; n(0 0)", "0.0; n(0 0)", "0.0; n(0 0)"]] := by
    decide +kernel
  obtain ⟨m, hbuilt, hrows⟩ := exists_eq_ok_of_toOption_map hrows
  exact ⟨m, hbuilt, hrows, shape_of_build hbuilt⟩

end MatrixBuilder

end LoadPlan
