import LoadPlan.Matrix.Build
import LoadPlan.Proofs.Results
/-!
# What a built matrix is made of

A matrix is built by a row of checks, each of which may refuse it. `MatrixBuilder.build_eq_ok_iff`
says what all of them passing comes to, `MatrixBuilder.row_eq_ok_iff` the same of one row and
`MatrixBuilder.cell_eq_ok_iff` of one cell, so that nothing after this opens them.
-/

namespace LoadPlan

/-! ## Checks -/

/-- A layout passes without a fault. -/
theorem MatrixConfig.validate_eq_ok_iff {config : MatrixConfig} :
    config.validate = .ok () ↔
      MatrixConfig.inCell config.delimiter = false ∧
        breaksLine config.delimiter config.exitMarker = false ∧
        breaksLine config.delimiter config.initialMarker = false := by
  have hfaults : config.validate = .ok () ↔ config.faults = [] := by
    unfold validate
    cases config.faults <;> simp
  rw [hfaults, faults, List.append_eq_nil_iff, List.append_eq_nil_iff, and_assoc]
  simp

/-- A model passes without a defect. -/
theorem BehaviorModel.validate_eq_ok_iff {model : BehaviorModel} {services : List Service} :
    model.validate services = .ok () ↔ model.defects services = [] := by
  unfold validate
  cases model.defects services <;> simp

/-- The file of a valid model is contained. -/
theorem BehaviorModel.isContained_of_validate {model : BehaviorModel} {services : List Service}
    (h : model.validate services = .ok ()) : Path.isContained model.filename := by
  rw [validate_eq_ok_iff, defects, List.append_eq_nil_iff, List.append_eq_nil_iff] at h
  by_contra hcontained
  simp [hcontained] at h

/-- The built-in formatters are two. -/
theorem Formatters.eq_of_get?_builtIn {kind : ThinkTimeKind} {f : Formatter}
    (h : builtIn.get? kind = some f) : f = .normal ∨ f = .uniform := by
  rw [builtIn, register, register, Registry.get?_insert, Registry.get?_insert] at h
  split at h
  · cases h
    exact .inr rfl
  · split at h
    · cases h
      exact .inl rfl
    · cases h

namespace MatrixBuilder

variable {b : MatrixBuilder} {services : List Service} {initial : Option String}
  {model : BehaviorModel}

/-- Labels pass if none of them breaks a line. -/
theorem checkLabels_eq_ok_iff {labels : List String} :
    b.checkLabels model labels = .ok () ↔
      ∀ label ∈ labels, breaksLine b.config.delimiter label = false := by
  unfold checkLabels
  cases hfind : labels.find? (breaksLine b.config.delimiter) with
  | none => simpa using hfind
  | some label =>
    have hmem := List.mem_of_find?_eq_some hfind
    have hbreaks := List.find?_some hfind
    simp only [reduceCtorEq, false_iff, not_forall]
    exact ⟨label, hmem, by simp [hbreaks]⟩

/-! ## Rows and matrices -/

/-- **A cell is written from the transition that was found**, or from the default text if none
was. -/
theorem cell_eq_ok_iff {f : Formatter} {found : Option MarkovTransition} {cell : String} :
    MatrixBuilder.cell model f found = .ok cell ↔
      (found = none ∧ cell = Cell.write 0.0 f.default) ∨
        ∃ t text, found = some t ∧ f.format t.thinkTime = some text ∧
          cell = Cell.write t.probability text := by
  cases found with
  | none => simp [MatrixBuilder.cell, eq_comm]
  | some t => cases hformat : f.format t.thinkTime <;> simp [MatrixBuilder.cell, hformat, eq_comm]

/-- **A row is the label of its service and one cell for each column.** -/
theorem row_eq_ok_iff {f : Formatter} {s : Service} {row : List String} :
    b.row services initial model f s = .ok row ↔
      ∃ cells, row = b.label initial s :: cells ∧
        List.Forall₂ (fun column cell => MatrixBuilder.cell model f
          ((model.stateForService? s.id).bind fun st => st.transitionInto? model column) =
            .ok cell) (Column.all services) cells := by
  simp only [MatrixBuilder.row, bind_eq_ok_iff, mapM_eq_ok_iff, pure, Except.pure, Except.ok.injEq]
  constructor
  · rintro ⟨cells, hcells, rfl⟩
    exact ⟨cells, rfl, hcells⟩
  · rintro ⟨cells, rfl, hcells⟩
    exact ⟨cells, hcells, rfl⟩

/-- The header has the labels of the services after an empty cell. -/
theorem getElem?_headerRow {k : Nat} {s : Service} (hs : services[k]? = some s) :
    (b.headerRow services initial)[k + 1]? = some (b.label initial s) := by
  obtain ⟨hk, -⟩ := List.getElem?_eq_some_iff.1 hs
  rw [headerRow, List.cons_append, List.getElem?_cons_succ,
    List.getElem?_append_left (by simpa using hk), List.getElem?_map, hs, Option.map_some]

/-- A row starts with the label of its service. -/
theorem head?_of_row {f : Formatter} {s : Service} {row : List String}
    (h : b.row services initial model f s = .ok row) : row.head? = some (b.label initial s) := by
  obtain ⟨cells, rfl, -⟩ := row_eq_ok_iff.1 h
  rfl

/-- A row has a label, a cell for each service, and one for the exit. -/
theorem length_of_row {f : Formatter} {s : Service} {row : List String}
    (h : b.row services initial model f s = .ok row) : row.length = services.length + 2 := by
  obtain ⟨cells, rfl, hcells⟩ := row_eq_ok_iff.1 h
  simp [← hcells.length_eq, Column.all]

/-- The cells of a row, by the places of their columns. The label stands before them. -/
theorem exists_cell_of_row {f : Formatter} {s : Service} {row : List String}
    (h : b.row services initial model f s = .ok row) {j : Nat} {column : Column}
    (hj : (Column.all services)[j]? = some column) :
    ∃ cell, row[j + 1]? = some cell ∧ MatrixBuilder.cell model f
      ((model.stateForService? s.id).bind fun st => st.transitionInto? model column) =
        .ok cell := by
  obtain ⟨cells, rfl, hcells⟩ := row_eq_ok_iff.1 h
  obtain ⟨hlt, rfl⟩ := List.getElem?_eq_some_iff.1 hj
  have hlt' : j < cells.length := hcells.length_eq ▸ hlt
  exact ⟨cells[j], by rw [List.getElem?_cons_succ, List.getElem?_eq_getElem hlt'],
    List.Forall₂.get hcells hlt hlt'⟩

/-- **A matrix is built** if the layout and the model are valid, the think times have a formatter,
no label breaks its line, and every row can be made. It is the header and these rows. -/
theorem build_eq_ok_iff {m : BehaviorMatrix} :
    b.build services initial model = .ok m ↔
      b.config.validate = .ok () ∧ model.validate services = .ok () ∧
        ∃ f, b.formatterFor model = .ok f ∧
          (∀ s ∈ services, breaksLine b.config.delimiter (b.label initial s) = false) ∧
          ∃ rows, List.Forall₂ (fun s row => b.row services initial model f s = .ok row)
            services rows ∧
            m = ⟨model.name, model.filename, b.headerRow services initial :: rows⟩ := by
  rw [build, check_bind_eq_ok_iff, check_bind_eq_ok_iff, bind_eq_ok_iff, mapError_eq_ok_iff]
  simp only [check_bind_eq_ok_iff, checkLabels_eq_ok_iff, List.forall_mem_map]
  simp only [bind_eq_ok_iff, mapM_eq_ok_iff, pure, Except.pure, Except.ok.injEq, eq_comm (b := m)]

/-- The rows of a built matrix, by the places of their services. -/
theorem exists_row_of_build {m : BehaviorMatrix} (h : b.build services initial model = .ok m)
    {f : Formatter} (hf : b.formatterFor model = .ok f) {k : Nat} {s : Service}
    (hs : services[k]? = some s) :
    ∃ row, m.body[k]? = some row ∧ b.row services initial model f s = .ok row := by
  obtain ⟨-, -, f', hf', -, rows, hrows, rfl⟩ := build_eq_ok_iff.1 h
  rw [hf] at hf'
  cases hf'
  obtain ⟨hk, rfl⟩ := List.getElem?_eq_some_iff.1 hs
  have hk' : k < rows.length := hrows.length_eq ▸ hk
  exact ⟨rows[k], List.getElem?_eq_getElem hk', List.Forall₂.get hrows hk hk'⟩

end MatrixBuilder

end LoadPlan
