import LoadPlan.Proofs.Matrix.Coverage
/-!
# Finding cells by their labels

A cell is looked up by two labels, and a lookup takes the first row and the first column that bear
them. Every cell of a built matrix is found in this way (`Addressable`) if and only if rows that
have the same label are the same, and so are columns that have the same label (`LabelsTell`): this
is `addressable_iff`. A build looks at the ids of services, not at the labels that it makes of their
names and the markers, so there are matrices with cells that no lookup finds
(`not_addressable_twins`).
-/

namespace LoadPlan

/-! ## Lookups in a table -/

namespace BehaviorMatrix

/-- **No label is borne by two different rows, or by two different columns.** -/
structure LabelsTell (m : BehaviorMatrix) : Prop where
  rows : ∀ row ∈ m.body, ∀ other ∈ m.body, row.head? = other.head? → row = other
  columns : ∀ j < m.header.length, ∀ k < m.header.length, m.header[j]? = m.header[k]? →
    ∀ row ∈ m.body, row[j]? = row[k]?

/-- **Every entry is found by the labels of its row and its column.** -/
def FindsAll (m : BehaviorMatrix) : Prop :=
  ∀ row ∈ m.body, ∀ label, row.head? = some label →
    ∀ (j : ℕ) (column : String), m.header[j]? = some column → m.cell? label column = row[j]?

variable {m : BehaviorMatrix}

/-- A label of a row is found in a row that bears it. -/
theorem exists_row?_eq {row : List String} (hrow : row ∈ m.body) {label : String}
    (hlabel : row.head? = some label) :
    ∃ other ∈ m.body, m.row? label = some other ∧ other.head? = some label := by
  cases hfind : m.row? label with
  | none =>
    have hnot := List.find?_eq_none.1 hfind row hrow
    rw [hlabel, beq_self_eq_true] at hnot
    exact absurd rfl hnot
  | some other =>
    exact ⟨other, List.mem_of_find?_eq_some hfind, rfl, by simpa using List.find?_some hfind⟩

/-- A label of a column is found at a column that bears it. -/
theorem exists_findIdx?_eq {j : ℕ} {column : String} (hcolumn : m.header[j]? = some column) :
    ∃ i < m.header.length, m.header.findIdx? (· == column) = some i ∧
      m.header[i]? = some column := by
  cases hfind : m.header.findIdx? (· == column) with
  | none =>
    have hnot := List.findIdx?_eq_none_iff.1 hfind column (List.mem_of_getElem? hcolumn)
    rw [beq_self_eq_true] at hnot
    cases hnot
  | some i =>
    obtain ⟨hi, hat, -⟩ := List.findIdx?_eq_some_iff_getElem.1 hfind
    exact ⟨i, hi, rfl, by rw [List.getElem?_eq_getElem hi, beq_iff_eq.1 hat]⟩

/-- **In a table without ragged rows, all entries are found if and only if labels tell rows and
columns apart.** -/
theorem findsAll_iff_labelsTell (hlength : ∀ row ∈ m.body, row.length = m.header.length) :
    m.FindsAll ↔ m.LabelsTell := by
  have hhead : ∀ row ∈ m.body, ∀ j < m.header.length, ∃ label, row.head? = some label := by
    intro row hrow j hj
    have hpos : 0 < row.length := by rw [hlength row hrow]; omega
    exact ⟨row[0], by rw [List.head?_eq_getElem?, List.getElem?_eq_getElem hpos]⟩
  constructor
  · intro hfinds
    refine ⟨fun row hrow other hother hsame => ?_, fun j hj k hk hsame row hrow => ?_⟩
    · apply List.ext_getElem?
      intro j
      rcases lt_or_ge j m.header.length with hj | hj
      · -- the entries in column `j` are both what is found there
        obtain ⟨label, hlabel⟩ := hhead row hrow j hj
        have hcolumn : m.header[j]? = some m.header[j] := List.getElem?_eq_getElem hj
        rw [← hfinds row hrow label hlabel j _ hcolumn,
          hfinds other hother label (hsame.symm.trans hlabel) j _ hcolumn]
      · rw [List.getElem?_eq_none (by rw [hlength row hrow]; exact hj),
          List.getElem?_eq_none (by rw [hlength other hother]; exact hj)]
    · obtain ⟨label, hlabel⟩ := hhead row hrow j hj
      have hcolumn : m.header[j]? = some m.header[j] := List.getElem?_eq_getElem hj
      rw [← hfinds row hrow label hlabel j _ hcolumn,
        hfinds row hrow label hlabel k _ (hsame.symm.trans hcolumn)]
  · intro htell row hrow label hlabel j column hcolumn
    obtain ⟨other, hother, hfirst, hhead⟩ := exists_row?_eq hrow hlabel
    obtain ⟨i, hi, hidx, hat⟩ := exists_findIdx?_eq hcolumn
    obtain ⟨hj, -⟩ := List.getElem?_eq_some_iff.1 hcolumn
    rw [cell?, hidx, hfirst, htell.rows other hother row hrow (hhead.trans hlabel.symm)]
    exact htell.columns i hi j hj (hat.trans hcolumn.symm) row hrow

end BehaviorMatrix

/-! ## Lookups in a built matrix -/

namespace MatrixBuilder

/-- The columns of a matrix and their labels. -/
def labelledColumns (b : MatrixBuilder) (services : List Service) (initial : Option String) :
    List (Column × String) :=
  services.map (fun s => (.service s.id, b.label initial s)) ++ [(.exit, b.config.exitMarker)]

/-- The cell that is found under two labels is the one that was made for the service and the
column. -/
def FindsCell (b : MatrixBuilder) (model : BehaviorModel) (m : BehaviorMatrix) (s : Service)
    (column : Column) (rowLabel columnLabel : String) : Prop :=
  ∃ cell, b.rendering model (model.transitionBetween? s.id column) = .ok cell ∧
    m.cell? rowLabel columnLabel = some cell

/-- **The cells of a matrix are found by label**: those between two services by the labels of the
two, those of the exit by the label of the service and the marker of the exit. -/
structure Addressable (b : MatrixBuilder) (services : List Service) (initial : Option String)
    (model : BehaviorModel) (m : BehaviorMatrix) : Prop where
  service : ∀ s ∈ services, ∀ r ∈ services,
    b.FindsCell model m s (.service r.id) (b.label initial s) (b.label initial r)
  exit : ∀ s ∈ services, b.FindsCell model m s .exit (b.label initial s) b.config.exitMarker

/-- A row has the label of the service, and the cells that were made for it. -/
structure RowFor (b : MatrixBuilder) (services : List Service) (initial : Option String)
    (model : BehaviorModel) (s : Service) (row : List String) : Prop where
  head : row.head? = some (b.label initial s)
  length : row.length = services.length + 2
  cells : ∀ (j : ℕ) (c : Column × String), (b.labelledColumns services initial)[j]? = some c →
    ∃ cell, row[j + 1]? = some cell ∧
      b.rendering model (model.transitionBetween? s.id c.1) = .ok cell

variable {b : MatrixBuilder} {services : List Service} {initial : Option String}
  {model : BehaviorModel} {m : BehaviorMatrix}

theorem map_fst_labelledColumns (b : MatrixBuilder) (services : List Service)
    (initial : Option String) :
    (b.labelledColumns services initial).map (·.1) = Column.all services := by
  simp [labelledColumns, Column.all]

theorem headerRow_eq :
    b.headerRow services initial = "" :: (b.labelledColumns services initial).map (·.2) := by
  simp [labelledColumns, headerRow]

theorem addressable_iff_labelledColumns : b.Addressable services initial model m ↔
    ∀ s ∈ services, ∀ c ∈ b.labelledColumns services initial,
      b.FindsCell model m s c.1 (b.label initial s) c.2 := by
  constructor
  · rintro ⟨hservice, hexit⟩ s hs c hc
    rw [labelledColumns, List.mem_append, List.mem_map, List.mem_singleton] at hc
    rcases hc with ⟨r, hr, rfl⟩ | rfl
    · exact hservice s hs r hr
    · exact hexit s hs
  · intro h
    refine ⟨fun s hs r hr => h s hs (.service r.id, b.label initial r) ?_,
      fun s hs => h s hs (.exit, b.config.exitMarker) ?_⟩
    · exact List.mem_append_left _ (List.mem_map.2 ⟨r, hr, rfl⟩)
    · exact List.mem_append_right _ (List.mem_singleton.2 rfl)

/-- **A built matrix has the labels of the columns for its header, and a row for each service.** -/
theorem rowFor_of_build (h : b.build services initial model = .ok m) :
    m.header = "" :: (b.labelledColumns services initial).map (·.2) ∧
      List.Forall₂ (b.RowFor services initial model) services m.body := by
  obtain ⟨-, -, f, hf, -, rows, hrows, rfl⟩ := build_eq_ok_iff.1 h
  refine ⟨headerRow_eq, hrows.imp fun s row hrow => ?_⟩
  refine ⟨head?_of_row hrow, length_of_row hrow, fun j c hj => ?_⟩
  have hcolumn : (Column.all services)[j]? = some c.1 := by
    rw [← map_fst_labelledColumns b services initial, List.getElem?_map, hj,
      Option.map_some]
  rw [rendering_eq hf]
  exact exists_cell_of_row hrow hcolumn

/-- The rows of a built matrix have an entry for each column. -/
theorem length_eq_of_build (h : b.build services initial model = .ok m) {row : List String}
    (hrow : row ∈ m.body) : row.length = m.header.length := by
  obtain ⟨hheader, hbody⟩ := rowFor_of_build h
  obtain ⟨s, -, hfor⟩ := exists_of_mem_of_forall₂ hbody hrow
  rw [hfor.length, hheader, List.length_cons, List.length_map, labelledColumns, List.length_append,
    List.length_map, List.length_singleton]

/-- **The cells of a built matrix are found by label if and only if all its entries are.** -/
theorem addressable_iff_findsAll (h : b.build services initial model = .ok m) :
    b.Addressable services initial model m ↔ m.FindsAll := by
  obtain ⟨hheader, hbody⟩ := rowFor_of_build h
  rw [addressable_iff_labelledColumns]
  constructor
  · intro haddress row hrow label hlabel j column hcolumn
    obtain ⟨s, hs, hfor⟩ := exists_of_mem_of_forall₂ hbody hrow
    obtain rfl : b.label initial s = label := Option.some.inj (hfor.head.symm.trans hlabel)
    cases j with
    | zero =>
      -- the column of labels is the first of its name, and holds what rows are found by
      rw [hheader, List.getElem?_cons_zero, Option.some.injEq] at hcolumn
      obtain ⟨other, -, hfirst, hhead⟩ := BehaviorMatrix.exists_row?_eq hrow hlabel
      have hidx : m.header.findIdx? (· == column) = some 0 := by
        rw [hheader, ← hcolumn, List.findIdx?_cons, beq_self_eq_true, if_pos rfl]
      rw [BehaviorMatrix.cell?, hidx, hfirst, ← List.head?_eq_getElem?, hlabel]
      simpa [List.head?_eq_getElem?] using hhead
    | succ j =>
      rw [hheader, List.getElem?_cons_succ, List.getElem?_map, Option.map_eq_some_iff] at hcolumn
      obtain ⟨c, hc, rfl⟩ := hcolumn
      obtain ⟨cell, hmade, hfound⟩ := haddress s hs c (List.mem_of_getElem? hc)
      obtain ⟨cell', hentry, hmade'⟩ := hfor.cells j c hc
      rw [hmade] at hmade'
      cases hmade'
      rw [hfound, hentry]
  · intro hfinds s hs c hc
    obtain ⟨row, hrow, hfor⟩ := exists_of_mem_of_forall₂ hbody.flip hs
    obtain ⟨j, hj⟩ := List.mem_iff_getElem?.1 hc
    obtain ⟨cell, hentry, hmade⟩ := hfor.cells j c hj
    have hcolumn : m.header[j + 1]? = some c.2 := by
      rw [hheader, List.getElem?_cons_succ, List.getElem?_map, hj, Option.map_some]
    exact ⟨cell, hmade, (hfinds row hrow _ hfor.head (j + 1) c.2 hcolumn).trans hentry⟩

/-- Labels of columns that are all different tell rows and columns apart. -/
theorem labelsTell_of_nodup (h : b.build services initial model = .ok m)
    (hnodup : m.header.Nodup) : m.LabelsTell := by
  obtain ⟨hheader, hbody⟩ := rowFor_of_build h
  have hlabels : (services.map (b.label initial)).Nodup := by
    rw [hheader, List.nodup_cons, labelledColumns, List.map_append, List.map_map] at hnodup
    exact (List.nodup_append.1 hnodup.2).1
  refine ⟨fun row hrow other hother hsame => ?_, fun j hj k _ hsame row _ => ?_⟩
  · obtain ⟨i, hi, rfl⟩ := List.getElem_of_mem hrow
    obtain ⟨k, hk, rfl⟩ := List.getElem_of_mem hother
    have hi' : i < services.length := hbody.length_eq ▸ hi
    have hk' : k < services.length := hbody.length_eq ▸ hk
    have hlabel : m.body[i].head? = some (b.label initial services[i]) :=
      (List.Forall₂.get hbody hi' hi).head
    have hlabel' : m.body[k].head? = some (b.label initial services[k]) :=
      (List.Forall₂.get hbody hk' hk).head
    rw [hlabel, hlabel', Option.some.injEq] at hsame
    have hik : i = k := by
      refine (List.getElem?_inj (by simpa using hi') hlabels).1 ?_
      rw [List.getElem?_map, List.getElem?_map, List.getElem?_eq_getElem hi',
        List.getElem?_eq_getElem hk', Option.map_some, Option.map_some, hsame]
    subst hik
    rfl
  · rw [(List.getElem?_inj hj hnodup).1 hsame]

/-- **The cells of a built matrix are found by label if and only if no label is borne by different
rows or by different columns.** So they are when the labels in the header are all different. -/
theorem addressable_iff (h : b.build services initial model = .ok m) :
    (b.Addressable services initial model m ↔ m.LabelsTell) ∧
      (m.header.Nodup → b.Addressable services initial model m) := by
  have hiff : b.Addressable services initial model m ↔ m.LabelsTell :=
    (addressable_iff_findsAll h).trans
      (BehaviorMatrix.findsAll_iff_labelsTell fun _ => length_eq_of_build h)
  exact ⟨hiff, fun hnodup => hiff.2 (labelsTell_of_nodup h hnodup)⟩

/-- Where the commuter goes from home is found by the names of the services. -/
theorem addressable_iff_commuter :
    ∃ m, standard.build [⟨"h", "Home"⟩, ⟨"w", "Work"⟩] (some "h") commuter = .ok m ∧
      m.header = ["", "Home*", "Work", "$"] ∧ m.LabelsTell ∧
      standard.Addressable [⟨"h", "Home"⟩, ⟨"w", "Work"⟩] (some "h") commuter m ∧
      m.cell? "Home*" "Work" = some "0.5; n(1.5 0.25)" := by
  have hheader : (standard.build [⟨"h", "Home"⟩, ⟨"w", "Work"⟩] (some "h") commuter).toOption.map
      (fun m => (m.header, m.cell? "Home*" "Work")) =
        some (["", "Home*", "Work", "$"], some "0.5; n(1.5 0.25)") := by
    decide +kernel
  obtain ⟨m, hbuilt, hshown⟩ := exists_eq_ok_of_toOption_map hheader
  obtain ⟨hlabels, hcell⟩ := Prod.mk.inj hshown
  obtain ⟨hiff, hfinds⟩ := addressable_iff hbuilt
  have hall := hfinds (by rw [hlabels]; decide)
  exact ⟨m, hbuilt, hlabels, hiff.1 hall, hall, hcell⟩

/-- A model that visits the second of two shops. -/
def secondShop : BehaviorModel where
  name := "shopper"
  filename := "shopper.csv"
  states := [⟨"b", [⟨0.75, .exit, .normal 1.0 1.0⟩]⟩]
  initial := some 0

/-- Both shops have the same name, so the row of the second is not found: a lookup says that no one
leaves it. -/
theorem not_addressable_twins :
    ([⟨"a", "Shop"⟩, ⟨"b", "Shop"⟩].map Service.id).Nodup ∧
      ∃ m, standard.build [⟨"a", "Shop"⟩, ⟨"b", "Shop"⟩] none secondShop = .ok m ∧
        m.rows = [["", "Shop", "Shop", "$"],
          ["Shop", "0.0; n(0 0)", "0.0; n(0 0)", "0.0; n(0 0)"],
          ["Shop", "0.0; n(0 0)", "0.0; n(0 0)", "0.75; n(1 1)"]] ∧
        m.cell? "Shop" "$" = some "0.0; n(0 0)" ∧
        ¬ standard.Addressable [⟨"a", "Shop"⟩, ⟨"b", "Shop"⟩] none secondShop m := by
  have hrows : (standard.build [⟨"a", "Shop"⟩, ⟨"b", "Shop"⟩] none secondShop).toOption.map
      (fun m => (m.rows, m.cell? "Shop" "$")) =
        some ([["", "Shop", "Shop", "$"],
          ["Shop", "0.0; n(0 0)", "0.0; n(0 0)", "0.0; n(0 0)"],
          ["Shop", "0.0; n(0 0)", "0.0; n(0 0)", "0.75; n(1 1)"]], some "0.0; n(0 0)") := by
    decide +kernel
  obtain ⟨m, hbuilt, hshown⟩ := exists_eq_ok_of_toOption_map hrows
  obtain ⟨hrows, hcell⟩ := Prod.mk.inj hshown
  refine ⟨by decide, m, hbuilt, hrows, hcell, fun haddress => ?_⟩
  obtain ⟨cell, hmade, hfound⟩ := haddress.exit ⟨"b", "Shop"⟩ (by decide)
  -- what is found is the cell of the first shop, what was made leaves the second
  have hmade' : (standard.rendering secondShop
      (secondShop.transitionBetween? "b" .exit)).toOption = some "0.75; n(1 1)" := by
    decide +kernel
  rw [hmade] at hmade'
  cases hmade'
  exact absurd (hcell.symm.trans hfound) (by decide)

end MatrixBuilder

end LoadPlan
