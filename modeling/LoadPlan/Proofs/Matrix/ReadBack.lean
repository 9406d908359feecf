import LoadPlan.Proofs.Decimal.Alphabet
import LoadPlan.Proofs.Matrix.Building
/-!
# Reading a matrix back

A matrix is written without quotes, so its rows can be read back only if no cell holds the
delimiter or a line break. The checks of a build see to that for the labels and the markers, the
check of the layout for the numbers and what stands around them; the rest is up to the formatter
(`Formatter.FitsCells`). The built-in ones write nothing that a valid delimiter could be.
-/

namespace LoadPlan

/-! ## Texts without a delimiter or line break -/

theorem breaksLine_eq_false_iff {d : Char} {s : String} :
    breaksLine d s = false ↔ d ∉ s.toList ∧ '\n' ∉ s.toList ∧ '\r' ∉ s.toList := by
  simp only [breaksLine, List.any_eq_false, Bool.or_eq_true, beq_iff_eq]
  grind

theorem breaksLine_append (d : Char) (s t : String) :
    breaksLine d (s ++ t) = (breaksLine d s || breaksLine d t) := by
  simp [breaksLine]

namespace MatrixConfig

/-- A character of a cell that does not end a line. -/
def isInline (c : Char) : Bool := inCell c && c != '\n' && c != '\r'

/-- **A text made for cells does not break a line** under a delimiter that is not. -/
theorem breaksLine_eq_false {d : Char} (hd : inCell d = false) {s : String}
    (hs : s.toList.all isInline) : breaksLine d s = false := by
  rw [List.all_eq_true] at hs
  rw [breaksLine_eq_false_iff]
  refine ⟨fun h => ?_, fun h => ?_, fun h => ?_⟩
  · have hcell := hs d h
    simp [isInline, hd] at hcell
  · exact absurd (hs _ h) (by decide)
  · exact absurd (hs _ h) (by decide)

/-- Numbers, infinities and `NaN` are made for cells. -/
theorem isInline_of_isFloatChar {c : Char} (h : Decimal.isFloatChar c) : isInline c := by
  have hword : c.isAlphanum → isInline c := by
    intro hword
    have hbreak : c ≠ '\n' ∧ c ≠ '\r' := by
      constructor <;> rintro rfl <;> exact absurd hword (by decide)
    simp [isInline, inCell, Text.isAlphanumeric_of_isAlphanum hword, hbreak]
  simp only [Decimal.isFloatChar, Decimal.isNumberChar, Bool.or_eq_true, List.contains_iff_mem,
    List.mem_cons, List.not_mem_nil, or_false] at h
  rcases h with (hdigit | rfl | rfl | rfl | rfl) | rfl | rfl | rfl | rfl | rfl
  · exact hword (by simp [Char.isAlphanum, hdigit])
  · decide
  · decide
  · decide
  all_goals exact hword (by decide)

/-- **A written double does not break a line.** -/
theorem breaksLine_write {d : Char} (hd : inCell d = false) (style : Decimal.Style) (x : Float) :
    breaksLine d (style.write x) = false := by
  refine breaksLine_eq_false hd (List.all_eq_true.2 fun c hc => ?_)
  rw [Decimal.Style.write, String.toList_ofList] at hc
  exact isInline_of_isFloatChar (List.all_eq_true.1 (style.all_isFloatChar_chars x) c hc)

end MatrixConfig

/-! ## Formatters -/

/-- **The formatter fits into cells**: neither its texts nor its default hold the delimiter or a
line break. -/
def Formatter.FitsCells (d : Char) (f : Formatter) : Prop :=
  breaksLine d f.default = false ∧ ∀ t text, f.format t = some text → breaksLine d text = false

/-- Every registered formatter fits into cells. -/
def Formatters.FitCells (d : Char) (r : Formatters) : Prop :=
  ∀ kind f, r.get? kind = some f → f.FitsCells d

namespace Formatter

variable {d : Char}

/-- A letter and two numbers fit, whatever the numbers. -/
theorem breaksLine_pair (hd : MatrixConfig.inCell d = false) {letter : String}
    (hletter : letter.toList.all MatrixConfig.isInline) (x y : Float) :
    breaksLine d (pair letter x y) = false := by
  have hopen : breaksLine d "(" = false := MatrixConfig.breaksLine_eq_false hd (by decide)
  have hblank : breaksLine d " " = false := MatrixConfig.breaksLine_eq_false hd (by decide)
  have hclose : breaksLine d ")" = false := MatrixConfig.breaksLine_eq_false hd (by decide)
  simp only [pair, breaksLine_append, MatrixConfig.breaksLine_write hd, hopen, hblank, hclose,
    MatrixConfig.breaksLine_eq_false hd hletter, Bool.or_self]

theorem fitsCells_normal (hd : MatrixConfig.inCell d = false) : normal.FitsCells d := by
  refine ⟨MatrixConfig.breaksLine_eq_false hd (by decide), fun t text htext => ?_⟩
  cases t with
  | normal mean deviation =>
    cases htext
    exact breaksLine_pair hd (by decide) mean deviation
  | uniform | extension => cases htext

theorem fitsCells_uniform (hd : MatrixConfig.inCell d = false) : uniform.FitsCells d := by
  refine ⟨MatrixConfig.breaksLine_eq_false hd (by decide), fun t text htext => ?_⟩
  cases t with
  | uniform least greatest =>
    cases htext
    exact breaksLine_pair hd (by decide) least greatest
  | normal | extension => cases htext

end Formatter

theorem Formatters.fitCells_builtIn {d : Char} (hd : MatrixConfig.inCell d = false) :
    builtIn.FitCells d := by
  intro kind f hf
  rcases eq_of_get?_builtIn hf with rfl | rfl
  · exact Formatter.fitsCells_normal hd
  · exact Formatter.fitsCells_uniform hd

/-! ## Reading rows -/

/-- The lines of a text, without an empty one at its end. -/
def readLines (text : String) : List (List Char) :=
  let lines := Text.splitOn '\n' text.toList
  if lines.getLast? = some [] then lines.dropLast else lines

/-- **The rows of a written matrix**: its lines, cut at the delimiter. -/
def readRows (d : Char) (text : String) : List (List String) :=
  (readLines text).map fun line => (Text.splitOn d line).map String.ofList

/-- Lines are read as they were written, one for each row. -/
theorem splitOn_lines {d : Char} {rows : List (List String)}
    (h : ∀ row ∈ rows, '\n' ∉ Text.joinWith d (row.map String.toList)) :
    Text.splitOn '\n' (rows.flatMap (BehaviorMatrix.line d)) =
      (rows.map fun row => Text.joinWith d (row.map String.toList)) ++ [[]] := by
  induction rows with
  | nil => rfl
  | cons row rows ih =>
    obtain ⟨hrow, hrows⟩ := List.forall_mem_cons.1 h
    rw [List.flatMap_cons, BehaviorMatrix.line, List.append_assoc, List.singleton_append,
      Text.splitOn_append hrow, ih hrows, List.map_cons, List.cons_append]

/-- A character of joined parts is in a part, or it is the separator. -/
theorem Text.mem_joinWith {sep c : Char} {parts : List (List Char)} (h : c ∈ joinWith sep parts) :
    c = sep ∨ ∃ part ∈ parts, c ∈ part := by
  induction parts with
  | nil => cases h
  | cons part rest ih =>
    cases rest with
    | nil => exact .inr ⟨part, List.mem_cons_self, h⟩
    | cons next rest =>
      rw [joinWith_cons (by simp), List.mem_append, List.mem_cons] at h
      rcases h with hpart | rfl | hrest
      · exact .inr ⟨part, List.mem_cons_self, hpart⟩
      · exact .inl rfl
      · obtain hsep | ⟨other, hother, hc⟩ := ih hrest
        · exact .inl hsep
        · exact .inr ⟨other, List.mem_cons_of_mem part hother, hc⟩

/-- **Rows whose cells break no line are read as they were written.** -/
theorem readRows_delimited {d : Char} (hd : d ≠ '\n') {m : BehaviorMatrix}
    (h : ∀ row ∈ m.rows, row ≠ [] ∧ ∀ cell ∈ row, breaksLine d cell = false) :
    readRows d (m.delimited d) = m.rows := by
  have hlines : ∀ row ∈ m.rows, '\n' ∉ Text.joinWith d (row.map String.toList) := by
    intro row hrow hbreak
    obtain heq | ⟨part, hpart, hin⟩ := Text.mem_joinWith hbreak
    · exact hd heq.symm
    · obtain ⟨cell, hcell, rfl⟩ := List.mem_map.1 hpart
      exact (breaksLine_eq_false_iff.1 ((h row hrow).2 cell hcell)).2.1 hin
  have hcells : ∀ row ∈ m.rows,
      (Text.splitOn d (Text.joinWith d (row.map String.toList))).map String.ofList = row := by
    intro row hrow
    obtain ⟨hne, hfit⟩ := h row hrow
    rw [Text.splitOn_joinWith (by simpa using hne) fun part hpart => ?_]
    · simp
    · obtain ⟨cell, hcell, rfl⟩ := List.mem_map.1 hpart
      exact (breaksLine_eq_false_iff.1 (hfit cell hcell)).1
  rw [readRows, readLines, BehaviorMatrix.delimited, String.toList_ofList, splitOn_lines hlines]
  simp only [List.getLast?_concat, if_true, List.dropLast_concat, List.map_map]
  exact (List.map_congr_left hcells).trans (List.map_id _)

/-! ## Built matrices -/

namespace MatrixBuilder

variable {b : MatrixBuilder} {services : List Service} {initial : Option String}
  {model : BehaviorModel}

/-- The formatter of a matrix is a registered one. -/
theorem exists_get?_of_formatterFor {f : Formatter} (h : b.formatterFor model = .ok f) :
    ∃ kind, b.formatters.get? kind = some f := by
  unfold formatterFor at h
  split at h
  · cases h
  · next t _ =>
    split at h
    · cases h
    · next g hg =>
      cases h
      exact ⟨t.thinkTime.kind, hg⟩

/-- A cell breaks no line if its think time breaks none. -/
theorem breaksLine_cell {d : Char} (hd : MatrixConfig.inCell d = false) {f : Formatter}
    (hf : f.FitsCells d) {t : Option MarkovTransition} {cell : String}
    (h : MatrixBuilder.cell model f t = .ok cell) : breaksLine d cell = false := by
  have hmark : breaksLine d "; " = false := MatrixConfig.breaksLine_eq_false hd (by decide)
  have hwrite : ∀ p text, breaksLine d text = false → breaksLine d (Cell.write p text) = false := by
    intro p text htext
    simp only [Cell.write, Cell.probability, breaksLine_append, MatrixConfig.breaksLine_write hd,
      hmark, htext, Bool.or_self]
  rcases cell_eq_ok_iff.1 h with ⟨-, rfl⟩ | ⟨t, text, -, htext, rfl⟩
  · exact hwrite _ _ hf.1
  · exact hwrite _ _ (hf.2 _ _ htext)

/-- **Every row of a built matrix has a cell for each service and two more, and none of them
breaks its line.** -/
theorem rows_of_build (hfit : b.formatters.FitCells b.config.delimiter) {m : BehaviorMatrix}
    (h : b.build services initial model = .ok m) :
    ∀ row ∈ m.rows, row.length = services.length + 2 ∧
      ∀ cell ∈ row, breaksLine b.config.delimiter cell = false := by
  obtain ⟨hconfig, -, f, hf, hlabels, rows, hrows, rfl⟩ := build_eq_ok_iff.1 h
  obtain ⟨hd, hexit, -⟩ := MatrixConfig.validate_eq_ok_iff.1 hconfig
  obtain ⟨kind, hkind⟩ := exists_get?_of_formatterFor hf
  refine List.forall_mem_cons.2 ⟨⟨by simp [headerRow], ?_⟩, fun row hrow => ?_⟩
  · -- the header
    intro cell hcell
    rw [headerRow, List.cons_append, List.mem_cons, List.mem_append, List.mem_singleton] at hcell
    rcases hcell with rfl | hlabel | rfl
    · rfl
    · obtain ⟨s, hs, rfl⟩ := List.mem_map.1 hlabel
      exact hlabels s hs
    · exact hexit
  · -- the row of a service
    obtain ⟨s, hs, hrow⟩ := exists_of_mem_of_forall₂ hrows hrow
    refine ⟨length_of_row hrow, ?_⟩
    obtain ⟨cells, rfl, hcells⟩ := row_eq_ok_iff.1 hrow
    refine List.forall_mem_cons.2 ⟨hlabels s hs, ?_⟩
    intro cell hcell
    obtain ⟨column, -, hmade⟩ := exists_of_mem_of_forall₂ hcells hcell
    exact breaksLine_cell hd (hfit kind f hkind) hmade

/-- **A built matrix can be read back**, cell for cell, if the formatters fit into cells; the
built-in ones do, under every valid layout. -/
theorem rows_read_back (config : MatrixConfig) :
    (∀ formatters services initial model m, Formatters.FitCells config.delimiter formatters →
      build ⟨config, formatters⟩ services initial model = .ok m →
      readRows config.delimiter (m.delimited config.delimiter) = m.rows ∧
        ∀ row ∈ m.rows, row.length = services.length + 2) ∧
    (config.validate = .ok () →
      Formatter.normal.FitsCells config.delimiter ∧
        Formatter.uniform.FitsCells config.delimiter ∧
        Formatters.builtIn.FitCells config.delimiter) := by
  constructor
  · intro formatters services initial model m hfit hm
    have hrows := rows_of_build hfit hm
    obtain ⟨hconfig, -⟩ := build_eq_ok_iff.1 hm
    have hd : config.delimiter ≠ '\n' := by
      intro heq
      have hcell := (MatrixConfig.validate_eq_ok_iff.1 hconfig).1
      rw [heq] at hcell
      exact absurd hcell (by decide)
    refine ⟨readRows_delimited hd fun row hrow => ⟨?_, (hrows row hrow).2⟩,
      fun row hrow => (hrows row hrow).1⟩
    rintro rfl
    exact absurd (hrows [] hrow).1 (by simp)
  · intro hconfig
    obtain ⟨hd, -, -⟩ := MatrixConfig.validate_eq_ok_iff.1 hconfig
    exact ⟨Formatter.fitsCells_normal hd, Formatter.fitsCells_uniform hd,
      Formatters.fitCells_builtIn hd⟩

/-- A model that goes to and fro between two services, or leaves. -/
def commuter : BehaviorModel where
  name := "commuter"
  filename := "commuter.csv"
  states := [
    ⟨"h", [⟨0.5, .state 1, .normal 1.5 0.25⟩, ⟨0.5, .exit, .normal 3000.0 300.0⟩]⟩,
    ⟨"w", [⟨1.0, .state 0, .normal 1.0e21 0.0⟩]⟩]
  initial := some 0

theorem rows_read_back_commuter :
    ∃ m, standard.build [⟨"h", "Home"⟩, ⟨"w", "Work"⟩] (some "h") commuter = .ok m ∧
      readRows ',' (m.delimited ',') = m.rows ∧ ∀ row ∈ m.rows, row.length = 4 := by
  have hbuilt : (standard.build [⟨"h", "Home"⟩, ⟨"w", "Work"⟩] (some "h") commuter).toBool := by
    decide +kernel
  have hvalid : MatrixConfig.standard.validate = .ok () :=
    MatrixConfig.validate_eq_ok_iff.2 (by decide +kernel)
  have hback := rows_read_back .standard
  cases h : standard.build [⟨"h", "Home"⟩, ⟨"w", "Work"⟩] (some "h") commuter with
  | error e =>
    rw [h] at hbuilt
    cases hbuilt
  | ok m => exact ⟨m, rfl, hback.1 _ _ _ _ m (hback.2 hvalid).2.2 h⟩

end MatrixBuilder

end LoadPlan
